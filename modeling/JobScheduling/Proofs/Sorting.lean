import Mathlib

/-! Sorting by a key. Items that have one key stay as they were, so in a list without duplicates each item has its place
    in one order that does not turn on the other items: what is left out may be left out before or after. -/

namespace JobScheduling

/-! ### Places in a list -/

theorem pair_sublist_or {α : Type} {a b : α} (hne : a ≠ b) : ∀ {l : List α}, a ∈ l → b ∈ l →
    [a, b].Sublist l ∨ [b, a].Sublist l
  | c :: l, ha, hb => by
    rcases List.mem_cons.mp ha with rfl | hal
    · exact Or.inl ((List.singleton_sublist.mpr ((List.mem_cons.mp hb).resolve_left hne.symm)).cons_cons a)
    · rcases List.mem_cons.mp hb with rfl | hbl
      · exact Or.inr ((List.singleton_sublist.mpr hal).cons_cons b)
      · exact (pair_sublist_or hne hal hbl).imp (·.cons c) (·.cons c)

theorem not_swapped_sublist {α : Type} {a b : α} : ∀ {l : List α}, l.Nodup → [a, b].Sublist l → ¬[b, a].Sublist l
  | c :: l, hl, hab, hba => by
    obtain ⟨hc, hl⟩ := List.nodup_cons.mp hl
    cases hab with
    | cons _ hab =>
      cases hba with
      | cons _ hba => exact not_swapped_sublist hl hab hba
      | cons_cons _ hba => exact hc (hab.subset (by simp))
    | cons_cons _ hb =>
      cases hba with
      | cons _ hba => exact hc (hba.subset (by simp))
      | cons_cons _ _ => exact hc (List.singleton_sublist.mp hb)

/-! ### Sorting -/

section Sorting
variable {α : Type} {key : α → Int} {l : List α}

/-- Whether the key of one is not beyond that of another. -/
def byKey (key : α → Int) (a b : α) : Bool := decide (key a ≤ key b)

theorem byKey_trans (a b c : α) (hab : byKey key a b = true) (hbc : byKey key b c = true) : byKey key a c = true := by
  simp only [byKey, decide_eq_true_eq] at *
  omega

theorem byKey_total (a b : α) : (byKey key a b || byKey key b a) = true := by
  simp only [byKey, Bool.or_eq_true, decide_eq_true_eq]
  omega

/-- One comes before another: its key is less, or of the two that have one key it comes first in the list. -/
def Precedes (key : α → Int) (l : List α) (a b : α) : Prop := key a < key b ∨ key a = key b ∧ [a, b].Sublist l

theorem Precedes.asymm (hl : l.Nodup) {a b : α} (hab : Precedes key l a b) (hba : Precedes key l b a) : False := by
  rcases hab with hlt | ⟨heq, hab⟩
  · rcases hba with hlt' | ⟨heq, -⟩ <;> omega
  · rcases hba with hlt | ⟨-, hba⟩
    · omega
    · exact not_swapped_sublist hl hab hba

/-- Sorting puts before another item whatever comes before it, and nothing else. -/
theorem pairwise_precedes (hl : l.Nodup) : (l.mergeSort (byKey key)).Pairwise (Precedes key l) := by
  have hnodup : (l.mergeSort (byKey key)).Nodup := (List.mergeSort_perm l _).nodup_iff.mpr hl
  rw [List.pairwise_iff_forall_sublist]
  intro a b hab
  have hle : key a ≤ key b := by
    have hsorted := List.pairwise_iff_forall_sublist.mp (List.pairwise_mergeSort byKey_trans byKey_total l) hab
    exact of_decide_eq_true hsorted
  rcases hle.lt_or_eq with hlt | heq
  · exact Or.inl hlt
  · have hne : a ≠ b := by
      rintro rfl
      exact not_swapped_sublist hnodup hab hab
    have ha : a ∈ l := List.mem_mergeSort.mp (hab.subset (by simp))
    have hb : b ∈ l := List.mem_mergeSort.mp (hab.subset (by simp))
    refine Or.inr ⟨heq, (pair_sublist_or hne ha hb).resolve_right fun hba => ?_⟩
    exact not_swapped_sublist hnodup hab
      (List.pair_sublist_mergeSort byKey_trans byKey_total (decide_eq_true heq.ge) hba)

/-- To leave some out before sorting or after it comes to the same. -/
theorem mergeSort_filter (hl : l.Nodup) (p : α → Bool) :
    (l.filter p).mergeSort (byKey key) = (l.mergeSort (byKey key)).filter p := by
  have hleft : ((l.filter p).mergeSort (byKey key)).Pairwise (Precedes key l) :=
    (pairwise_precedes (hl.filter p)).imp fun h => h.imp_right fun ⟨heq, hsub⟩ => ⟨heq, hsub.trans List.filter_sublist⟩
  have hright : ((l.mergeSort (byKey key)).filter p).Pairwise (Precedes key l) := (pairwise_precedes hl).filter p
  refine List.Perm.eq_of_pairwise (fun a b _ _ hab hba => (hab.asymm hl hba).elim) hleft hright ?_
  exact (List.mergeSort_perm _ _).trans ((List.mergeSort_perm l _).symm.filter p)

/-- What comes first in a list by a test is the beginning of what comes by a weaker test. -/
theorem filter_prefix_filter {p q : α → Bool} (hpq : ∀ a, p a = true → q a = true) :
    ∀ {l : List α}, l.Pairwise (fun a b => p b = true → p a = true) → l.filter p <+: l.filter q
  | [], _ => List.prefix_rfl
  | a :: l, h => by
    obtain ⟨ha, hl⟩ := List.pairwise_cons.mp h
    by_cases hpa : p a = true
    · rw [List.filter_cons_of_pos hpa, List.filter_cons_of_pos (hpq a hpa), List.cons_prefix_cons]
      exact ⟨rfl, filter_prefix_filter hpq hl⟩
    · have hnil : (a :: l).filter p = [] := by
        rw [List.filter_eq_nil_iff]
        rintro b hb hpb
        rcases List.mem_cons.mp hb with rfl | hb
        · exact hpa hpb
        · exact hpa (ha b hb hpb)
      rw [hnil]
      exact List.nil_prefix

end Sorting

end JobScheduling
