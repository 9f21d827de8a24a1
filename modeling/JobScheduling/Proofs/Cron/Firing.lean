import JobScheduling.Cron.Occurrence
import JobScheduling.Proofs.Cron.LeastFrom
import JobScheduling.Proofs.Zone.GapEnd

/-! The instants that serve a reading: those that read it, and the end of the gap that it falls into. A reading that
    is later than that of an instant is served after that instant, so a search that looks for the first of these
    never has to go on to another reading. -/

namespace JobScheduling
namespace Cron

open Calendar Offsets

/-- An instant serves a reading by having it, or as the end of the gap that the reading falls into. -/
def Serves (off : Int → Int) (u r : Int) : Prop := u + off u = r ∨ InGap off u r

section Firing
variable {z : Offsets} {off : Int → Int} (hz : z.Spaced off)
include hz

/-! ### The instants that serve a reading -/

/-- The instants at which a whole second fires are those that serve it, in ascending order. -/
theorem firings_eq_ok {r : Int} {us : List Int} (hr : r % second = 0) (h : firings z r = .ok us) :
    us.Pairwise (· < ·) ∧ ∀ u, u ∈ us ↔ Serves off u r := by
  obtain ⟨found, hfound, h⟩ := Outcome.bind_eq_ok.mp h
  obtain ⟨hord, hmem⟩ := hz.instantsOf_eq_ok hfound
  split at h
  · obtain ⟨x, hx, h⟩ := Outcome.bind_eq_ok.mp h
    cases h
    -- No instant reads `r`, so it falls into a gap, and `x` is the end of it.
    obtain ⟨t, ht⟩ := hz.exists_inGap fun u hu => List.not_mem_nil ((hmem u).mpr hu)
    obtain rfl := hz.afterGap_eq_ok ht hr hx
    refine ⟨List.pairwise_singleton _ _, fun u => ?_⟩
    rw [List.mem_singleton]
    constructor
    · rintro rfl
      exact Or.inr ht
    · rintro (hu | hu)
      · exact absurd hu (hz.not_reads_of_inGap ht)
      · exact hz.inGap_unique hu ht
  · rename_i hne
    cases h
    refine ⟨hord, fun u => ?_⟩
    rw [hmem]
    refine ⟨Or.inl, ?_⟩
    rintro (hu | hu)
    · exact hu
    · obtain ⟨v, hv⟩ := List.exists_mem_of_ne_nil us hne
      exact absurd ((hmem v).mp hv) (hz.not_reads_of_inGap hu)

theorem exists_firings {r : Int} (hr : r % second = 0) (hin : WellInside r) : ∃ us, firings z r = .ok us := by
  obtain ⟨found, hfound⟩ := hz.exists_instantsOf hin
  cases found with
  | cons u us => exact ⟨u :: us, by simp only [firings, hfound, Outcome.ok_bind]⟩
  | nil =>
    have hmem := (hz.instantsOf_eq_ok hfound).2
    obtain ⟨t, ht⟩ := hz.exists_inGap fun u hu => List.not_mem_nil ((hmem u).mpr hu)
    obtain ⟨x, hx⟩ := hz.exists_afterGap ht hr hin
    exact ⟨[x], by simp only [firings, hfound, hx, Outcome.ok_bind]⟩

theorem exists_serves {a r : Int} (hr : a + off a < r) : ∃ u, a < u ∧ Serves off u r := by
  by_cases hgap : ∃ t, InGap off t r
  · obtain ⟨t, ht⟩ := hgap
    refine ⟨t, ?_, Or.inr ht⟩
    by_contra hle
    have := hz.le_reading ht.changesAt (Int.not_lt.mp hle)
    have := ht.2
    omega
  · obtain ⟨v, hv⟩ := hz.exists_reads fun t ht => hgap ⟨t, ht⟩
    rcases le_or_gt v a with hle | hlt
    · obtain ⟨u, hu, h⟩ := hz.exists_reads_after hv hle hr
      exact ⟨u, hu, Or.inl h⟩
    · exact ⟨v, hlt, Or.inl hv⟩

/-- Of the instants at which a whole second fires, the first after `a` is found if the second is later than the
    reading of `a`. -/
theorem find?_firings {a r : Int} {us : List Int} (hw : r % second = 0) (hr : a + off a < r)
    (h : firings z r = .ok us) : ∃ u, us.find? (a < ·) = some u ∧ IsLeast {v | a < v ∧ Serves off v r} u := by
  obtain ⟨hord, hmem⟩ := firings_eq_ok hz hw h
  obtain ⟨v, hav, hv⟩ := exists_serves hz hr
  obtain ⟨u, hu⟩ : ∃ u, us.find? (a < ·) = some u :=
    Option.isSome_iff_exists.mp (List.find?_isSome.mpr ⟨v, (hmem v).mpr hv, decide_eq_true hav⟩)
  obtain ⟨⟨hmu, hau⟩, hmin⟩ := isLeast_find? hord hu
  refine ⟨u, hu, ⟨of_decide_eq_true hau, (hmem u).mp hmu⟩, ?_⟩
  rintro w ⟨haw, hw⟩
  exact hmin ⟨(hmem w).mpr hw, decide_eq_true haw⟩

end Firing

/-- Where the offset never changes, a reading fires at the one instant that has it, if that is one of the calendar. -/
theorem firings_constant {z : Offsets} {offset : Int} (hz : z.Spaced fun _ => offset) {r : Int} (hr : inRange r = true) :
    firings z r = (checked (r - offset)).map fun u => [u] := by
  have hoffset : ∀ fold, z.checkedAt fold r = .ok (some offset) := fun fold => by
    have h := hz.checkedAt_reading (u := r - offset) (fun t => by
      simp only [InGap, InOverlap]
      omega) fold
    rwa [Int.sub_add_cancel] at h
  have hinstant : ∀ fold, z.toInstant fold r = checked (r - offset) := fun fold => by
    simp only [toInstant, hoffset, Outcome.ok_bind]
  cases hu : checked (r - offset) with
  | error f => simp only [firings, instantsOf, hinstant, hu, Outcome.error_bind, Except.map]
  | ok u =>
    obtain ⟨-, rfl⟩ := checked_eq_ok_iff.mp hu
    have hreads : z.readingOf (r - offset) = .ok r := hz.readingOf_eq_ok.mpr (by rw [Int.sub_add_cancel]; exact ⟨hr, rfl⟩)
    simp only [firings, instantsOf, hinstant, hu, hreads, Outcome.ok_bind, if_true, ne_eq, not_true_eq_false,
      and_false, if_false, Except.map]

end Cron
end JobScheduling
