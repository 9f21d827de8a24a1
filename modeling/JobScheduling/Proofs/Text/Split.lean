import Mathlib
import JobScheduling.Text.Trim

/-! What cutting a text leaves: the parts are stretches of the text, and joined by their separators they are it. A text
    that is trimmed begins with its first word, and if it has no other it is that word. -/

namespace JobScheduling
namespace Text

/-! ### Cutting -/

theorem cut_eq_none {sep : Char} : ∀ {s a : List Char}, cut sep s = (a, none) → a = s ∧ sep ∉ s
  | [], a, h => by
    cases h
    exact ⟨rfl, List.not_mem_nil⟩
  | c :: s, a, h => by
    unfold cut at h
    split at h
    · cases h
    · rename_i hc
      obtain ⟨ha, hnone⟩ := Prod.mk.inj h
      obtain ⟨hs, hsep⟩ := cut_eq_none (s := s) (Prod.ext rfl hnone)
      exact ⟨ha.symm.trans (congrArg (c :: ·) hs), List.not_mem_cons_of_ne_of_not_mem (Ne.symm hc) hsep⟩

theorem cut_eq_some {sep : Char} : ∀ {s a b : List Char}, cut sep s = (a, some b) → s = a ++ sep :: b ∧ sep ∉ a
  | [], a, b, h => by cases h
  | c :: s, a, b, h => by
    have hsep := not_mem_cut_fst sep (c :: s)
    rw [h] at hsep
    refine ⟨?_, hsep⟩
    unfold cut at h
    split at h
    · rename_i hc
      cases h
      rw [hc, List.nil_append]
    · obtain ⟨ha, hb⟩ := Prod.mk.inj h
      obtain ⟨hs, -⟩ := cut_eq_some (s := s) (Prod.ext rfl hb)
      rw [← ha, List.cons_append, ← hs]

/-- A text falls apart at its last separator in one way only. -/
theorem append_cons_inj {sep : Char} {s s' t t' : List Char} (ht : sep ∉ t) (ht' : sep ∉ t')
    (h : s ++ sep :: t = s' ++ sep :: t') : s = s' ∧ t = t' := by
  -- Read backwards, both sides are cut at their first separator.
  have hback : t.reverse ++ sep :: s.reverse = t'.reverse ++ sep :: s'.reverse := by
    simpa using congrArg List.reverse h
  have hcut := congrArg (cut sep) hback
  rw [cut_append _ (by simpa using ht), cut_append _ (by simpa using ht')] at hcut
  obtain ⟨hafter, hbefore⟩ := Prod.mk.inj hcut
  exact ⟨List.reverse_injective (Option.some.inj hbefore), List.reverse_injective hafter⟩

/-! ### Pieces -/

theorem pieces_eq_splitOn (sep : Char) : ∀ s : List Char, pieces sep s = s.splitOn sep
  | [] => rfl
  | c :: s => by
    rw [List.splitOn_cons_eq_if_modifyHead, pieces, ← pieces_eq_splitOn sep s]
    by_cases hc : c = sep
    · rw [if_pos hc, if_pos (beq_iff_eq.mpr hc)]
    · rw [if_neg hc, if_neg (by simpa using hc)]
      split
      · rename_i hs
        exact absurd hs (pieces_ne_nil sep s)
      · rename_i hs
        rw [hs, List.modifyHead_cons]

theorem intercalate_pieces (sep : Char) (s : List Char) : [sep].intercalate (pieces sep s) = s := by
  rw [pieces_eq_splitOn, List.intercalate_splitOn]

theorem pieces_intercalate {sep : Char} {texts : List (List Char)} (hne : texts ≠ []) (hsep : ∀ t ∈ texts, sep ∉ t) :
    pieces sep ([sep].intercalate texts) = texts := by
  rw [pieces_eq_splitOn, List.splitOn_intercalate sep hsep hne]

/-- What joins texts holds what they hold and the separator. -/
theorem mem_of_mem_intercalate {sep c : Char} : ∀ {texts : List (List Char)}, c ∈ [sep].intercalate texts →
    c = sep ∨ ∃ t ∈ texts, c ∈ t
  | [t], h => by
    rw [List.intercalate_singleton] at h
    exact Or.inr ⟨t, List.mem_singleton_self t, h⟩
  | t :: u :: texts, h => by
    rw [List.intercalate_cons_cons, List.append_assoc, List.mem_append, List.singleton_append, List.mem_cons] at h
    rcases h with h | rfl | h
    · exact Or.inr ⟨t, List.mem_cons_self, h⟩
    · exact Or.inl rfl
    · exact (mem_of_mem_intercalate h).imp_right fun ⟨v, hv, hc⟩ => ⟨v, List.mem_cons_of_mem t hv, hc⟩

/-- Texts that are not empty and hold no separator are told by what joins them. -/
theorem intercalate_inj {sep : Char} {texts texts' : List (List Char)} (hne : [] ∉ texts) (hne' : [] ∉ texts')
    (hsep : ∀ t ∈ texts, sep ∉ t) (hsep' : ∀ t ∈ texts', sep ∉ t)
    (h : [sep].intercalate texts = [sep].intercalate texts') : texts = texts' := by
  rcases eq_or_ne texts [] with rfl | hnil <;> rcases eq_or_ne texts' [] with rfl | hnil'
  · rfl
  · refine absurd ?_ hne'
    rw [← pieces_intercalate hnil' hsep', ← h]
    exact List.mem_singleton_self []
  · refine absurd ?_ hne
    rw [← pieces_intercalate hnil hsep, h]
    exact List.mem_singleton_self []
  · rw [← pieces_intercalate hnil hsep, h, pieces_intercalate hnil' hsep']

theorem pieces_of_not_mem {sep : Char} {s : List Char} (h : sep ∉ s) : pieces sep s = [s] := by
  have hpieces : pieces sep ([sep].intercalate [s]) = [s] :=
    pieces_intercalate (List.cons_ne_nil _ _) (List.forall_mem_singleton.mpr h)
  rwa [List.intercalate_singleton] at hpieces

/-! ### Stretches -/

theorem infix_intercalate {sep t : List Char} : ∀ {texts : List (List Char)}, t ∈ texts → t <:+: sep.intercalate texts
  | [u], h => by
    rw [List.mem_singleton.mp h, List.intercalate_singleton]
  | u :: v :: texts, h => by
    rw [List.intercalate_cons_cons]
    rcases List.mem_cons.mp h with rfl | h
    · exact ((List.prefix_append t sep).trans (List.prefix_append _ _)).isInfix
    · exact (infix_intercalate h).trans (List.suffix_append _ _).isInfix

theorem infix_behind (s t : List Char) (c : Char) : t <:+: s ++ c :: t :=
  ((List.suffix_cons c t).trans (List.suffix_append s _)).isInfix

/-- A stretch without the separator of two texts lies in one of them. -/
theorem infix_append_cons_iff {sep : Char} {w s t : List Char} (hw : sep ∉ w) :
    w <:+: s ++ sep :: t ↔ w <:+: s ∨ w <:+: t := by
  constructor
  · rintro ⟨a, b, h⟩
    rcases List.append_eq_append_iff.mp h with ⟨a', rfl, -⟩ | ⟨a', ha, hb⟩
    · exact Or.inl ⟨a, a', rfl⟩
    cases a' with
    | nil => exact Or.inl ⟨a, [], by simpa using ha⟩
    | cons c a' =>
      -- The stretch ends behind the separator, so it has to begin there too.
      obtain ⟨rfl, rfl⟩ := List.cons.inj hb
      rcases List.append_eq_append_iff.mp ha with ⟨u, -, hu⟩ | ⟨u, -, hu⟩
      · exact absurd (hu ▸ List.mem_append_right u List.mem_cons_self) hw
      · cases u with
        | nil =>
          obtain rfl : sep :: a' = w := hu
          exact absurd List.mem_cons_self hw
        | cons d u =>
          obtain ⟨-, rfl⟩ := List.cons.inj hu
          exact Or.inr ⟨u, b, rfl⟩
  · rintro (h | h)
    · exact h.trans (List.prefix_append _ _).isInfix
    · exact h.trans (infix_behind s t sep)

theorem infix_trim (s : List Char) : trim s <:+: s := by
  have hend : (s.dropWhile isBlank).reverse.dropWhile isBlank <:+ (s.dropWhile isBlank).reverse :=
    List.dropWhile_suffix _
  rw [← List.reverse_prefix, List.reverse_reverse] at hend
  exact hend.isInfix.trans (List.dropWhile_suffix _).isInfix

theorem infix_of_mem_wordsFrom {w : List Char} : ∀ {s cur : List Char}, w ∈ wordsFrom cur s → w <:+: cur ++ s
  | [], cur, h => by
    unfold wordsFrom at h
    split at h
    · cases h
    · rw [List.mem_singleton.mp h, List.append_nil]
  | c :: s, cur, h => by
    unfold wordsFrom at h
    split at h
    · split at h
      · exact (infix_of_mem_wordsFrom h).trans (infix_behind cur s c)
      · rcases List.mem_cons.mp h with rfl | h
        · exact (List.prefix_append _ _).isInfix
        · exact (infix_of_mem_wordsFrom h).trans (infix_behind cur s c)
    · have := infix_of_mem_wordsFrom h
      rwa [List.append_assoc] at this

/-- Every word of a text is a stretch of it. -/
theorem infix_of_mem_words {s w : List Char} (h : w ∈ words s) : w <:+: s := infix_of_mem_wordsFrom h

/-! ### Words -/

theorem wordsFrom_append {w : List Char} (hw : ∀ c ∈ w, isBlank c = false) (cur s : List Char) :
    wordsFrom cur (w ++ s) = wordsFrom (cur ++ w) s := by
  induction w generalizing cur with
  | nil => rw [List.nil_append, List.append_nil]
  | cons c w ih =>
    obtain ⟨hc, hw⟩ := List.forall_mem_cons.mp hw
    rw [List.cons_append, wordsFrom, hc, if_neg Bool.false_ne_true, ih hw, List.append_assoc, List.singleton_append]

/-- A text begins with the first of its words if it does not begin with a blank. -/
theorem words_cons {c : Char} (hc : isBlank c = false) (s : List Char) : words (c :: s) =
    (c :: s.takeWhile (!isBlank ·)) :: words (s.dropWhile (!isBlank ·)) := by
  have hword : ∀ d ∈ c :: s.takeWhile (!isBlank ·), isBlank d = false := by
    refine List.forall_mem_cons.mpr ⟨hc, fun d hd => ?_⟩
    simpa using List.mem_takeWhile_imp hd
  have hsplit : c :: s = (c :: s.takeWhile (!isBlank ·)) ++ s.dropWhile (!isBlank ·) := by
    rw [List.cons_append, List.takeWhile_append_dropWhile]
  rw [hsplit, words, wordsFrom_append hword, List.nil_append]
  cases hrest : s.dropWhile (!isBlank ·) with
  | nil => rfl
  | cons d rest =>
    have hblank : isBlank d = true := by
      have hnot := List.head_dropWhile_not (!isBlank ·) (l := s) (by simp [hrest])
      simpa [hrest] using hnot
    rw [wordsFrom, hblank, if_pos rfl, List.isEmpty_cons, if_neg Bool.false_ne_true, words, wordsFrom, hblank, if_pos rfl,
      List.isEmpty_nil, if_pos rfl]

theorem words_of_not_blank {w : List Char} (hne : w ≠ []) (hw : ∀ c ∈ w, isBlank c = false) : words w = [w] := by
  obtain ⟨c, s, rfl⟩ := List.exists_cons_of_ne_nil hne
  obtain ⟨hc, hs⟩ := List.forall_mem_cons.mp hw
  have hall : ∀ d ∈ s, (!isBlank d) = true := by simpa using hs
  rw [words_cons hc, List.takeWhile_eq_self_iff.mpr hall, List.dropWhile_eq_nil_iff.mpr hall]
  rfl

/-- A text without words is blank. -/
theorem isBlank_of_words_eq_nil {s : List Char} (h : words s = []) : ∀ c ∈ s, isBlank c = true := by
  induction s with
  | nil => nofun
  | cons c s ih =>
    cases hc : isBlank c with
    | false =>
      rw [words_cons hc] at h
      cases h
    | true =>
      rw [words, wordsFrom, hc, if_pos rfl, List.isEmpty_nil, if_pos rfl] at h
      exact List.forall_mem_cons.mpr ⟨hc, ih h⟩

theorem not_isBlank_of_trim {c : Char} {s t : List Char} (h : trim s = c :: t) : isBlank c = false := by
  obtain ⟨u, hu⟩ : c :: t <+: s.dropWhile isBlank := h ▸ List.rdropWhile_prefix isBlank _
  have hnot := List.head_dropWhile_not isBlank (l := s) (by simp [← hu])
  simpa [← hu] using hnot

/-- A trimmed text of one word is that word. -/
theorem trim_eq_of_words {s w : List Char} (h : words (trim s) = [w]) : trim s = w := by
  cases htrim : trim s with
  | nil =>
    rw [htrim] at h
    cases h
  | cons c t =>
    have hc := not_isBlank_of_trim htrim
    rw [htrim, words_cons hc] at h
    obtain ⟨rfl, hrest⟩ := List.cons.inj h
    have hblank := isBlank_of_words_eq_nil hrest
    have hnil : t.dropWhile (!isBlank ·) = [] := by
      by_contra hne
      have hsuffix : t.dropWhile (!isBlank ·) <:+ trim s := htrim ▸ (List.dropWhile_suffix _).trans (List.suffix_cons c t)
      have htrimne : trim s ≠ [] := by simp [htrim]
      have hlast := List.rdropWhile_last_not isBlank (s.dropWhile isBlank) htrimne
      apply hlast
      have := hsuffix.getLast hne
      exact this ▸ hblank _ (List.getLast_mem hne)
    rw [List.dropWhile_eq_nil_iff] at hnil
    rw [List.takeWhile_eq_self_iff.mpr hnil]

end Text
end JobScheduling
