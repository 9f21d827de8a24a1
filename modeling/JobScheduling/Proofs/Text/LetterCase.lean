import Mathlib
import JobScheduling.Text.Category

/-! Texts whose lower-case form is ASCII. In them a sigma cannot occur, so each character may be taken by itself; and no
    other character becomes an at sign; a blank is its own small form. -/

namespace JobScheduling
namespace Text

/-! ### Sigma -/

theorem mapBetween_lowerBetween_of_not_mem : ∀ {s : List Char} (before : List Char), 'Σ' ∉ s →
    mapBetween lowerBetween before s = lower s
  | [], _, _ => rfl
  | c :: s, before, h => by
    rw [List.mem_cons, not_or] at h
    rw [mapBetween, lowerBetween, if_neg (Ne.symm h.1), mapBetween_lowerBetween_of_not_mem (c :: before) h.2, lower,
      lower, List.flatMap_cons]

theorem mem_mapBetween_of_sigma : ∀ {s : List Char} (before : List Char), 'Σ' ∈ s →
    'ς' ∈ mapBetween lowerBetween before s ∨ 'σ' ∈ mapBetween lowerBetween before s
  | c :: s, before, h => by
    rw [mapBetween, List.mem_append, List.mem_append]
    rcases List.mem_cons.mp h with rfl | h
    · rw [lowerBetween, if_pos rfl]
      split
      · exact Or.inl (Or.inl (List.mem_singleton_self _))
      · exact Or.inr (Or.inl (List.mem_singleton_self _))
    · exact (mem_mapBetween_of_sigma (c :: before) h).imp Or.inr Or.inr

theorem mem_lower_of_sigma {s : List Char} (h : 'Σ' ∈ s) : 'σ' ∈ lower s :=
  List.mem_flatMap.mpr ⟨'Σ', h, by decide⟩

/-- An ASCII text is the small form of the same texts, whether or not their characters are taken by themselves. -/
theorem lowerText_eq_iff {s t : List Char} (ht : isAscii t = true) : lowerText s = t ↔ lower s = t := by
  have hascii : ∀ c ∈ t, c.toNat < 128 := by simpa [isAscii] using ht
  by_cases hs : 'Σ' ∈ s
  · -- Either small form of a text with a sigma holds a small sigma.
    refine iff_of_false (fun h => ?_) (fun h => ?_)
    · subst h
      rcases mem_mapBetween_of_sigma [] hs with hmem | hmem
      · exact absurd (hascii 'ς' hmem) (by decide)
      · exact absurd (hascii 'σ' hmem) (by decide)
    · subst h
      exact absurd (hascii 'σ' (mem_lower_of_sigma hs)) (by decide)
  · rw [lowerText, mapBetween_lowerBetween_of_not_mem [] hs]

/-! ### At signs -/

theorem ofNat_ne_at {n : Nat} (h : n ≠ 64) : Char.ofNat n ≠ '@' := by
  intro heq
  unfold Char.ofNat at heq
  split at heq
  · have := congrArg Char.toNat heq
    exact h this
  · exact absurd heq (by decide)

theorem lowerRuns_beyond : ∀ r ∈ lowerRuns, 64 < r.2.2 := by decide

theorem upperRuns_beyond : ∀ r ∈ upperRuns, 64 < r.1 := by decide +kernel

/-- Only an at sign becomes one. -/
theorem eq_at_of_lowerChar {c : Char} {s : List Char} (h : (lowerChar c ++ s).head? = some '@') : c = '@' := by
  -- All forms that the tables give are beyond the at sign.
  unfold lowerChar at h
  dsimp only at h
  split at h
  · split at h
    · exact absurd (Option.some.inj h) (ofNat_ne_at (by omega))
    · exact Option.some.inj h
  · split at h
    · exact absurd (Option.some.inj h) (by decide)
    · split at h
      · rename_i l hl
        obtain ⟨r, hr, rfl⟩ := Option.map_eq_some_iff.mp hl
        have := lowerRuns_beyond r (List.mem_of_find?_eq_some hr)
        exact absurd (Option.some.inj h) (ofNat_ne_at (by omega))
      · cases hfound : upperRuns.find? _ with
        | none =>
          rw [hfound] at h
          exact Option.some.inj h
        | some r =>
          rw [hfound] at h
          have := upperRuns_beyond r (List.mem_of_find?_eq_some hfound)
          exact absurd (Option.some.inj h) (ofNat_ne_at (by omega))

theorem head_of_lower {s : List Char} (h : (lower s).head? = some '@') : s.head? = some '@' := by
  cases s with
  | nil => cases h
  | cons c s =>
    rw [lower, List.flatMap_cons] at h
    rw [eq_at_of_lowerChar h, List.head?_cons]

/-! ### Characters of small forms -/

theorem mem_lower {c : Char} {s : List Char} (hc : lowerChar c = [c]) (h : c ∈ s) : c ∈ lower s :=
  List.mem_flatMap.mpr ⟨c, h, hc ▸ List.mem_singleton_self c⟩

/-- A blank has no other letter case. -/
theorem lowerChar_of_isBlank {c : Char} (hc : isBlank c = true) : lowerChar c = [c] := by
  have hlisted : c.toNat ∈ List.range' 9 5 ++ List.range' 28 5 ++ [0x85, 0xA0, 0x1680] ++ List.range' 0x2000 11 ++
      [0x2028, 0x2029, 0x202F, 0x205F, 0x3000] := by
    simp only [isBlank, Bool.or_eq_true, Bool.and_eq_true, decide_eq_true_eq, beq_iff_eq] at hc
    simp only [List.mem_append, List.mem_range'_1, List.mem_cons, List.not_mem_nil, or_false]
    omega
  have hkept : ∀ n ∈ List.range' 9 5 ++ List.range' 28 5 ++ [0x85, 0xA0, 0x1680] ++ List.range' 0x2000 11 ++
      [0x2028, 0x2029, 0x202F, 0x205F, 0x3000], lowerChar (Char.ofNat n) = [Char.ofNat n] := by decide +kernel
  have hc' := hkept c.toNat hlisted
  rwa [Char.ofNat_toNat] at hc'

/-! ### Upper case -/

theorem mem_upper {c : Char} {s : List Char} (hc : upperChar c = [c]) (h : c ∈ s) : c ∈ upper s :=
  List.mem_flatMap.mpr ⟨c, h, hc ▸ List.mem_singleton_self c⟩

end Text
end JobScheduling
