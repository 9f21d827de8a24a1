import JobScheduling.Proofs.Zone.Spaced
import JobScheduling.Zone.Basic

/-! Tables whose changes are 48 hours apart, and whose last offset stays, describe zones whose changes are spaced. An
    instant has the offset after the changes up to it; a reading has the offset after the changes whose local time
    is up to it, and as the local times of a first and of a second pass are those of the beginning and of the end of
    a gap or an overlap, the two passes differ there alone. -/

namespace JobScheduling

open Calendar Offsets

/-! ### Halving -/

/-- Halving finds the first number that is beyond, where all numbers after one that is beyond are too. -/
theorem firstBeyond_spec {beyond : Nat → Bool} {low high : Nat} (hle : low ≤ high)
    (hmono : ∀ i j, i ≤ j → j < high → beyond i = true → beyond j = true) :
    low ≤ firstBeyond beyond low high ∧ firstBeyond beyond low high ≤ high ∧
      (∀ i, low ≤ i → i < firstBeyond beyond low high → beyond i = false) ∧
      ∀ i, firstBeyond beyond low high ≤ i → i < high → beyond i = true := by
  fun_induction firstBeyond beyond low high with
  | case1 low high hlt middle hbeyond ih =>
    obtain ⟨h1, h2, h3, h4⟩ := ih (by omega) fun i j hij hj => hmono i j hij (by omega)
    refine ⟨h1, by omega, h3, fun i hi hhigh => ?_⟩
    rcases Nat.lt_or_ge i middle with hm | hm
    · exact h4 i hi hm
    · exact hmono middle i hm hhigh hbeyond
  | case2 low high hlt middle hbeyond ih =>
    obtain ⟨h1, h2, h3, h4⟩ := ih (by omega) hmono
    refine ⟨by omega, h2, fun i hi hlast => ?_, h4⟩
    rcases Nat.lt_or_ge middle i with hm | hm
    · exact h3 i hm hlast
    · rw [Bool.eq_false_iff]
      exact fun hi' => hbeyond (hmono i middle hm (by omega) hi')
  | case3 low high hge =>
    exact ⟨Nat.le_refl _, hle, fun i h1 h2 => absurd h1 (by omega), fun i h1 h2 => absurd h1 (by omega)⟩

/-- How many numbers come before the first that is beyond is told by any place to cut. -/
theorem firstBeyond_eq {beyond : Nat → Bool} {k n : Nat} (hk : k ≤ n) (hbefore : ∀ i, i < k → beyond i = false)
    (hbeyond : ∀ i, k ≤ i → i < n → beyond i = true) : firstBeyond beyond 0 n = k := by
  obtain ⟨-, h2, h3, h4⟩ := firstBeyond_spec (Nat.zero_le n) fun i j hij hj hi => hbeyond j (by
    by_contra hlt
    rw [hbefore i (by omega)] at hi
    cases hi) hj
  rcases Nat.lt_trichotomy (firstBeyond beyond 0 n) k with hlt | heq | hlt
  · have := h4 _ (Nat.le_refl _) (by omega)
    rw [hbefore _ hlt] at this
    cases this
  · exact heq
  · have := h3 _ (Nat.zero_le k) hlt
    rw [hbeyond k (Nat.le_refl k) (by omega)] at this
    cases this

/-! ### Cuts -/

section Cut
variable {f : Nat → Int} {s : Int} {k n : Nat}

theorem cut_eq_zero (hbefore : ∀ i, i < k → f i ≤ s) (h : s < f 0) : k = 0 := by
  by_contra hk
  have := hbefore 0 (by omega)
  omega

theorem cut_eq_length (hk : k ≤ n) (hafter : ∀ i, k ≤ i → i < n → s < f i) (h : n = 0 ∨ f (n - 1) < s) : k = n := by
  by_contra hlt
  have := hafter (n - 1) (by omega) (by omega)
  omega

theorem cut_pos (hafter : ∀ i, k ≤ i → i < n → s < f i) (hn : n ≠ 0) (h : f 0 ≤ s) : 0 < k := by
  by_contra hk
  have := hafter 0 (by omega) (by omega)
  omega

end Cut

namespace OffsetTable

/-! ### Tables -/

/-- Changes 48 hours apart, offsets within a day, and a last offset that stays. -/
structure Regular (t : OffsetTable) : Prop where
  initial : t.initial = t.before
  after : t.after = ⟨t.offsetBefore t.size, none⟩
  bounded : ∀ k ≤ t.size, -86400 < t.offsetBefore k ∧ t.offsetBefore k < 86400
  apart : ∀ i, i + 1 < t.size → t.instantOf i + 172800 ≤ t.instantOf (i + 1)

/-- How many changes there are up to a second of UTC. -/
def passed (t : OffsetTable) (s : Int) : Nat := firstBeyond (fun i => s < t.instantOf i) 0 t.size

/-- The offset at an instant, in microseconds. -/
def offsetAt (t : OffsetTable) (u : Int) : Int := t.offsetBefore (t.passed (u / 1000000)) * 1000000

theorem offsetAfter_eq (t : OffsetTable) (i : Nat) : t.offsetAfter i = t.offsetBefore (i + 1) := rfl

theorem passed_eq {t : OffsetTable} {s : Int} {k : Nat} (hk : k ≤ t.size) (hbefore : ∀ i, i < k → t.instantOf i ≤ s)
    (hafter : ∀ i, k ≤ i → i < t.size → s < t.instantOf i) : t.passed s = k :=
  firstBeyond_eq hk (fun i hi => decide_eq_false (Int.not_lt.mpr (hbefore i hi))) fun i hi hn =>
    decide_eq_true (hafter i hi hn)

namespace Regular
variable {t : OffsetTable} (ht : t.Regular)
include ht

/-! ### Changes -/

theorem apart_of_lt {i j : Nat} (hij : i < j) (hj : j < t.size) : t.instantOf i + 172800 ≤ t.instantOf j := by
  induction j, hij using Nat.le_induction with
  | base => exact ht.apart i hj
  | succ j hij ih =>
    have := ih (by omega)
    have := ht.apart j hj
    omega

theorem instantOf_mono {i j : Nat} (hij : i ≤ j) (hj : j < t.size) : t.instantOf i ≤ t.instantOf j := by
  rcases Nat.lt_or_eq_of_le hij with hlt | rfl
  · have := ht.apart_of_lt hlt hj
    omega
  · exact Int.le_refl _

theorem localOf_eq (fold : Bool) (i : Nat) : t.localOf fold i = t.instantOf i +
    if fold then min (t.offsetBefore i) (t.offsetBefore (i + 1))
    else max (t.offsetBefore i) (t.offsetBefore (i + 1)) := by
  have hinitial : (if i = 0 then t.initial else t.offsetBefore i) = t.offsetBefore i := by
    split
    · rename_i hi
      rw [ht.initial, hi]
      rfl
    · rfl
  simp only [localOf, hinitial, offsetAfter_eq]

theorem passed_spec (s : Int) : t.passed s ≤ t.size ∧ (∀ i, i < t.passed s → t.instantOf i ≤ s) ∧
    ∀ i, t.passed s ≤ i → i < t.size → s < t.instantOf i := by
  have hmono : ∀ i j, i ≤ j → j < t.size → decide (s < t.instantOf i) = true → decide (s < t.instantOf j) = true := by
    intro i j hij hj hi
    exact decide_eq_true (lt_of_lt_of_le (of_decide_eq_true hi) (ht.instantOf_mono hij hj))
  obtain ⟨-, h2, h3, h4⟩ := firstBeyond_spec (Nat.zero_le t.size) hmono
  refine ⟨h2, fun i hi => ?_, fun i hi hn => ?_⟩
  · exact Int.not_lt.mp (of_decide_eq_false (h3 i (Nat.zero_le i) hi))
  · exact of_decide_eq_true (h4 i hi hn)

/-! ### Answers -/

/-- A reading has the offset after the changes whose local time is up to it. -/
theorem atReading_eq {fold : Bool} {s : Int} {k : Nat} (hk : k ≤ t.size)
    (hbefore : ∀ i, i < k → t.localOf fold i ≤ s) (hafter : ∀ i, k ≤ i → i < t.size → s < t.localOf fold i) :
    t.atReading fold s = t.offsetBefore k := by
  unfold atReading
  split
  · rename_i h
    rw [cut_eq_zero hbefore h.2]
    rfl
  · rename_i hfirst
    split
    · rename_i h
      rw [ht.after, cut_eq_length hk hafter h]
      rfl
    · rename_i hlast
      have hcount : firstBeyond (fun i => decide (s < t.localOf fold i)) 0 t.size = k := firstBeyond_eq hk
        (fun i hi => decide_eq_false (Int.not_lt.mpr (hbefore i hi))) fun i hi hn => decide_eq_true (hafter i hi hn)
      have hpos : 0 < k := cut_pos hafter (by omega) (by omega)
      rw [hcount, offsetAfter_eq, Nat.sub_add_cancel hpos]

/-- An instant has the offset after the changes up to it, and is in a second pass while the last of them, a setback,
    is not made up for. -/
theorem atInstant_eq (s : Int) : t.atInstant s = (t.offsetBefore (t.passed s),
    decide (0 < t.passed s ∧
      s - t.instantOf (t.passed s - 1) < t.offsetBefore (t.passed s - 1) - t.offsetBefore (t.passed s))) := by
  obtain ⟨hk, hbefore, hafter⟩ := ht.passed_spec s
  have hcount : firstBeyond (fun i => decide (s < t.instantOf i)) 0 t.size = t.passed s := rfl
  unfold atInstant
  rw [hcount]
  generalize t.passed s = k at hk hbefore hafter
  split
  · rename_i h
    rw [cut_eq_zero hbefore h.2]
    rfl
  · rename_i hfirst
    split
    · rename_i h
      obtain rfl := cut_eq_length hk hafter h
      have hrule : t.after.atInstant (yearOfDay (s / 86400).toNat) s = (t.offsetBefore t.size, false) := by
        rw [ht.after]
        rfl
      simp only [hrule, Bool.false_or, Prod.mk.injEq, true_and]
      rw [Bool.eq_iff_iff]
      simp only [Bool.and_eq_true, decide_eq_true_eq]
      rcases Nat.eq_zero_or_pos t.size with hzero | hpos
      · omega
      · have := hbefore (t.size - 1) (by omega)
        omega
    · rename_i hlast
      have hpos : 0 < k := cut_pos hafter (by omega) (by omega)
      simp only [offsetAfter_eq, Nat.sub_add_cancel hpos, Prod.mk.injEq, true_and]
      rw [Bool.eq_iff_iff]
      simp only [decide_eq_true_eq]
      omega

/-! ### Changes of the offset -/

theorem offsetAt_change {i : Nat} (hi : i < t.size) :
    t.offsetAt (t.instantOf i * 1000000 - 1) = t.offsetBefore i * 1000000 ∧
      t.offsetAt (t.instantOf i * 1000000) = t.offsetBefore (i + 1) * 1000000 := by
  unfold offsetAt
  constructor
  · rw [passed_eq hi.le (fun j hj => ?_) fun j hj hn => ?_]
    · have := ht.apart_of_lt hj hi
      omega
    · have := ht.instantOf_mono hj hn
      omega
  · rw [passed_eq (k := i + 1) hi (fun j hj => ?_) fun j hj hn => ?_]
    · have := ht.instantOf_mono (Nat.le_of_lt_succ hj) hi
      omega
    · have := ht.apart_of_lt (show i < j from hj) hn
      omega

theorem exists_of_changesAt {u : Int} (h : ChangesAt t.offsetAt u) : ∃ i < t.size, u = t.instantOf i * 1000000 := by
  obtain ⟨hk, hbefore, hafter⟩ := ht.passed_spec (u / 1000000)
  by_contra hno
  -- Otherwise all changes up to `u` are before it.
  refine h ?_
  unfold offsetAt
  rw [passed_eq hk (s := (u - 1) / 1000000) (fun i hi => ?_) fun i hi hn => ?_]
  · have := hbefore i hi
    by_contra hlt
    exact hno ⟨i, by omega, by omega⟩
  · have := hafter i hi hn
    omega

theorem sparse : Sparse t.offsetAt where
  bounded u := by
    have := ht.bounded _ (ht.passed_spec (u / 1000000)).1
    simp only [offsetAt, day]
    omega
  apart {u u'} h h' hlt := by
    obtain ⟨i, hi, rfl⟩ := ht.exists_of_changesAt h
    obtain ⟨j, hj, rfl⟩ := ht.exists_of_changesAt h'
    have hij : i < j := by
      by_contra hle
      have := ht.instantOf_mono (Nat.le_of_not_lt hle) hi
      omega
    have := ht.apart_of_lt hij hj
    simp only [day]
    omega

/-! ### Readings -/

theorem localOf_le (fold : Bool) (i : Nat) : t.localOf true i ≤ t.localOf fold i ∧
    t.localOf fold i ≤ t.localOf false i := by
  rw [ht.localOf_eq true, ht.localOf_eq false, ht.localOf_eq fold]
  cases fold <;> simp only [Bool.false_eq_true, if_true, if_false] <;> omega

theorem localOf_lt (fold fold' : Bool) {i j : Nat} (hij : i < j) (hj : j < t.size) :
    t.localOf fold i < t.localOf fold' j := by
  have hle := (ht.localOf_le fold i).2
  have hle' := (ht.localOf_le fold' j).1
  have := ht.apart_of_lt hij hj
  have := ht.bounded i (by omega)
  have := ht.bounded (i + 1) (by omega)
  have := ht.bounded j (by omega)
  have := ht.bounded (j + 1) (by omega)
  rw [ht.localOf_eq false] at hle
  rw [ht.localOf_eq true] at hle'
  simp only [Bool.false_eq_true, if_true, if_false] at hle hle'
  omega

/-- A gap or an overlap reaches from the local time of its change in a second pass to that in a first pass. -/
theorem touches_iff {i : Nat} (hi : i < t.size) {r : Int} :
    InGap t.offsetAt (t.instantOf i * 1000000) r ∨ InOverlap t.offsetAt (t.instantOf i * 1000000) r ↔
      t.localOf true i ≤ r / 1000000 ∧ r / 1000000 < t.localOf false i := by
  obtain ⟨hbefore, hafter⟩ := ht.offsetAt_change hi
  simp only [InGap, InOverlap, hbefore, hafter, ht.localOf_eq, Bool.false_eq_true, if_true, if_false]
  omega

theorem atReading_of_touches {i : Nat} (hi : i < t.size) {s : Int}
    (h : t.localOf true i ≤ s ∧ s < t.localOf false i) (fold : Bool) :
    t.atReading fold s = t.offsetBefore (if fold then i + 1 else i) := by
  have hbefore : ∀ j, j < i → t.localOf fold j ≤ s := fun j hj => by
    have := ht.localOf_lt fold true hj hi
    omega
  have hafter : ∀ j, i < j → j < t.size → s < t.localOf fold j := fun j hj hn => by
    have := ht.localOf_lt false fold hj hn
    omega
  cases fold with
  | false =>
    refine ht.atReading_eq hi.le hbefore fun j hj hn => ?_
    rcases Nat.lt_or_eq_of_le hj with hlt | rfl
    · exact hafter j hlt hn
    · exact h.2
  | true =>
    refine ht.atReading_eq hi (fun j hj => ?_) hafter
    rcases Nat.lt_or_eq_of_le (Nat.le_of_lt_succ hj) with hlt | rfl
    · exact hbefore j hlt
    · exact h.1

theorem atReading_of_untouched {s : Int}
    (hno : ∀ i, i < t.size → ¬(t.localOf true i ≤ s + t.offsetBefore (t.passed s) ∧
      s + t.offsetBefore (t.passed s) < t.localOf false i)) (fold : Bool) :
    t.atReading fold (s + t.offsetBefore (t.passed s)) = t.offsetBefore (t.passed s) := by
  obtain ⟨hk, hbefore, hafter⟩ := ht.passed_spec s
  generalize t.passed s = k at hno hk hbefore hafter
  have hbound := ht.bounded k hk
  refine ht.atReading_eq hk (fun i hi => ?_) fun i hi hn => ?_
  · -- The reading is not before the end of the change, since it is not before its beginning.
    have hle := (ht.localOf_le fold i).2
    have hlow : t.localOf true i ≤ s + t.offsetBefore k := by
      have := hbefore i hi
      have := ht.bounded i (by omega)
      rw [ht.localOf_eq]
      simp only [if_true]
      rcases Nat.lt_or_eq_of_le (show i + 1 ≤ k from hi) with hlt | rfl
      · have := ht.apart_of_lt (i := i) (j := k - 1) (by omega) (by omega)
        have := hbefore (k - 1) (by omega)
        omega
      · omega
    have := hno i (by omega)
    omega
  · have hle := (ht.localOf_le fold i).1
    have hhigh : s + t.offsetBefore k < t.localOf false i := by
      have := hafter i hi hn
      have := ht.bounded i (by omega)
      rw [ht.localOf_eq]
      simp only [Bool.false_eq_true, if_false]
      rcases Nat.lt_or_eq_of_le hi with hlt | rfl
      · have := ht.apart_of_lt hlt hn
        have := hafter k (Nat.le_refl k) (by omega)
        omega
      · omega
    have := hno i hn
    omega

/-! ### Second passes -/

/-- The last change is not made up for exactly while an earlier instant has the same reading. -/
theorem second_pass_iff (u : Int) : (0 < t.passed (u / 1000000) ∧
    u / 1000000 - t.instantOf (t.passed (u / 1000000) - 1) <
      t.offsetBefore (t.passed (u / 1000000) - 1) - t.offsetBefore (t.passed (u / 1000000))) ↔
    ∃ v < u, v + t.offsetAt v = u + t.offsetAt u := by
  constructor
  · rintro ⟨hpos, hlt⟩
    obtain ⟨hk, hbefore, -⟩ := ht.passed_spec (u / 1000000)
    have hu : t.offsetAt u = t.offsetBefore (t.passed (u / 1000000)) * 1000000 := rfl
    generalize t.passed (u / 1000000) = k at *
    have hinstant := hbefore (k - 1) (by omega)
    obtain ⟨hoff, hoff'⟩ := ht.offsetAt_change (i := k - 1) (by omega)
    rw [Nat.sub_add_cancel hpos] at hoff'
    have hoverlap : InOverlap t.offsetAt (t.instantOf (k - 1) * 1000000) (u + t.offsetAt u) := by
      simp only [InOverlap, hoff, hoff', hu]
      omega
    exact ⟨_, by omega, (ht.sparse.reads_of_inOverlap hoverlap).mpr (Or.inl rfl)⟩
  · rintro ⟨v, hv, heq⟩
    have hbu := ht.sparse.bounded u
    have hbv := ht.sparse.bounded v
    obtain ⟨t', h1, h2, hchange, hbefore, hafter⟩ := ht.sparse.exists_change hv (by omega) (by omega)
    obtain ⟨i, hi, rfl⟩ := ht.exists_of_changesAt hchange
    obtain ⟨hoff, hoff'⟩ := ht.offsetAt_change hi
    have hcount : t.passed (u / 1000000) = i + 1 := passed_eq hi
      (fun j hj => by
        have := ht.instantOf_mono (Nat.le_of_lt_succ hj) hi
        omega)
      fun j hj hn => by
        have := ht.apart_of_lt (show i < j from hj) hn
        simp only [day] at hbu hbv
        omega
    rw [hcount, Nat.add_sub_cancel]
    omega

/-! ### A spaced zone -/

theorem spaced : t.offsets.Spaced t.offsetAt where
  toSparse := ht.sparse
  whole h := by
    obtain ⟨i, hi, rfl⟩ := ht.exists_of_changesAt h
    obtain ⟨hbefore, hafter⟩ := ht.offsetAt_change hi
    rw [hbefore, hafter]
    exact ⟨Int.mul_emod_left _ _, Int.mul_emod_left _ _, Int.mul_emod_left _ _⟩
  atReading {u} hno fold := by
    have hread : (u + t.offsetAt u) / 1000000 = u / 1000000 + t.offsetBefore (t.passed (u / 1000000)) := by
      simp only [offsetAt]
      omega
    simp only [offsets, hread]
    rw [ht.atReading_of_untouched fun i hi htouch => ?_]
    · rfl
    · rw [← hread, ← ht.touches_iff hi] at htouch
      exact htouch.elim (hno _).1 (hno _).2
  atChange {u r} h fold := by
    obtain ⟨i, hi, rfl⟩ := ht.exists_of_changesAt (h.elim InGap.changesAt InOverlap.changesAt)
    obtain ⟨hbefore, hafter⟩ := ht.offsetAt_change hi
    have := ht.atReading_of_touches hi ((ht.touches_iff hi).mp h) fold
    simp only [offsets, this, hbefore, hafter]
    cases fold <;> rfl
  atInstant u := by
    refine ⟨_, by simp only [offsets, ht.atInstant_eq]; rfl, ?_⟩
    rw [decide_eq_true_iff]
    exact ht.second_pass_iff u

end Regular

/-- One summer time, that of central Europe in the year 2026. -/
def summerTime : OffsetTable where
  before := 3600
  initial := 3600
  transitions := #[⟨63910342800, 7200⟩, ⟨63928486800, 3600⟩]
  after := ⟨3600, none⟩

theorem summerTime_regular : summerTime.Regular where
  initial := rfl
  after := rfl
  bounded := by decide
  apart := fun i hi => by
    obtain rfl : i = 0 := Nat.lt_one_iff.mp (Nat.lt_of_succ_lt_succ hi)
    decide

theorem summerTime_advance : summerTime.offsetAt (63910342800000000 - 1) = 3600000000 ∧
    summerTime.offsetAt 63910342800000000 = 7200000000 :=
  summerTime_regular.offsetAt_change (i := 0) (by decide)

theorem summerTime_setback : summerTime.offsetAt (63928486800000000 - 1) = 7200000000 ∧
    summerTime.offsetAt 63928486800000000 = 3600000000 :=
  summerTime_regular.offsetAt_change (i := 1) (by decide)

/-- Half past two on 29 March 2026 is skipped. -/
theorem summerTime_inGap : InGap summerTime.offsetAt 63910342800000000 63910348200000000 := by
  simp only [InGap, summerTime_advance]
  omega

/-- Half past two on 25 October 2026 is shown twice. -/
theorem summerTime_inOverlap : InOverlap summerTime.offsetAt 63928486800000000 63928492200000000 := by
  simp only [InOverlap, summerTime_setback]
  omega

end OffsetTable

/-- A zone with one summer time. -/
def summerZone : Zone := .table 0 "CET" .summerTime

theorem summerZone_spaced : summerZone.offsets.Spaced OffsetTable.summerTime.offsetAt :=
  OffsetTable.summerTime_regular.spaced

end JobScheduling
