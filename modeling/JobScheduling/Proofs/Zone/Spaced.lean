import JobScheduling.Zone.Offsets
import Mathlib.Data.Int.Init
import Mathlib.Order.Bounds.Basic

/-! Zones whose offset changes seldom. Between two changes there are 48 hours at least, and no two offsets differ
    by as much, so a reading is touched by one change at most: it falls into the gap or into the overlap of that
    change, or exactly one instant has it. The instants before a change read before it, and those after it read
    after it, however the offset changed. -/

namespace JobScheduling
namespace Offsets

open Calendar

/-! ### Changes -/

section Changes
variable (off : Int → Int)

/-- The offset changes at an instant. -/
def ChangesAt (t : Int) : Prop := off (t - 1) ≠ off t

/-- A reading is skipped by the wall clock, which is put forward at `t`. -/
def InGap (t r : Int) : Prop := t + off (t - 1) ≤ r ∧ r < t + off t

/-- A reading is shown twice by the wall clock, which is put back at `t`. -/
def InOverlap (t r : Int) : Prop := t + off t ≤ r ∧ r < t + off (t - 1)

variable {off}

theorem InGap.changesAt {t r : Int} (h : InGap off t r) : ChangesAt off t := fun heq => by
  have := h.1
  have := h.2
  omega

theorem InOverlap.changesAt {t r : Int} (h : InOverlap off t r) : ChangesAt off t := fun heq => by
  have := h.1
  have := h.2
  omega

end Changes

/-- An offset that changes seldom: its changes are 48 hours apart at least, and it stays within a day. -/
structure Sparse (off : Int → Int) : Prop where
  bounded : ∀ u, -day < off u ∧ off u < day
  apart : ∀ {t t' : Int}, ChangesAt off t → ChangesAt off t' → t < t' → t + 2 * day ≤ t'

/-- A zone has the offset `off u` at each instant `u`, changes it only at whole seconds that are 48 hours apart at
    least, and tells the offset of a reading by its fold: in a gap or an overlap the first pass has the offset
    before the change and the second pass the one after it. An instant is read in the second pass if an earlier
    one has its reading. A fixed offset never changes, and may have a part of a second. -/
structure Spaced (z : Offsets) (off : Int → Int) : Prop extends Sparse off where
  whole : ∀ {t : Int}, ChangesAt off t → t % second = 0 ∧ off (t - 1) % second = 0 ∧ off t % second = 0
  atInstant : ∀ u, ∃ fold, z.atInstant u = some (off u, fold) ∧ (fold = true ↔ ∃ v < u, v + off v = u + off u)
  atReading : ∀ {u : Int}, (∀ t, ¬InGap off t (u + off u) ∧ ¬InOverlap off t (u + off u)) →
    ∀ fold, z.atReading fold (u + off u) = some (off u)
  atChange : ∀ {t r : Int}, InGap off t r ∨ InOverlap off t r →
    ∀ fold, z.atReading fold r = some (if fold then off t else off (t - 1))

theorem spaced_constant {offset : Int} (h : -day < offset ∧ offset < day) :
    (constant offset).Spaced fun _ => offset where
  bounded _ := h
  apart ht := absurd rfl ht
  whole ht := absurd rfl ht
  atInstant u := by
    refine ⟨false, rfl, ?_⟩
    constructor
    · intro h
      cases h
    · rintro ⟨v, hv, heq⟩
      omega
  atReading _ _ := rfl
  atChange ht _ := by
    simp only [InGap, InOverlap] at ht
    omega

theorem spaced_utc : (constant 0).Spaced fun _ => 0 := spaced_constant (by decide)

namespace Sparse
variable {off : Int → Int} (hz : Sparse off)

/-! ### Around a change -/

theorem steady {a b : Int} (hab : a ≤ b) (h : ∀ t, a < t → t ≤ b → ¬ChangesAt off t) : off a = off b := by
  induction b, hab using Int.leInduction with
  | base => rfl
  | succ b hab ih =>
    have hb : off b = off (b + 1) := by
      have := h (b + 1) (by omega) (by omega)
      simpa [ChangesAt] using this
    rw [ih fun t h1 h2 => h t h1 (by omega), hb]

include hz

theorem before {t u : Int} (ht : ChangesAt off t) (hu : u < t) (h : t - 2 * day ≤ u) : off u = off (t - 1) :=
  steady (by omega) fun t' h1 h2 ht' => by
    have := hz.apart ht' ht (by omega)
    omega

theorem after {t u : Int} (ht : ChangesAt off t) (hu : t ≤ u) (h : u < t + 2 * day) : off u = off t :=
  (steady hu fun t' h1 h2 ht' => by
    have := hz.apart ht ht' h1
    omega).symm

theorem reading_lt {t u : Int} (ht : ChangesAt off t) (hu : u < t) : u + off u < t + off (t - 1) := by
  by_cases h : t - 2 * day ≤ u
  · rw [hz.before ht hu h]
    omega
  · have := hz.bounded u
    have := hz.bounded (t - 1)
    omega

theorem le_reading {t u : Int} (ht : ChangesAt off t) (hu : t ≤ u) : t + off t ≤ u + off u := by
  by_cases h : u < t + 2 * day
  · rw [hz.after ht hu h]
    omega
  · have := hz.bounded u
    have := hz.bounded t
    omega

/-- Two instants with different offsets less than 48 hours apart have one change between them. -/
theorem exists_change {u v : Int} (huv : u < v) (hlt : v < u + 2 * day) (hne : off u ≠ off v) :
    ∃ t, u < t ∧ t ≤ v ∧ ChangesAt off t ∧ off u = off (t - 1) ∧ off v = off t := by
  have : ∃ t, u < t ∧ t ≤ v ∧ ChangesAt off t := by
    by_contra hno
    exact hne (steady huv.le fun t h1 h2 ht => hno ⟨t, h1, h2, ht⟩)
  obtain ⟨t, h1, h2, ht⟩ := this
  exact ⟨t, h1, h2, ht, hz.before ht h1 (by omega), hz.after ht h2 (by omega)⟩

/-! ### The instants of a reading -/

theorem not_reads_of_inGap {t r u : Int} (h : InGap off t r) : u + off u ≠ r := by
  have ht := h.changesAt
  rcases lt_or_ge u t with hu | hu
  · have := hz.reading_lt ht hu
    have := h.1
    omega
  · have := hz.le_reading ht hu
    have := h.2
    omega

theorem inGap_unique {t t' r : Int} (h : InGap off t r) (h' : InGap off t' r) : t = t' := by
  have hlt : ∀ {t t' : Int}, InGap off t r → InGap off t' r → ¬t < t' := by
    intro t t' h h' hlt
    have := hz.le_reading h.changesAt (show t ≤ t' - 1 by omega)
    have := h.2
    have := h'.1
    omega
  rcases lt_trichotomy t t' with h1 | h1 | h1
  · exact absurd h1 (hlt h h')
  · exact h1
  · exact absurd h1 (hlt h' h)

/-- A reading of an overlap has two instants, one with the offset before the change and one with that after it. -/
theorem reads_of_inOverlap {t r u : Int} (h : InOverlap off t r) :
    u + off u = r ↔ u = r - off (t - 1) ∨ u = r - off t := by
  have ht := h.changesAt
  obtain ⟨hlow, hhigh⟩ := h
  have hbefore := hz.bounded (t - 1)
  have hafter := hz.bounded t
  constructor
  · intro hu
    have := hz.bounded u
    rcases lt_or_ge u t with hut | hut
    · rw [hz.before ht hut (by omega)] at hu
      omega
    · rw [hz.after ht hut (by omega)] at hu
      omega
  · rintro (rfl | rfl)
    · have := hz.before (u := r - off (t - 1)) ht (by omega) (by omega)
      omega
    · have := hz.after (u := r - off t) ht (by omega) (by omega)
      omega

theorem inOverlap_of_reads {u v : Int} (huv : u < v) (h : u + off u = v + off v) : ∃ t, InOverlap off t (u + off u) := by
  have hu := hz.bounded u
  have hv := hz.bounded v
  obtain ⟨t, h1, h2, -, hbefore, hafter⟩ := hz.exists_change huv (by omega) (by omega)
  refine ⟨t, ?_⟩
  simp only [InOverlap]
  omega

theorem exists_reads {r : Int} (h : ∀ t, ¬InGap off t r) : ∃ u, u + off u = r := by
  by_cases hchange : ∃ t, r - day < t ∧ t < r + day ∧ ChangesAt off t
  · obtain ⟨t, h1, h2, ht⟩ := hchange
    have hbefore := hz.bounded (t - 1)
    have hafter := hz.bounded t
    -- Before its reading of the time before the change, `r` has the offset before it, and else the one after it.
    by_cases hr : r < t + off (t - 1)
    · refine ⟨r - off (t - 1), ?_⟩
      have := hz.before (u := r - off (t - 1)) ht (by omega) (by omega)
      omega
    · have hr' : t + off t ≤ r := by
        by_contra hlt
        exact h t ⟨by omega, by omega⟩
      refine ⟨r - off t, ?_⟩
      have := hz.after (u := r - off t) ht (by omega) (by omega)
      omega
  · have hr := hz.bounded r
    have hsteady : off (r - off r) = off r := by
      rcases le_or_gt (r - off r) r with hle | hle
      · exact steady hle fun t h1 h2 ht => hchange ⟨t, by omega, by omega, ht⟩
      · exact (steady hle.le fun t h1 h2 ht => hchange ⟨t, by omega, by omega, ht⟩).symm
    exact ⟨r - off r, by rw [hsteady]; omega⟩

theorem exists_inGap {r : Int} (h : ∀ u, u + off u ≠ r) : ∃ t, InGap off t r := by
  by_contra hno
  obtain ⟨u, hu⟩ := hz.exists_reads fun t ht => hno ⟨t, ht⟩
  exact h u hu

/-- A reading falls into a gap or an overlap, or it has one instant, and no change touches it. -/
theorem cases_reading (r : Int) :
    (∃ t, InGap off t r) ∨ (∃ t, InOverlap off t r) ∨
      ((∀ t, ¬InGap off t r ∧ ¬InOverlap off t r) ∧ ∃ u, u + off u = r ∧ ∀ v, v + off v = r → v = u) := by
  by_cases hgap : ∃ t, InGap off t r
  · exact Or.inl hgap
  · by_cases hoverlap : ∃ t, InOverlap off t r
    · exact Or.inr (Or.inl hoverlap)
    · obtain ⟨u, hu⟩ := hz.exists_reads fun t h => hgap ⟨t, h⟩
      refine Or.inr (Or.inr ⟨fun t => ⟨fun h => hgap ⟨t, h⟩, fun h => hoverlap ⟨t, h⟩⟩, u, hu, fun v hv => ?_⟩)
      rcases lt_trichotomy v u with h | h | h
      · obtain ⟨t, ht⟩ := hz.inOverlap_of_reads h (hv.trans hu.symm)
        exact absurd ⟨t, hv ▸ ht⟩ hoverlap
      · exact h
      · obtain ⟨t, ht⟩ := hz.inOverlap_of_reads h (hu.trans hv.symm)
        exact absurd ⟨t, hu ▸ ht⟩ hoverlap

/-- A reading later than that of `a` which an instant up to `a` has is one of an overlap, and an instant after `a`
    has it too. -/
theorem exists_reads_after {a v r : Int} (hv : v + off v = r) (hva : v ≤ a) (hr : a + off a < r) :
    ∃ u, a < u ∧ u + off u = r := by
  have hbv := hz.bounded v
  have hba := hz.bounded a
  have hlt : v < a := by
    rcases hva.lt_or_eq with h | h
    · exact h
    · subst h
      omega
  obtain ⟨t, h1, h2, -, hbefore, hafter⟩ := hz.exists_change hlt (by omega) (by omega)
  have hoverlap : InOverlap off t r := by
    simp only [InOverlap]
    omega
  exact ⟨r - off t, by omega, (hz.reads_of_inOverlap hoverlap).mpr (Or.inr rfl)⟩

end Sparse
end Offsets
end JobScheduling
