import Mathlib
import JobScheduling.Proofs.Cron.Occurrence

/-! Runs of occurrences. Each occurrence is the first instant that serves the least match after the reading of the one
    before. Its own reading is not earlier than that match, and the reading of every instant before it is earlier: so
    a run moves forward both in time and on the wall clock, and every match that it passes is served by the
    occurrence which passes it and by no other. -/

namespace JobScheduling
namespace Cron

open Calendar Offsets

namespace Schedule
variable (s : Schedule) (off : Int → Int)

/-- The occurrence after an instant. -/
def Follows (a u : Int) : Prop :=
  ∃ L, IsLeast {q | a + off a < q ∧ s.Matches q} L ∧ IsLeast {v | a < v ∧ Serves off v L} u

/-- Occurrences from an instant on, each of them the one after the instant before it. -/
inductive Run : Int → List Int → Prop where
  | done (a : Int) : Run a []
  | step {a u : Int} {us : List Int} (h : s.Follows off a u) (rest : Run u us) : Run a (u :: us)

end Schedule

section Serves
variable {off : Int → Int}

/-! ### The reading of an occurrence -/

theorem Serves.le_reading {u L : Int} (h : Serves off u L) : L ≤ u + off u := by
  rcases h with h | h
  · exact h.ge
  · exact h.2.le

/-- What serves a match reads later than an instant before it, unless it reads no later itself. -/
theorem Serves.lt_of_reading_lt {z : Offsets} (hz : z.Spaced off) {u v L : Int} (h : Serves off v L) (huv : u < v)
    (hlt : u + off u < v + off v) : u + off u < L := by
  rcases h with h | h
  · exact h ▸ hlt
  · exact lt_of_lt_of_le (hz.reading_lt h.changesAt huv) h.1

end Serves

namespace Schedule
variable {s : Schedule} {z : Offsets} {off : Int → Int}

/-! ### Steps -/

theorem Follows.lt {a u : Int} (h : s.Follows off a u) : a < u := by
  obtain ⟨L, -, hu⟩ := h
  exact hu.1.1

theorem Follows.reading_lt {a u : Int} (h : s.Follows off a u) : a + off a < u + off u := by
  obtain ⟨L, hL, hu⟩ := h
  exact lt_of_lt_of_le hL.1.1 hu.1.2.le_reading

/-- An occurrence serves every match up to its reading that the instant before it has not reached. -/
theorem Follows.serves {a u q : Int} (h : s.Follows off a u) (hq : s.Matches q) (haq : a + off a < q)
    (hqu : q ≤ u + off u) : Serves off u q := by
  obtain ⟨L, hL, ⟨-, hreads | hgap⟩, -⟩ := h
  · exact Or.inl (le_antisymm (hreads ▸ hL.2 ⟨haq, hq⟩) hqu)
  · rcases hqu.lt_or_eq with hlt | heq
    · exact Or.inr ⟨hgap.1.trans (hL.2 ⟨haq, hq⟩), hlt⟩
    · exact Or.inl heq.symm

/-! ### Runs -/

/-- A run moves forward in time and on the wall clock. -/
theorem Run.pairwise {a : Int} {us : List Int} (h : s.Run off a us) :
    (a :: us).Pairwise fun u v => u < v ∧ u + off u < v + off v := by
  induction h with
  | done a => exact List.pairwise_singleton _ a
  | @step a u us h rest ih =>
    refine List.pairwise_cons.mpr ⟨fun v hv => ?_, ih⟩
    have hlt := h.lt
    have hread := h.reading_lt
    rcases List.mem_cons.mp hv with rfl | hv
    · exact ⟨hlt, hread⟩
    · have := (List.pairwise_cons.mp ih).1 v hv
      exact ⟨hlt.trans this.1, hread.trans this.2⟩

theorem Run.exists_match {a : Int} {us : List Int} (h : s.Run off a us) :
    ∀ u ∈ us, ∃ L, s.Matches L ∧ a + off a < L ∧ Serves off u L := by
  induction h with
  | done a => exact fun u hu => absurd hu List.not_mem_nil
  | @step a u us h rest ih =>
    intro v hv
    have hread := h.reading_lt
    rcases List.mem_cons.mp hv with rfl | hv
    · obtain ⟨L, hL, hu⟩ := h
      exact ⟨L, hL.1.2, hL.1.1, hu.1.2⟩
    · obtain ⟨L, hL, hlt, hserves⟩ := ih v hv
      exact ⟨L, hL, hread.trans hlt, hserves⟩

theorem Run.exists_serves {a q : Int} {us : List Int} (h : s.Run off a us) (hq : s.Matches q) (haq : a + off a < q)
    (hpast : ∃ u ∈ us, q ≤ u + off u) : ∃ u ∈ us, Serves off u q := by
  induction h with
  | done a =>
    obtain ⟨u, hu, -⟩ := hpast
    exact absurd hu List.not_mem_nil
  | @step a u us h rest ih =>
    rcases le_or_gt q (u + off u) with hle | hgt
    · exact ⟨u, List.mem_cons_self, h.serves hq haq hle⟩
    · have hpast : ∃ v ∈ us, q ≤ v + off v := by
        obtain ⟨v, hv, hle⟩ := hpast
        rcases List.mem_cons.mp hv with rfl | hv
        · omega
        · exact ⟨v, hv, hle⟩
      obtain ⟨v, hv, hserves⟩ := ih hgt hpast
      exact ⟨v, List.mem_cons_of_mem u hv, hserves⟩

/-- No two occurrences of a run serve the same reading. -/
theorem Run.serves_unique (hz : z.Spaced off) {a q u v : Int} {us : List Int} (h : s.Run off a us) (hu : u ∈ us)
    (hv : v ∈ us) (hqu : Serves off u q) (hqv : Serves off v q) : u = v := by
  -- The earlier of two would read `q` or later, and the later one serves only what is beyond that.
  have hnot : ∀ {u v : Int}, u < v ∧ u + off u < v + off v → Serves off u q → ¬Serves off v q := by
    intro u v huv hqu hqv
    have := hqu.le_reading
    have := hqv.lt_of_reading_lt hz huv.1 huv.2
    omega
  induction h with
  | done a => exact absurd hu List.not_mem_nil
  | @step a w us h rest ih =>
    have hlater := (List.pairwise_cons.mp (rest.pairwise)).1
    rcases List.mem_cons.mp hu with rfl | hu' <;> rcases List.mem_cons.mp hv with rfl | hv'
    · rfl
    · exact absurd hqv (hnot (hlater v hv') hqu)
    · exact absurd hqu (hnot (hlater u hu') hqv)
    · exact ih hu' hv'

/-! ### The occurrences of a schedule -/

theorem next_follows (hs : s.Ordered) (hz : z.Spaced off) {a u : Int} {lookahead : Value}
    (h : s.next z a lookahead = .ok u) : s.Follows off a u := by
  obtain ⟨last, -, L, hL, hu⟩ := next_eq_ok hs hz h
  refine ⟨L, ⟨⟨(nextSecond_le_iff hL.1.2.2.whole).mp hL.1.1, hL.1.2.2⟩, ?_⟩, hu⟩
  rintro q ⟨haq, hq⟩
  -- A match beyond the lookahead is in a later year.
  by_contra hlt
  have hyear := yearOf_mono (Int.not_le.mp hlt).le
  have := hL.1.2.1
  exact hlt (hL.2 ⟨(nextSecond_le_iff hq.whole).mpr haq, by simp only [Int.ofNat_eq_natCast] at *; omega, hq⟩)

theorem take_run (hs : s.Ordered) (hz : z.Spaced off) (lookahead : Value) (n : Nat) (a : Int) :
    s.Run off a (s.take z lookahead n a).1 := by
  fun_induction s.take z lookahead n a with
  | case1 a => exact .done a
  | case2 count a u hu r ih => exact .step (next_follows hs hz hu) ih
  | case3 count a f hf => exact .done a

theorem length_take (lookahead : Value) (n : Nat) (a : Int) (h : (s.take z lookahead n a).2 = none) :
    (s.take z lookahead n a).1.length = n := by
  fun_induction s.take z lookahead n a with
  | case1 a => rfl
  | case2 count a u hu r ih => exact congrArg (· + 1) (ih h)
  | case3 a count f hf => cases h

end Schedule

set_option maxRecDepth 20000 in
/-- Two nights from noon of 28 March 2026 on: the first of them has no half past two, so the end of the gap fires. -/
theorem occurrences_nightly :
    occurrences default nightly (.value (.int 1774699200)) (.zone summerZone) (.int 5) 2 =
      ([63910342800000000, 63910427400000000], none) := by cbv

section Occurrences
variable {h : Host} {written : String} {s : Schedule} {after : TimeValue} {hint : ZoneHint} {zone : Zone}
  {off : Int → Int} {a : Int} {lookahead : Value} {n : Nat} {us : List Int} {f : Option Fault}

theorem occurrences_eq (hzone : h.resolve hint = .ok zone) (hafter : h.toInstant after (.zone zone) = .ok a) :
    occurrences h s after hint lookahead n = s.take zone.offsets lookahead n a := by
  unfold occurrences
  split
  · rename_i hn
    subst hn
    rfl
  · simp only [hzone, hafter]

/-- The occurrences after a time value, the zone's changes being spaced, as many as there are: they follow the
    reference in ascending order; each of them reads a match, or is the end of a gap into which one falls; and every
    match that is later than the reading of the reference and not later than that of some occurrence is served by
    exactly one of them. -/
theorem occurrences_serve (hs : parse written = .ok s) (hzone : h.resolve hint = .ok zone)
    (hafter : h.toInstant after (.zone zone) = .ok a) (hoff : zone.offsets.Spaced off)
    (hus : occurrences h s after hint lookahead n = (us, f)) :
    (f = none → us.length = n) ∧ (a :: us).Pairwise (· < ·) ∧
      (∀ u ∈ us, ∃ L, s.Matches L ∧ a + off a < L ∧ (u + off u = L ∨ InGap off u L)) ∧
      ∀ L, s.Matches L → a + off a < L → (∃ u ∈ us, L ≤ u + off u) →
        ∃! u, u ∈ us ∧ (u + off u = L ∨ InGap off u L) := by
  rw [occurrences_eq hzone hafter] at hus
  have hrun := Schedule.take_run (parse_ordered hs) hoff lookahead n a
  have hlength := Schedule.length_take (s := s) (z := zone.offsets) lookahead n a
  rw [hus] at hrun hlength
  refine ⟨hlength, hrun.pairwise.imp And.left, hrun.exists_match, fun L hL haL hpast => ?_⟩
  obtain ⟨u, hu, hserves⟩ := hrun.exists_serves hL haL hpast
  exact ⟨u, ⟨hu, hserves⟩, fun v hv => hrun.serves_unique hoff hv.1 hu hv.2 hserves⟩

end Occurrences

/-- Both nights are served, and the half past two that is missing by the end of the gap. -/
theorem occurrences_serve_nightly :
    (∀ u ∈ [63910342800000000, 63910427400000000], ∃ L, nightly.Matches L ∧ 63910299600000000 < L ∧
      (u + OffsetTable.summerTime.offsetAt u = L ∨ InGap OffsetTable.summerTime.offsetAt u L)) ∧
    ∀ L, nightly.Matches L → 63910299600000000 < L →
      (∃ u ∈ [63910342800000000, 63910427400000000], L ≤ u + OffsetTable.summerTime.offsetAt u) →
        ∃! u, u ∈ [63910342800000000, 63910427400000000] ∧
          (u + OffsetTable.summerTime.offsetAt u = L ∨ InGap OffsetTable.summerTime.offsetAt u L) := by
  have hserve := occurrences_serve parse_nightly (resolve_zone default summerZone) summerZone_noon summerZone_spaced
    occurrences_nightly
  rw [summerTime_reading] at hserve
  exact hserve.2.2

end Cron
end JobScheduling
