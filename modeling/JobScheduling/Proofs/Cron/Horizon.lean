import JobScheduling.Proofs.Cron.Occurrence
import Mathlib.Data.Int.LeastGreatest

/-! How far a search goes. It passes over the matches whose instants have all gone by, and has an answer exactly if it
    comes to one that fires after the reference; this holds in every zone, whatever the zone answers. The calendar ends
    with the year 9999: a search that looks to that year or beyond it does not stop at its last year but runs out of the
    calendar, and fails otherwise than one that is unreachable. -/

namespace JobScheduling
namespace Cron

open Calendar Offsets

/-! ### In every zone -/

/-- A reading fires after an instant. -/
def FiresAfter (z : Offsets) (a r : Int) : Prop := ∃ us, firings z r = .ok us ∧ ∃ u ∈ us, a < u

/-- A reading has instants at which it fires, and all of them have gone by at an instant. -/
def GoneBy (z : Offsets) (a r : Int) : Prop := ∃ us, firings z r = .ok us ∧ ∀ u ∈ us, u ≤ a

namespace Schedule

/-- From `start` on and in a year up to the last, as far as the calendar goes, there is a match that fires after `a`, and
    those before it have gone by. -/
def Reaches (s : Schedule) (z : Offsets) (a start last : Int) : Prop :=
  ∃ r ∈ s.Seen start last, FiresAfter z a r ∧
    ∀ q ∈ s.Seen start last, q < r → GoneBy z a q

section Reaches
variable {s : Schedule} {z : Offsets} {a start last : Int}

theorem not_reaches_of_empty (h : s.Seen start last = ∅) : ¬s.Reaches z a start last := by
  rintro ⟨r, hr, -⟩
  rw [h] at hr
  exact hr

theorem lt_limit_of_seen {q : Int} (hq : q ∈ s.Seen start last) : q < limit := by
  have := hq.2.1
  rw [← yearOf_le_maxYear_iff]
  simp only [Int.ofNat_eq_natCast] at this
  omega

section Least
variable {r : Int} (hr : IsLeast (s.Seen start last) r)
include hr

theorem mem_seen_behind {q : Int} :
    q ∈ s.Seen (r + second) last ↔
      q ∈ s.Seen start last ∧ r < q := by
  have hw := hr.1.2.2.whole
  constructor
  · rintro ⟨hle, hyear, hq⟩
    have hstart := hr.1.1
    simp only [second] at hle
    exact ⟨⟨by omega, hyear, hq⟩, by omega⟩
  · rintro ⟨⟨-, hyear, hq⟩, hlt⟩
    have := hq.whole
    refine ⟨?_, hyear, hq⟩
    simp only [second] at *
    omega

/-- What is reached is the least candidate or lies behind it. -/
theorem reaches_iff_of_isLeast :
    s.Reaches z a start last ↔ FiresAfter z a r ∨ GoneBy z a r ∧ s.Reaches z a (r + second) last := by
  constructor
  · rintro ⟨L, hL, hfires, hgone⟩
    rcases (hr.2 hL).eq_or_lt with rfl | hlt
    · exact Or.inl hfires
    · refine Or.inr ⟨hgone r hr.1 hlt, L, (mem_seen_behind hr).mpr ⟨hL, hlt⟩, hfires, fun q hq => ?_⟩
      exact hgone q ((mem_seen_behind hr).mp hq).1
  · rintro (hfires | ⟨hgone, L, hL, hfires, hbetween⟩)
    · exact ⟨r, hr.1, hfires, fun q hq hlt => absurd (hr.2 hq) (Int.not_le.mpr hlt)⟩
    · refine ⟨L, ((mem_seen_behind hr).mp hL).1, hfires, fun q hq hlt => ?_⟩
      rcases (hr.2 hq).eq_or_lt with rfl | hbehind
      · exact hgone
      · exact hbetween q ((mem_seen_behind hr).mpr ⟨hq, hbehind⟩) hlt

end Least

/-- What a search reaches is reached by one that begins no later and looks no less far, if the zone tells at which
    instants the matches fire that it comes to before. -/
theorem Reaches.mono {a' start' last' : Int} (h : s.Reaches z a start last) (ha : a' ≤ a) (hstart : start' ≤ start)
    (hlast : last ≤ last') (hanswered : ∀ q ∈ s.Seen start' last', q < start →
      ∃ us, firings z q = .ok us) : s.Reaches z a' start' last' := by
  obtain ⟨r, ⟨hle, hyear, hr⟩, ⟨us, hus, u, hu, hau⟩, hgone⟩ := h
  have hfires : r ∈ s.Seen start' last' ∧ FiresAfter z a' r :=
    ⟨⟨by omega, by omega, hr⟩, us, hus, u, hu, by omega⟩
  -- The first candidate that fires after `a'` need not be `r`, but it is not behind it.
  obtain ⟨L, ⟨hL, hLfires⟩, hmin⟩ := Int.exists_least_of_bdd
    (P := fun q => q ∈ s.Seen start' last' ∧ FiresAfter z a' q)
    ⟨start', fun q hq => hq.1.1⟩ ⟨r, hfires⟩
  refine ⟨L, hL, hLfires, fun q hq hlt => ?_⟩
  have hus : ∃ us, firings z q = .ok us := by
    rcases lt_or_ge q start with hbefore | hfrom
    · exact hanswered q hq hbefore
    · have hqr : q < r := lt_of_lt_of_le hlt (hmin r hfires)
      have := yearOf_mono hqr.le
      obtain ⟨us, hus, -⟩ := hgone q ⟨hfrom, by simp only [Int.ofNat_eq_natCast] at *; omega, hq.2.2⟩ hqr
      exact ⟨us, hus⟩
  obtain ⟨us, hus⟩ := hus
  refine ⟨us, hus, fun v hv => Int.not_lt.mp fun hav => ?_⟩
  exact absurd (hmin q ⟨hq, us, hus, v, hv, hav⟩) (Int.not_le.mpr hlt)

/-! ### The search -/

theorem behind_whole {r : Int} (hr : r ∈ s.Seen start last) :
    start < r + Calendar.second ∧ (r + Calendar.second) % Calendar.second = 0 := by
  have := hr.1
  have := hr.2.2.whole
  simp only [Calendar.second] at *
  omega

variable {lookahead : Value}

theorem not_exists_occurrenceFrom (hs : s.Ordered) (h0 : 0 ≤ start) (hw : start % Calendar.second = 0)
    (hempty : s.Seen start last = ∅) :
    ¬∃ u, s.occurrenceFrom z lookahead a last start = .ok u := by
  rintro ⟨u, hu⟩
  rw [occurrenceFrom] at hu
  rcases nextMatch_cases hs h0 hw last with ⟨r, -, hr⟩ | ⟨-, hnone⟩
  · rw [hempty] at hr
    exact hr.1
  · rw [hnone] at hu
    split at hu
    · rw [Outcome.ok_bind] at hu
      obtain ⟨_, -, hu⟩ := Outcome.bind_eq_ok.mp hu
      cases hu
    · cases hu

/-- A search ends with the least candidate if that fires, and goes on behind it if it has gone by. -/
theorem exists_occurrenceFrom_step (hs : s.Ordered) (h0 : 0 ≤ start) {r : Int}
    (hfound : s.nextMatch start last = .ok (some r)) (hr : IsLeast (s.Seen start last) r) :
    (∃ u, s.occurrenceFrom z lookahead a last start = .ok u) ↔
      FiresAfter z a r ∨ GoneBy z a r ∧ ∃ u, s.occurrenceFrom z lookahead a last (r + Calendar.second) = .ok u := by
  obtain ⟨hbehind, hwhole⟩ := behind_whole hr.1
  rw [occurrenceFrom]
  simp only [hfound, Outcome.ok_bind]
  cases hus : firings z r with
  | error f => simp [FiresAfter, GoneBy, hus]
  | ok us =>
    cases hfind : us.find? (a < ·) with
    | some u =>
      have hu := List.find?_some hfind
      exact iff_of_true ⟨u, by simp only [hfind, Outcome.ok_bind]⟩
        (Or.inl ⟨us, hus, u, List.mem_of_find?_eq_some hfind, by simpa using hu⟩)
    | none =>
      have hgone : ∀ u ∈ us, u ≤ a := by simpa using hfind
      have hnot : ¬FiresAfter z a r := by
        rintro ⟨us', hus', u, hu, hau⟩
        rw [hus] at hus'
        cases hus'
        exact absurd (hgone u hu) (Int.not_le.mpr hau)
      rw [or_iff_right hnot, and_iff_right ⟨us, hus, hgone⟩]
      simp only [hfind, Outcome.ok_bind]
      by_cases hin : inRange (r + Calendar.second) = true
      · simp only [checked_of_inRange hin, Outcome.ok_bind, dif_pos (And.intro hbehind (inRange_iff.mp hin).2)]
      · -- The least candidate is in the last second of the calendar, and none lies behind it.
        have hempty : s.Seen (r + Calendar.second) last = ∅ :=
          Set.eq_empty_of_forall_notMem fun q hq => hin (inRange_iff.mpr
            ⟨by omega, lt_of_le_of_lt hq.1 (lt_limit_of_seen hq)⟩)
        refine iff_of_false ?_ (not_exists_occurrenceFrom hs (by omega) hwhole hempty)
        rintro ⟨u, hu⟩
        obtain ⟨next, hchecked, -⟩ := Outcome.bind_eq_ok.mp hu
        exact hin (checked_eq_ok_iff.mp hchecked).1

/-- A search has an answer exactly if it reaches one. -/
theorem exists_occurrenceFrom_iff (hs : s.Ordered) (h0 : 0 ≤ start) (hw : start % Calendar.second = 0) :
    (∃ u, s.occurrenceFrom z lookahead a last start = .ok u) ↔ s.Reaches z a start last := by
  induction hn : (limit - start).toNat using Nat.strong_induction_on generalizing start with
  | h n ih =>
    rcases nextMatch_cases hs h0 hw last with ⟨r, hfound, hr⟩ | ⟨hempty, -⟩
    · obtain ⟨hbehind, hwhole⟩ := behind_whole hr.1
      have hlimit := lt_of_le_of_lt hr.1.1 (lt_limit_of_seen hr.1)
      rw [exists_occurrenceFrom_step hs h0 hfound hr, reaches_iff_of_isLeast hr,
        ih _ (by omega) (Int.le_trans h0 hbehind.le) hwhole rfl]
    · exact iff_of_false (not_exists_occurrenceFrom hs h0 hw hempty) (not_reaches_of_empty hempty)

end Reaches
end Schedule

/-! ### From an instant on -/

namespace Schedule
variable {s : Schedule} {a : Int} {lookahead : Value}

/-- The readings that are looked at after an instant reach one that fires after it. -/
def ReachesWithin (s : Schedule) (z : Offsets) (a : Int) (lookahead : Value) : Prop :=
  ∃ start last, LooksAt z a lookahead start last ∧ s.Reaches z a start last

theorem exists_next_iff (hs : s.Ordered) {z : Offsets} :
    (∃ u, s.next z a lookahead = .ok u) ↔ s.ReachesWithin z a lookahead := by
  constructor
  · rintro ⟨u, hu⟩
    obtain ⟨start, last, hlooks, hu⟩ := next_eq_ok_iff.mp hu
    exact ⟨start, last, hlooks, (exists_occurrenceFrom_iff hs hlooks.whole.1 hlooks.whole.2).mp ⟨u, hu⟩⟩
  · rintro ⟨start, last, hlooks, hreaches⟩
    obtain ⟨u, hu⟩ := (exists_occurrenceFrom_iff hs hlooks.whole.1 hlooks.whole.2).mpr hreaches
    exact ⟨u, next_eq_ok_iff.mpr ⟨start, last, hlooks, hu⟩⟩

/-! ### Where the offset never changes -/

theorem answers_iff_of_checked {x : Outcome Int} {u : Int} {p : Problem} (hx : x = checked u) (h0 : 0 ≤ u) :
    (∃ v, x = .ok v) ∨ x = .error (.problem p) ↔ u < limit := by
  by_cases hu : u < limit
  · rw [hx, checked_of_inRange (inRange_iff.mpr ⟨h0, hu⟩)]
    exact iff_of_true (Or.inl ⟨u, rfl⟩) hu
  · rw [hx, checked, if_neg fun h => hu (inRange_iff.mp h).2]
    exact iff_of_false (by simp) hu

section Constant
variable {z : Offsets} {offset : Int} (hz : z.Spaced fun _ => offset)
include hz

/-- The next occurrence is the instant of the least match, if the calendar has it. Where there is no match, the schedule
    is unreachable if the last year is before that of the calendar, and the search fails beyond the calendar if not. -/
theorem next_constant (hs : s.Ordered) {n : Int} (hn : 1 ≤ n) (hyear : 2 ≤ yearOf (a + offset))
    (hyear' : yearOf (a + offset) ≤ 9998) :
    let start := nextSecond (a + offset)
    let last := Int.ofNat (yearOf start) + n
    (∃ L, IsLeast (s.Seen start last) L ∧ s.next z a (.int n) = checked (L - offset)) ∨
      s.Seen start last = ∅ ∧ s.next z a (.int n) = .error
        (if last < Int.ofNat maxYear then .problem (.unreachable s.expression (.int n)) else s.beyondCalendar) := by
  intro start last
  have hlooks : LooksAt z a (.int n) start last := looksAt_of_spaced hz n hyear hyear'
  rw [next_of_looksAt hlooks]
  rcases nextMatch_cases hs hlooks.whole.1 hlooks.whole.2 last with ⟨L, hfound, hL⟩ | ⟨hempty, hnone⟩
  · refine Or.inl ⟨L, hL, ?_⟩
    have hafter : a + offset < L := lt_of_lt_of_le (lt_nextSecond _) hL.1.1
    have hin : inRange L = true := inRange_iff.mpr ⟨Int.le_trans hlooks.whole.1 hL.1.1, lt_limit_of_seen hL.1⟩
    have hfirings := firings_constant hz hin
    cases hu : checked (L - offset) with
    | error f =>
      rw [hu] at hfirings
      rw [occurrenceFrom]
      simp only [hfound, hfirings, Except.map, Outcome.ok_bind, Outcome.error_bind]
    | ok u =>
      obtain ⟨-, rfl⟩ := checked_eq_ok_iff.mp hu
      rw [hu] at hfirings
      have hlater : a < L - offset := by omega
      exact occurrenceFrom_of_find? hfound hfirings (List.find?_cons_of_pos (decide_eq_true hlater))
  · refine Or.inr ⟨hempty, ?_⟩
    have hfrom : ¬last < Int.ofNat (yearOf start) := by omega
    have hcount : n ≤ last := Int.le_add_of_nonneg_left (Int.natCast_nonneg _)
    rw [occurrenceFrom, hnone]
    simp only [hfrom, false_or]
    split
    · -- The years looked at end before that of the calendar, so their number has few digits.
      rename_i hlast
      have hwritten : (Value.int n).isWritable = true :=
        Value.isWritable_int_of_lt (by omega) (Int.lt_trans (Int.lt_of_le_of_lt hcount hlast) (by decide))
      simp only [Value.writable_of_isWritable hwritten, Outcome.ok_bind]
    · rfl

/-- A schedule has a next occurrence or is unreachable, exactly if the last year is before that of the calendar, or the
    calendar has a match and the instant of the least one. -/
theorem next_answers_iff (hs : s.Ordered) {n : Int} (hn : 1 ≤ n) (hyear : 2 ≤ yearOf (a + offset))
    (hyear' : yearOf (a + offset) ≤ 9998) :
    let start := nextSecond (a + offset)
    ((∃ u, s.next z a (.int n) = .ok u) ∨ s.next z a (.int n) = .error (.problem (.unreachable s.expression (.int n))) ↔
      Int.ofNat (yearOf start) + n < Int.ofNat maxYear ∨
        ∃ L, IsLeast (s.Candidates start (Int.ofNat maxYear)) L ∧ L - offset < limit) := by
  intro start
  have hlow := le_of_two_le_yearOf hyear
  have hoffset := hz.bounded 0
  rcases next_constant hz hs hn hyear hyear' with ⟨L, hL, hnext⟩ | ⟨hempty, hnext⟩
  · -- The instant is in the calendar unless it is beyond its end.
    have hafter : a + offset < L := lt_of_lt_of_le (lt_nextSecond _) hL.1.1
    have hanswers := answers_iff_of_checked (p := .unreachable s.expression (.int n)) hnext
      (by simp only [day] at *; omega)
    rw [hanswers]
    by_cases hlast : Int.ofNat (yearOf start) + n < Int.ofNat maxYear
    · have hyearL : Int.ofNat (yearOf L) ≤ Int.ofNat (yearOf start) + n := Int.le_trans hL.1.2.1 (min_le_left _ _)
      have := lt_of_yearOf_le (r := L) (by simp only [maxYear, Int.ofNat_eq_natCast] at *; omega)
      exact iff_of_true (by simp only [day] at *; omega) (Or.inl hlast)
    · rw [Seen, min_eq_right (Int.not_lt.mp hlast)] at hL
      rw [or_iff_right hlast]
      constructor
      · intro h
        exact ⟨L, hL, h⟩
      · rintro ⟨L', hL', h⟩
        rwa [hL.unique hL']
  · rw [hnext]
    by_cases hlast : Int.ofNat (yearOf start) + n < Int.ofNat maxYear
    · rw [if_pos hlast]
      exact iff_of_true (Or.inr rfl) (Or.inl hlast)
    · rw [Seen, min_eq_right (Int.not_lt.mp hlast)] at hempty
      rw [if_neg hlast, or_iff_right hlast]
      refine iff_of_false ?_ ?_
      · rintro (⟨u, hu⟩ | hu)
        · cases hu
        · exact s.beyondCalendar_ne_problem _ (Except.error.inj hu)
      · rintro ⟨L, hL, -⟩
        rw [hempty] at hL
        exact hL.1

/-- A schedule without a match in the calendar is unreachable if the last year is before that of the calendar, and its
    search fails beyond the calendar if not. -/
theorem next_of_no_candidate (hs : s.Ordered) {n : Int} (hn : 1 ≤ n) (hyear : 2 ≤ yearOf (a + offset))
    (hyear' : yearOf (a + offset) ≤ 9998)
    (hempty : s.Candidates (nextSecond (a + offset)) (Int.ofNat maxYear) = ∅) :
    s.next z a (.int n) = .error (if Int.ofNat (yearOf (nextSecond (a + offset))) + n < Int.ofNat maxYear then
      .problem (.unreachable s.expression (.int n)) else s.beyondCalendar) := by
  rcases next_constant hz hs hn hyear hyear' with ⟨L, hL, -⟩ | ⟨-, hnext⟩
  · have hmem : L ∈ s.Candidates (nextSecond (a + offset)) (Int.ofNat maxYear) :=
      ⟨hL.1.1, Int.le_trans hL.1.2.1 (min_le_right _ _), hL.1.2.2⟩
    rw [hempty] at hmem
    exact absurd hmem (Set.notMem_empty L)
  · exact hnext

end Constant

end Schedule
end Cron
end JobScheduling
