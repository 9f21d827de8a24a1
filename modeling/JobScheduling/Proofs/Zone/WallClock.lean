import JobScheduling.Proofs.Calendar.Reading
import JobScheduling.Proofs.Outcome
import JobScheduling.Proofs.Zone.Spaced

/-! Readings and instants of a zone whose changes are spaced. The instants that are found for a reading are those
    that have it, and what is found for a reading of a gap is the end of the gap: of the seconds between the two
    instants that are bisected, those from the change on have the offset after it and the others have not. Both
    answers exist two days inside the years 1 to 9999. -/

namespace JobScheduling
namespace Offsets

open Calendar

/-- Two days inside the years 1 to 9999. -/
def WellInside (t : Int) : Prop := 2 * day ≤ t ∧ t < limit - 2 * day

theorem inRange_of_wellInside {r u : Int} (hr : WellInside r) (h : r - 2 * day ≤ u ∧ u ≤ r + 2 * day) :
    inRange u = true := by
  rw [inRange_iff]
  simp only [WellInside] at hr
  omega

theorem checkedAt_eq {z : Offsets} {fold : Bool} {r o : Int} (ho : -day < o ∧ o < day) (h : z.atReading fold r = some o) :
    z.checkedAt fold r = .ok (some o) := by
  have : o.natAbs < 86400000000 := by
    simp only [day] at ho
    omega
  simp only [checkedAt, h, this, if_true]

theorem toInstant_eq_ok {z : Offsets} {fold : Bool} {r o u : Int} (h : z.checkedAt fold r = .ok (some o)) :
    z.toInstant fold r = .ok u ↔ inRange (r - o) = true ∧ u = r - o := by
  simp only [toInstant, h, Outcome.ok_bind, checked_eq_ok_iff]

namespace Spaced
variable {z : Offsets} {off : Int → Int} (hz : z.Spaced off)
include hz

/-! ### Offsets of readings -/

theorem checkedAt_change {t r : Int} (h : InGap off t r ∨ InOverlap off t r) (fold : Bool) :
    z.checkedAt fold r = .ok (some (if fold then off t else off (t - 1))) :=
  checkedAt_eq (by split <;> exact hz.bounded _) (hz.atChange h fold)

theorem checkedAt_reading {u : Int} (h : ∀ t, ¬InGap off t (u + off u) ∧ ¬InOverlap off t (u + off u)) (fold : Bool) :
    z.checkedAt fold (u + off u) = .ok (some (off u)) :=
  checkedAt_eq (hz.bounded u) (hz.atReading h fold)

theorem exists_checkedAt (fold : Bool) (r : Int) :
    ∃ o, (-day < o ∧ o < day) ∧ z.checkedAt fold r = .ok (some o) := by
  rcases hz.cases_reading r with ⟨t, ht⟩ | ⟨t, ht⟩ | ⟨hno, u, rfl, -⟩
  · exact ⟨_, by split <;> exact hz.bounded _, hz.checkedAt_change (Or.inl ht) fold⟩
  · exact ⟨_, by split <;> exact hz.bounded _, hz.checkedAt_change (Or.inr ht) fold⟩
  · exact ⟨_, hz.bounded u, hz.checkedAt_reading hno fold⟩

/-- The reading of an instant, in its pass, has the offset of the instant. -/
theorem checkedAt_instant {u : Int} {fold : Bool} (hfold : fold = true ↔ ∃ v < u, v + off v = u + off u) :
    z.checkedAt fold (u + off u) = .ok (some (off u)) := by
  rcases hz.cases_reading (u + off u) with ⟨t, ht⟩ | ⟨t, ht⟩ | ⟨hno, -⟩
  · exact absurd rfl (hz.not_reads_of_inGap ht)
  · have hlt : off t < off (t - 1) := by
      simp only [InOverlap] at ht
      omega
    rw [hz.checkedAt_change (Or.inr ht)]
    rcases (hz.reads_of_inOverlap ht).mp rfl with hu | hu
    · have : fold = false := by
        rw [Bool.eq_false_iff]
        intro hf
        obtain ⟨v, hv, heq⟩ := hfold.mp hf
        rcases (hz.reads_of_inOverlap ht).mp heq with h | h <;> omega
      rw [this, if_neg Bool.false_ne_true]
      congr 2
      omega
    · have : fold = true := hfold.mpr ⟨u + off u - off (t - 1), by omega,
        (hz.reads_of_inOverlap ht).mpr (Or.inl rfl)⟩
      rw [this, if_pos rfl]
      congr 2
      omega
  · exact hz.checkedAt_reading hno fold

/-! ### Conversion -/

theorem readingOf_eq_ok {u r : Int} : z.readingOf u = .ok r ↔ inRange (u + off u) = true ∧ r = u + off u := by
  obtain ⟨fold, hu, -⟩ := hz.atInstant u
  simp only [readingOf, toReading, hu, Outcome.bind_eq_ok, checked_eq_ok_iff]
  constructor
  · rintro ⟨_, ⟨_, ⟨hr, rfl⟩, h⟩, h'⟩
    cases h
    cases h'
    exact ⟨hr, rfl⟩
  · rintro ⟨hr, rfl⟩
    exact ⟨_, ⟨_, ⟨hr, rfl⟩, rfl⟩, rfl⟩

/-! ### The instants of a reading -/

theorem instantsOf_eq {r o₀ o₁ : Int} {us : List Int} (h₀ : z.checkedAt false r = .ok (some o₀))
    (h₁ : z.checkedAt true r = .ok (some o₁)) (h : z.instantsOf r = .ok us) :
    us = if r - o₀ + off (r - o₀) = r then
        if r - o₁ + off (r - o₁) = r ∧ r - o₀ ≠ r - o₁ then [min (r - o₀) (r - o₁), max (r - o₀) (r - o₁)]
        else [r - o₀]
      else if r - o₁ + off (r - o₁) = r then [r - o₁] else [] := by
  obtain ⟨a, ha, h⟩ := Outcome.bind_eq_ok.mp h
  obtain ⟨readsA, hreadsA, h⟩ := Outcome.bind_eq_ok.mp h
  obtain ⟨b, hb, h⟩ := Outcome.bind_eq_ok.mp h
  obtain ⟨readsB, hreadsB, h⟩ := Outcome.bind_eq_ok.mp h
  obtain ⟨-, rfl⟩ := (toInstant_eq_ok h₀).mp ha
  obtain ⟨-, rfl⟩ := (toInstant_eq_ok h₁).mp hb
  obtain ⟨-, rfl⟩ := hz.readingOf_eq_ok.mp hreadsA
  obtain ⟨-, rfl⟩ := hz.readingOf_eq_ok.mp hreadsB
  exact (Except.ok.inj h).symm

theorem instantsOf_of_inGap {t r : Int} {us : List Int} (ht : InGap off t r) (h : z.instantsOf r = .ok us) :
    us = [] := by
  have hus := hz.instantsOf_eq (hz.checkedAt_change (Or.inl ht) _) (hz.checkedAt_change (Or.inl ht) _) h
  rwa [if_neg (hz.not_reads_of_inGap ht), if_neg (hz.not_reads_of_inGap ht)] at hus

theorem instantsOf_of_inOverlap {t r : Int} {us : List Int} (ht : InOverlap off t r) (h : z.instantsOf r = .ok us) :
    us = [r - off (t - 1), r - off t] := by
  have hus := hz.instantsOf_eq (hz.checkedAt_change (Or.inr ht) _) (hz.checkedAt_change (Or.inr ht) _) h
  simp only [Bool.false_eq_true, if_false, if_true] at hus
  have hlt : r - off (t - 1) < r - off t := by
    simp only [InOverlap] at ht
    omega
  rwa [if_pos ((hz.reads_of_inOverlap ht).mpr (Or.inl rfl)),
    if_pos ⟨(hz.reads_of_inOverlap ht).mpr (Or.inr rfl), hlt.ne⟩, min_eq_left hlt.le, max_eq_right hlt.le] at hus

theorem instantsOf_of_untouched {u : Int} {us : List Int}
    (hno : ∀ t, ¬InGap off t (u + off u) ∧ ¬InOverlap off t (u + off u)) (h : z.instantsOf (u + off u) = .ok us) :
    us = [u] := by
  have hus := hz.instantsOf_eq (hz.checkedAt_reading hno _) (hz.checkedAt_reading hno _) h
  rwa [Int.add_sub_cancel, if_pos rfl, if_neg fun h => h.2 rfl] at hus

/-- The instants found for a reading are those that have it, in ascending order. -/
theorem instantsOf_eq_ok {r : Int} {us : List Int} (h : z.instantsOf r = .ok us) :
    us.Pairwise (· < ·) ∧ ∀ u, u ∈ us ↔ u + off u = r := by
  rcases hz.cases_reading r with ⟨t, ht⟩ | ⟨t, ht⟩ | ⟨hno, u, rfl, huniq⟩
  · obtain rfl := hz.instantsOf_of_inGap ht h
    refine ⟨List.Pairwise.nil, fun u => ?_⟩
    exact iff_of_false List.not_mem_nil (hz.not_reads_of_inGap ht)
  · obtain rfl := hz.instantsOf_of_inOverlap ht h
    have hlt : r - off (t - 1) < r - off t := by
      simp only [InOverlap] at ht
      omega
    refine ⟨by simpa using hlt, fun u => ?_⟩
    rw [hz.reads_of_inOverlap ht, List.mem_cons, List.mem_singleton]
  · obtain rfl := hz.instantsOf_of_untouched hno h
    refine ⟨List.pairwise_singleton _ _, fun v => ?_⟩
    rw [List.mem_singleton]
    exact ⟨fun hv => by rw [hv], huniq v⟩

theorem exists_toInstant {r : Int} (hr : WellInside r) (fold : Bool) :
    ∃ u, r - day < u ∧ u < r + day ∧ z.toInstant fold r = .ok u := by
  obtain ⟨o, ho, h⟩ := hz.exists_checkedAt fold r
  have hu : inRange (r - o) = true := inRange_of_wellInside hr (by omega)
  exact ⟨r - o, by omega, by omega, (toInstant_eq_ok h).mpr ⟨hu, rfl⟩⟩

theorem exists_readingOf {r u : Int} (hr : WellInside r) (h : r - day ≤ u ∧ u ≤ r + day) :
    ∃ q, z.readingOf u = .ok q := by
  have hu := hz.bounded u
  have : inRange (u + off u) = true := inRange_of_wellInside hr (by omega)
  exact ⟨_, hz.readingOf_eq_ok.mpr ⟨this, rfl⟩⟩

theorem exists_instantsOf {r : Int} (hr : WellInside r) : ∃ us, z.instantsOf r = .ok us := by
  obtain ⟨a, ha1, ha2, ha⟩ := hz.exists_toInstant hr false
  obtain ⟨b, hb1, hb2, hb⟩ := hz.exists_toInstant hr true
  obtain ⟨readsA, hreadsA⟩ := hz.exists_readingOf hr (u := a) (by omega)
  obtain ⟨readsB, hreadsB⟩ := hz.exists_readingOf hr (u := b) (by omega)
  simp only [instantsOf, ha, hb, hreadsA, hreadsB, Outcome.ok_bind]
  exact ⟨_, rfl⟩

end Spaced

theorem readingOf_utc {u : Int} (hu : inRange u = true) : (constant 0).readingOf u = .ok u :=
  spaced_utc.readingOf_eq_ok.mpr ⟨by rwa [Int.add_zero], (Int.add_zero u).symm⟩

end Offsets
end JobScheduling
