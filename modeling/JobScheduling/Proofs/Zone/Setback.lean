import JobScheduling.Proofs.Zone.WallClock
import JobScheduling.Zone.Stamp

/-! Moving a date-time back. The wall clock is moved, and the result is in the first pass of an overlap; so a date-time
    that is in the second pass, or at the end of an overlap, is moved back by the length of the overlap as well. In a
    zone whose changes are spaced these are the only date-times whose instant is moved back by more than was asked
    for. -/

namespace JobScheduling

open Calendar Offsets

/-! ### Answers of a zone -/

namespace Offsets

theorem atReading_of_checkedAt {z : Offsets} {fold : Bool} {r o : Int} (h : z.checkedAt fold r = .ok (some o)) :
    z.atReading fold r = some o := by
  unfold checkedAt at h
  split at h
  · rename_i o' ho
    split at h
    · cases h
      exact ho
    · cases h
  · cases h

theorem atReading_of_checkedAt_none {z : Offsets} {fold : Bool} {r : Int} (h : z.checkedAt fold r = .ok none) :
    z.atReading fold r = none := by
  unfold checkedAt at h
  split at h
  · split at h <;> cases h
  · assumption

end Offsets

/-! ### Neighbouring readings -/

namespace Offsets.Spaced
variable {z : Offsets} {off : Int → Int} (hz : z.Spaced off)
include hz

/-- Changes that touch neighbouring readings are one. -/
theorem change_unique {t t' r r' : Int} (h : InGap off t r ∨ InOverlap off t r)
    (h' : InGap off t' r' ∨ InOverlap off t' r') (hr : r' ≤ r + 1) (hr' : r ≤ r' + 1) : t = t' := by
  have hchange : ChangesAt off t := h.elim InGap.changesAt InOverlap.changesAt
  have hchange' : ChangesAt off t' := h'.elim InGap.changesAt InOverlap.changesAt
  have := hz.bounded t
  have := hz.bounded (t - 1)
  have := hz.bounded t'
  have := hz.bounded (t' - 1)
  simp only [InGap, InOverlap] at h h'
  rcases lt_trichotomy t t' with hlt | heq | hlt
  · have := hz.apart hchange hchange' hlt
    omega
  · exact heq
  · have := hz.apart hchange' hchange hlt
    omega

theorem checkedAt_of_reads {u r : Int} (hu : u + off u = r) (hno : ∀ t, ¬(InGap off t r ∨ InOverlap off t r))
    (fold : Bool) : z.checkedAt fold r = .ok (some (off u)) := by
  subst hu
  exact hz.checkedAt_reading (fun t => not_or.mp (hno t)) fold

/-- From one microsecond before its gap or overlap on, the first pass has the offset before a change. -/
theorem checkedAt_first_pass {t r : Int}
    (h : (InGap off t r ∨ InOverlap off t r) ∨ InGap off t (r + 1) ∨ InOverlap off t (r + 1)) :
    z.checkedAt false r = .ok (some (off (t - 1))) := by
  by_cases hr : ∃ t', InGap off t' r ∨ InOverlap off t' r
  · obtain ⟨t', ht'⟩ := hr
    have heq : t = t' := h.elim (hz.change_unique · ht' (by omega) (by omega))
      (hz.change_unique · ht' (by omega) (by omega))
    rw [hz.checkedAt_change ht', heq]
    rfl
  · have hno : ∀ t', ¬(InGap off t' r ∨ InOverlap off t' r) := fun t' ht' => hr ⟨t', ht'⟩
    have hnext := h.resolve_left (hno t)
    have hchange : ChangesAt off t := hnext.elim InGap.changesAt InOverlap.changesAt
    have hnot := hno t
    have h1 := hz.bounded t
    have h2 := hz.bounded (t - 1)
    simp only [InGap, InOverlap] at hnot hnext
    have hu := hz.before (u := r - off (t - 1)) hchange (by omega) (by omega)
    rw [hz.checkedAt_of_reads (u := r - off (t - 1)) (by omega) hno, hu]

theorem checkedAt_end {t r : Int} (h : InGap off t (r - 1) ∨ InOverlap off t (r - 1))
    (hno : ∀ t', ¬(InGap off t' r ∨ InOverlap off t' r)) (fold : Bool) :
    z.checkedAt fold r = .ok (some (off t)) := by
  have hchange : ChangesAt off t := h.elim InGap.changesAt InOverlap.changesAt
  have hnot := hno t
  have h1 := hz.bounded t
  have h2 := hz.bounded (t - 1)
  simp only [InGap, InOverlap] at hnot h
  have hu := hz.after (u := r - off t) hchange (by omega) (by omega)
  rw [hz.checkedAt_of_reads (u := r - off t) (by omega) hno, hu]

/-- Where no change touches either of two neighbouring readings, the later one has no lower offset. -/
theorem off_le_of_untouched {u v r : Int} (hu : u + off u = r) (hv : v + off v = r - 1)
    (hr : ∀ t, ¬(InGap off t r ∨ InOverlap off t r)) (hr' : ∀ t, ¬(InGap off t (r - 1) ∨ InOverlap off t (r - 1))) :
    off v ≤ off u := by
  by_contra hlt
  have h1 := hz.bounded u
  have h2 := hz.bounded v
  obtain ⟨t, hvt, htu, hchange, hbefore, hafter⟩ := hz.exists_change (u := v) (v := u) (by omega) (by omega) (by omega)
  have := hr t
  have := hr' t
  simp only [InGap, InOverlap] at *
  omega

/-- The offset of a reading is less than that of the first pass one microsecond before, exactly in the second pass of
    an overlap and at the end of one. -/
theorem offset_lt_iff {fold : Bool} {r o o' : Int} (ho : z.checkedAt fold r = .ok (some o))
    (ho' : z.checkedAt false (r - 1) = .ok (some o')) :
    o < o' ↔ (fold = true ∧ ∃ t, InOverlap off t r) ∨ ∃ t, InOverlap off t (r - 1) ∧ r = t + off (t - 1) := by
  by_cases hr : ∃ t, InGap off t r ∨ InOverlap off t r
  · obtain ⟨t, ht⟩ := hr
    rw [hz.checkedAt_change ht] at ho
    rw [hz.checkedAt_first_pass (Or.inr (by rwa [Int.sub_add_cancel]))] at ho'
    cases ho
    cases ho'
    -- The change that touches `r` leaves no room for the end of another one.
    have hend : ¬∃ t, InOverlap off t (r - 1) ∧ r = t + off (t - 1) := by
      rintro ⟨t', ht', heq⟩
      obtain rfl := hz.change_unique ht (Or.inr ht') (by omega) (by omega)
      simp only [InGap, InOverlap] at ht ht'
      omega
    rw [or_iff_left hend]
    cases fold with
    | false => exact iff_of_false (Int.lt_irrefl _) fun h => Bool.false_ne_true h.1
    | true =>
      constructor
      · intro hlt
        refine ⟨rfl, t, ht.resolve_left fun hgap => ?_⟩
        simp only [InGap, if_true] at hgap hlt
        omega
      · rintro ⟨-, t', ht'⟩
        obtain rfl := hz.change_unique ht (Or.inr ht') (by omega) (by omega)
        simp only [InOverlap, if_true] at ht' ⊢
        omega
  · have hno : ∀ t, ¬(InGap off t r ∨ InOverlap off t r) := fun t ht => hr ⟨t, ht⟩
    by_cases hq : ∃ t, InGap off t (r - 1) ∨ InOverlap off t (r - 1)
    · obtain ⟨t, ht⟩ := hq
      rw [hz.checkedAt_end ht hno] at ho
      rw [hz.checkedAt_first_pass (Or.inl ht)] at ho'
      cases ho
      cases ho'
      rw [or_iff_right fun h => h.2.elim fun t' ht' => hno t' (Or.inr ht')]
      constructor
      · intro hlt
        have hnot := hno t
        simp only [InGap, InOverlap] at ht hnot
        refine ⟨t, ?_, by omega⟩
        simp only [InOverlap]
        omega
      · rintro ⟨t', ht', heq⟩
        obtain rfl := hz.change_unique ht (Or.inr ht') (by omega) (by omega)
        simp only [InOverlap] at ht'
        omega
    · have hno' : ∀ t, ¬(InGap off t (r - 1) ∨ InOverlap off t (r - 1)) := fun t ht => hq ⟨t, ht⟩
      obtain ⟨u, hu⟩ := hz.exists_reads fun t ht => hno t (Or.inl ht)
      obtain ⟨v, hv⟩ := hz.exists_reads fun t ht => hno' t (Or.inl ht)
      rw [hz.checkedAt_of_reads hu hno] at ho
      rw [hz.checkedAt_of_reads hv hno'] at ho'
      cases ho
      cases ho'
      refine iff_of_false (Int.not_lt.mpr (hz.off_le_of_untouched hu hv hno hno')) ?_
      rintro (⟨-, t, ht⟩ | ⟨t, ht, -⟩)
      · exact hno t (Or.inr ht)
      · exact hno' t (Or.inr ht)

end Offsets.Spaced

namespace Zone

/-- A zone answers for all readings or for none, and its offsets differ by whole seconds. -/
theorem atReading_eq_some {z : Zone} {fold : Bool} {r o : Int} (h : z.offsets.atReading fold r = some o)
    (fold' : Bool) (r' : Int) : ∃ o', z.offsets.atReading fold' r' = some o' ∧ (o' - o) % second = 0 := by
  cases z with
  | utc | fixed | keyed =>
    cases h
    exact ⟨_, rfl, by rw [Int.sub_self]; rfl⟩
  | table key t =>
    cases h
    exact ⟨_, rfl, by rw [← Int.sub_mul]; exact Int.mul_emod_left _ _⟩
  | seasonal =>
    cases h
    refine ⟨_, rfl, ?_⟩
    unfold seasonalOffset
    split <;> split <;> rfl
  | unaware => cases h

end Zone

/-! ### Date-times -/

namespace Stamp
variable {s s' : Stamp} {i j : Int}

theorem offset?_of_isAware (h : s.isAware = .ok true) : ∃ o, s.offset? = .ok (some o) := by
  obtain ⟨o, ho, h⟩ := Outcome.bind_eq_ok.mp h
  cases o with
  | none => cases h
  | some o => exact ⟨o, ho⟩

theorem instant_eq_ok {o : Int} (ho : s.offset? = .ok (some o)) :
    s.instant = .ok i ↔ inRange (s.reading - o) = true ∧ i = s.reading - o := by
  simp only [instant, ho, Outcome.ok_bind, checked_eq_ok_iff]

theorem inRange_of_instant (haware : s.isAware = .ok true) (hi : s.instant = .ok i) : inRange i = true := by
  obtain ⟨o, ho⟩ := offset?_of_isAware haware
  obtain ⟨hin, rfl⟩ := (instant_eq_ok ho).mp hi
  exact hin

theorem toInstant_of_isAware (haware : s.isAware = .ok true) (h : Host) (hint : ZoneHint) :
    h.toInstant (.stamp s) hint = s.instant := by
  obtain ⟨o, ho⟩ := offset?_of_isAware haware
  simp only [Host.toInstant, instant, ho, Outcome.ok_bind]

theorem toInstant_ofInstant (h : Host) (hint : ZoneHint) (u : Int) :
    h.toInstant (.stamp (ofInstant u)) hint = checked u := by
  rw [toInstant_of_isAware rfl]
  exact congrArg checked (Int.sub_zero u)

theorem plus_eq_ok {d : Int} (h : s.plus d = .ok s') : s' = { s with reading := s.reading + d, fold := false } := by
  obtain ⟨r, hr, h⟩ := Outcome.bind_eq_ok.mp h
  obtain ⟨-, rfl⟩ := checked_eq_ok_iff.mp hr
  exact (Except.ok.inj h).symm

theorem offset?_of_plus {o d : Int} {x : Option Int} (ho : s.offset? = .ok (some o)) (h : s.plus d = .ok s')
    (hx : s'.offset? = .ok x) : ∃ o', x = some o' ∧ (o' - o) % second = 0 := by
  obtain rfl := plus_eq_ok h
  unfold offset? at ho hx
  cases hz : s.zone with
  | none =>
    rw [hz] at ho
    cases ho
  | some z =>
    simp only [hz] at ho hx
    obtain ⟨o', ho', hw⟩ := Zone.atReading_eq_some (atReading_of_checkedAt ho) false (s.reading + d)
    cases x with
    | none => cases (atReading_of_checkedAt_none hx).symm.trans ho'
    | some x =>
      rw [atReading_of_checkedAt hx, Option.some.injEq] at ho'
      exact ⟨x, rfl, ho' ▸ hw⟩

theorem isAware_of_plus {d : Int} (haware : s.isAware = .ok true) (h : s.plus d = .ok s') {x : Option Int}
    (hx : s'.offset? = .ok x) : s'.isAware = .ok true := by
  obtain ⟨o, ho⟩ := offset?_of_isAware haware
  obtain ⟨o', rfl, -⟩ := offset?_of_plus ho h hx
  simp only [isAware, hx, Outcome.ok_bind, Option.isSome_some]

/-- The wall clock was set back so shortly before a date-time that one microsecond less on it is more than one
    microsecond before the instant. -/
def AfterSetback (s : Stamp) : Prop :=
  ∃ s' i j, s.plus (-1) = .ok s' ∧ s.instant = .ok i ∧ s'.instant = .ok j ∧ j + 1 < i

theorem second_lt_of_setback (haware : s.isAware = .ok true) (h : s.plus (-1) = .ok s') (hi : s.instant = .ok i)
    (hj : s'.instant = .ok j) (hlt : j + 1 < i) : j + second < i := by
  obtain ⟨o, ho⟩ := offset?_of_isAware haware
  obtain ⟨x, hx, -⟩ := Outcome.bind_eq_ok.mp hj
  obtain ⟨o', rfl, hw⟩ := offset?_of_plus ho h hx
  obtain ⟨-, rfl⟩ := (instant_eq_ok ho).mp hi
  obtain ⟨-, rfl⟩ := (instant_eq_ok hx).mp hj
  obtain rfl := plus_eq_ok h
  simp only [second] at *
  omega

/-- In a zone whose changes are spaced, the date-times after a setback are those in the second pass of an overlap, and
    those at its end. -/
theorem afterSetback_iff {zone : Zone} {off : Int → Int} (hzone : s.zone = some zone) (hoff : zone.offsets.Spaced off)
    (hin : WellInside s.reading) :
    s.AfterSetback ↔ (s.fold = true ∧ ∃ t, InOverlap off t s.reading) ∨
      ∃ t, InOverlap off t (s.reading - 1) ∧ s.reading = t + off (t - 1) := by
  obtain ⟨o, hbound, ho⟩ := hoff.exists_checkedAt s.fold s.reading
  obtain ⟨o', hbound', ho'⟩ := hoff.exists_checkedAt false (s.reading - 1)
  rw [← hoff.offset_lt_iff ho ho']
  have hoffset : s.offset? = .ok (some o) := by simp only [offset?, hzone, ho]
  have hoffset' : (Stamp.mk (s.reading - 1) s.zone false).offset? = .ok (some o') := by
    simp only [offset?, hzone, ho']
  constructor
  · rintro ⟨s', i, j, hs', hi, hj, hlt⟩
    obtain rfl := plus_eq_ok hs'
    obtain ⟨-, rfl⟩ := (instant_eq_ok hoffset).mp hi
    obtain ⟨-, rfl⟩ := (instant_eq_ok hoffset').mp hj
    simp only at hlt
    omega
  · intro hlt
    have hplus : s.plus (-1) = .ok ⟨s.reading - 1, s.zone, false⟩ := by
      have := checked_of_inRange (inRange_of_wellInside hin (u := s.reading + -1) (by simp only [day]; omega))
      simp only [plus, this, Outcome.ok_bind]
      rfl
    exact ⟨_, _, _, hplus,
      (instant_eq_ok hoffset).mpr ⟨inRange_of_wellInside hin (u := s.reading - o) (by omega), rfl⟩,
      (instant_eq_ok hoffset').mpr ⟨inRange_of_wellInside hin (u := s.reading - 1 - o')
        (by simp only [day] at *; omega), rfl⟩, by simp only; omega⟩

end Stamp
end JobScheduling
