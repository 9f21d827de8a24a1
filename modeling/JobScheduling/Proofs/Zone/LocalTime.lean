import JobScheduling.Proofs.Zone.GapEnd
import JobScheduling.Proofs.Zone.Setback
import JobScheduling.Proofs.Zone.Table

/-! Local times of a zone whose changes are spaced. All instants of a local time are found; of a skipped local time the
    end of its gap is found; and a local time without a zone stands for its first instant, or if it is skipped for the
    instant that is as far behind the gap as the local time is in it. -/

namespace JobScheduling

open Calendar Offsets

namespace Offsets
variable {z : Offsets} {off : Int → Int}

/-! ### The instants of a local time -/

namespace Spaced
variable (hz : z.Spaced off)
include hz

theorem not_inOverlap_of_inGap {t t' r : Int} (ht : InGap off t r) : ¬InOverlap off t' r := fun ht' =>
  hz.not_reads_of_inGap ht ((hz.reads_of_inOverlap ht').mpr (Or.inl rfl))

theorem readingOf_iff {r u : Int} (hr : WellInside r) : z.readingOf u = .ok r ↔ u + off u = r := by
  rw [hz.readingOf_eq_ok]
  constructor
  · rintro ⟨-, rfl⟩
    rfl
  · rintro rfl
    exact ⟨inRange_of_wellInside hr (by simp only [day]; omega), rfl⟩

end Spaced

/-- The instants found for a local time are all that read it and no others, in ascending order: there are none exactly in a
    gap, and two exactly in an overlap. -/
theorem instantsOf_complete (hz : z.Spaced off) {r : Int} (hr : WellInside r) :
    ∃ us, z.instantsOf r = .ok us ∧ us.Pairwise (· < ·) ∧ (∀ u, u ∈ us ↔ z.readingOf u = .ok r) ∧
      (us = [] ↔ ∃ t, InGap off t r) ∧ (us.length = 2 ↔ ∃ t, InOverlap off t r) := by
  obtain ⟨us, hus⟩ := hz.exists_instantsOf hr
  obtain ⟨hascending, hmem⟩ := hz.instantsOf_eq_ok hus
  refine ⟨us, hus, hascending, fun u => (hmem u).trans (hz.readingOf_iff hr).symm, ?_⟩
  rcases hz.cases_reading r with ⟨t, ht⟩ | ⟨t, ht⟩ | ⟨hno, u, rfl, -⟩
  · obtain rfl := hz.instantsOf_of_inGap ht hus
    refine ⟨iff_of_true rfl ⟨t, ht⟩, iff_of_false (by decide) ?_⟩
    rintro ⟨t', ht'⟩
    exact hz.not_inOverlap_of_inGap ht ht'
  · obtain rfl := hz.instantsOf_of_inOverlap ht hus
    refine ⟨iff_of_false (List.cons_ne_nil _ _) ?_, iff_of_true rfl ⟨t, ht⟩⟩
    rintro ⟨t', ht'⟩
    exact hz.not_inOverlap_of_inGap ht' ht
  · obtain rfl := hz.instantsOf_of_untouched hno hus
    refine ⟨iff_of_false (List.cons_ne_nil _ _) ?_, iff_of_false (by simp) ?_⟩
    · rintro ⟨t, ht⟩
      exact (hno t).1 ht
    · rintro ⟨t, ht⟩
      exact (hno t).2 ht

/-- Both instants of a local time that is shown twice are found, the one in the first pass first. -/
theorem instantsOf_complete_overlap : WellInside 63928492200000000 ∧
    summerZone.offsets.instantsOf 63928492200000000 = .ok [63928485000000000, 63928488600000000] ∧
    ∀ u, summerZone.offsets.readingOf u = .ok 63928492200000000 → u = 63928485000000000 ∨ u = 63928488600000000 := by
  have hin : WellInside 63928492200000000 := ⟨by decide, by decide⟩
  obtain ⟨us, hus, -, hmem, -⟩ := instantsOf_complete summerZone_spaced hin
  have hfound := summerZone_spaced.instantsOf_of_inOverlap OffsetTable.summerTime_inOverlap hus
  rw [OffsetTable.summerTime_setback.1, OffsetTable.summerTime_setback.2] at hfound
  obtain rfl : us = [63928485000000000, 63928488600000000] := hfound
  exact ⟨hin, hus, fun u hu => by simpa using (hmem u).mpr hu⟩

/-! ### The end of a gap -/

/-- For every whole second of a gap the change that makes the gap is found, and its reading is the first local time behind
    the gap that the wall clock shows. -/
theorem afterGap_eq_change (hz : z.Spaced off) {t r : Int} (ht : InGap off t r) (hw : r % second = 0) (hr : WellInside r) :
    z.afterGap r = .ok t ∧ ∃ q, z.readingOf t = .ok q ∧ IsLeast {q | r < q ∧ ∃ u, z.readingOf u = .ok q} q := by
  obtain ⟨x, hx⟩ := hz.exists_afterGap ht hw hr
  obtain rfl := hz.afterGap_eq_ok ht hw hx
  have hbefore := hz.bounded (x - 1)
  have hafter := hz.bounded x
  obtain ⟨hlow, hhigh⟩ := ht
  have hread : z.readingOf x = .ok (x + off x) :=
    hz.readingOf_eq_ok.mpr ⟨inRange_of_wellInside hr (by omega), rfl⟩
  refine ⟨hx, _, hread, ⟨hhigh, x, hread⟩, ?_⟩
  rintro q ⟨hrq, u, hu⟩
  obtain ⟨-, rfl⟩ := hz.readingOf_eq_ok.mp hu
  -- What is shown later than `r` is not in the gap.
  by_contra hlt
  exact hz.not_reads_of_inGap (t := x) ⟨by omega, Int.not_le.mp hlt⟩ rfl

/-- From half past two on 29 March 2026 the end of its gap is found, which reads three o'clock. -/
theorem afterGap_eq_change_summer :
    InGap OffsetTable.summerTime.offsetAt 63910342800000000 63910348200000000 ∧
      63910348200000000 % second = 0 ∧ WellInside 63910348200000000 ∧
      summerZone.offsets.afterGap 63910348200000000 = .ok 63910342800000000 ∧
      summerZone.offsets.readingOf 63910342800000000 = .ok 63910350000000000 ∧
      ∀ q, 63910348200000000 < q → (∃ u, summerZone.offsets.readingOf u = .ok q) → 63910350000000000 ≤ q := by
  have hgap := OffsetTable.summerTime_inGap
  have hin : WellInside 63910348200000000 := ⟨by decide, by decide⟩
  have hread : summerZone.offsets.readingOf 63910342800000000 = .ok 63910350000000000 := by
    rw [summerZone_spaced.readingOf_eq_ok, OffsetTable.summerTime_advance.2]
    exact ⟨by decide, by decide⟩
  obtain ⟨hafter, q, hq, hleast⟩ := afterGap_eq_change summerZone_spaced hgap (by decide) hin
  obtain rfl := Except.ok.inj (hread.symm.trans hq)
  exact ⟨hgap, by decide, hin, hafter, hread, fun q hlt hshown => hleast.2 ⟨hlt, hshown⟩⟩

end Offsets

/-! ### Local times without a zone -/

namespace Stamp

theorem readingIn_ofInstant {zone : Zone} {u : Int} (hu : inRange u = true) :
    (ofInstant u).readingIn zone = zone.offsets.readingOf u := by
  have hinstant : (ofInstant u).instant = .ok u :=
    (instant_eq_ok rfl).mpr ⟨(Int.sub_zero u).symm ▸ hu, (Int.sub_zero u).symm⟩
  cases zone with
  | utc => exact (readingOf_utc hu).symm
  | _ => simp only [readingIn, hinstant, Outcome.ok_bind]; rfl

/-- An instant beyond the calendar reads as no local time of it. -/
theorem inRange_of_readingIn {zone : Zone} {u r : Int} (hr : inRange r = true) (h : (ofInstant u).readingIn zone = .ok r) :
    inRange u = true := by
  cases zone with
  | utc =>
    obtain rfl := Except.ok.inj h
    exact hr
  | _ =>
    obtain ⟨v, hv, -⟩ := Outcome.bind_eq_ok.mp h
    have := ((instant_eq_ok rfl).mp hv).1
    rwa [Int.sub_zero] at this

theorem readingIn_iff {zone : Zone} {off : Int → Int} (hoff : zone.offsets.Spaced off) {r u : Int} (hr : WellInside r) :
    (ofInstant u).readingIn zone = .ok r ↔ u + off u = r := by
  have hbound := hoff.bounded u
  constructor
  · intro h
    rw [readingIn_ofInstant (inRange_of_readingIn (inRange_of_wellInside hr (by simp only [day]; omega)) h)] at h
    exact (hoff.readingOf_iff hr).mp h
  · intro h
    rw [readingIn_ofInstant (inRange_of_wellInside hr (by omega))]
    exact (hoff.readingOf_iff hr).mpr h

end Stamp

namespace Host
variable {h : Host} {hint : ZoneHint} {zone : Zone} {off : Int → Int}

theorem toInstant_of_naive {s : Stamp} (hnaive : s.offset? = .ok none) (hzone : h.resolve hint = .ok zone) :
    h.toInstant (.stamp s) hint = zone.offsets.toInstant false s.reading := by
  simp only [toInstant, hnaive, hzone, Outcome.ok_bind]

end Host

namespace Offsets.Spaced
variable {z : Offsets} {off : Int → Int} (hz : z.Spaced off) {r : Int} (hr : WellInside r)
include hz hr

/-- The first pass of a gap or of an overlap is read with the offset before the change. -/
theorem toInstant_of_touched {t : Int} (ht : InGap off t r ∨ InOverlap off t r) :
    z.toInstant false r = .ok (r - off (t - 1)) := by
  have hbound := hz.bounded (t - 1)
  exact (toInstant_eq_ok (hz.checkedAt_change ht false)).mpr
    ⟨inRange_of_wellInside hr (u := r - off (t - 1)) (by omega), rfl⟩

/-- A local time that an instant reads stands for the first such instant. -/
theorem toInstant_isLeast {v : Int} (hv : v + off v = r) :
    ∃ u, z.toInstant false r = .ok u ∧ IsLeast {u | u + off u = r} u := by
  rcases hz.cases_reading r with ⟨t, ht⟩ | ⟨t, ht⟩ | ⟨hno, u, rfl, huniq⟩
  · exact absurd hv (hz.not_reads_of_inGap ht)
  · refine ⟨_, hz.toInstant_of_touched hr (Or.inr ht), (hz.reads_of_inOverlap ht).mpr (Or.inl rfl), fun w hw => ?_⟩
    have hfirst := (hz.reads_of_inOverlap ht).mp hw
    simp only [InOverlap] at ht
    omega
  · have hbound := hz.bounded u
    refine ⟨u, ?_, rfl, fun w hw => (huniq w hw).ge⟩
    rw [toInstant_eq_ok (hz.checkedAt_reading hno false), Int.add_sub_cancel]
    exact ⟨inRange_of_wellInside hr (by omega), rfl⟩

/-- A skipped local time stands for an instant that reads later by the length of the gap. -/
theorem toInstant_of_inGap {t : Int} (ht : InGap off t r) :
    ∃ u, z.toInstant false r = .ok u ∧ inRange u = true ∧ z.readingOf u = .ok (r + (off t - off (t - 1))) := by
  have hbefore := hz.bounded (t - 1)
  have hafter := hz.bounded t
  obtain ⟨-, hlow, -, hhigh⟩ := hz.gap_ends ht
  have hu : r - off (t - 1) + off (r - off (t - 1)) = r + (off t - off (t - 1)) := by
    rw [hz.after ht.changesAt hlow hhigh]
    omega
  refine ⟨_, hz.toInstant_of_touched hr (Or.inl ht), inRange_of_wellInside hr (by omega), ?_⟩
  rw [hz.readingOf_eq_ok, hu]
  exact ⟨inRange_of_wellInside hr (by omega), rfl⟩

/-- What an instant reads stands for that instant, if it is in no second pass. -/
theorem toInstant_of_reads {u : Int} (hread : u + off u = r) (hfirst : ∀ t, InOverlap off t r → u < t) :
    z.toInstant false r = .ok u := by
  obtain ⟨v, hv, hleast⟩ := hz.toInstant_isLeast hr hread
  rw [hv]
  -- An earlier instant with the reading would put `u` into a second pass.
  by_contra hne
  have hlt : v < u := lt_of_le_of_ne (hleast.2 hread) fun h => hne (congrArg _ h)
  obtain ⟨t, ht⟩ := hz.inOverlap_of_reads hlt (hleast.1.trans hread.symm)
  rw [show v + off v = r from hleast.1] at ht
  have hu := (hz.reads_of_inOverlap ht).mp hread
  have hv := (hz.reads_of_inOverlap ht).mp hleast.1
  have := hfirst t ht
  simp only [InOverlap] at ht
  omega

theorem toInstant_of_secondPass {t u : Int} (ht : InOverlap off t r) (hread : u + off u = r) (hle : t ≤ u) :
    z.toInstant false r = .ok (u - (off (t - 1) - off t)) := by
  have hu := (hz.reads_of_inOverlap ht).mp hread
  rw [hz.toInstant_of_touched hr (Or.inr ht), Except.ok.injEq]
  simp only [InOverlap] at ht
  omega

end Offsets.Spaced

namespace Host
variable {h : Host} {hint : ZoneHint} {zone : Zone} {off : Int → Int}

/-- A date-time without an offset stands for the first instant that reads it, and a skipped one for an instant that reads
    later by the length of the gap. So what an instant reads stands for the instant itself, unless that is in the second
    pass of an overlap: then it stands for the instant that is earlier by the length of the overlap. -/
theorem toInstant_earliest (hzone : h.resolve hint = .ok zone) (hoff : zone.offsets.Spaced off) :
    (∀ s : Stamp, s.offset? = .ok none → WellInside s.reading → ∃ u, h.toInstant (.stamp s) hint = .ok u ∧
      ((∃ v, (Stamp.ofInstant v).readingIn zone = .ok s.reading) →
        IsLeast {v | (Stamp.ofInstant v).readingIn zone = .ok s.reading} u) ∧
      ((¬∃ v, (Stamp.ofInstant v).readingIn zone = .ok s.reading) → ∃ t, InGap off t s.reading ∧
        (Stamp.ofInstant u).readingIn zone = .ok (s.reading + (off t - off (t - 1))))) ∧
    ∀ (u r : Int) (fold : Bool), (Stamp.ofInstant u).readingIn zone = .ok r → WellInside r →
      ((∀ t, InOverlap off t r → u < t) → h.toInstant (.stamp ⟨r, none, fold⟩) hint = .ok u) ∧
      ∀ t, InOverlap off t r → t ≤ u →
        h.toInstant (.stamp ⟨r, none, fold⟩) hint = .ok (u - (off (t - 1) - off t)) := by
  constructor
  · intro s hnaive hin
    rw [toInstant_of_naive hnaive hzone]
    simp only [Stamp.readingIn_iff hoff hin]
    by_cases hread : ∃ v, v + off v = s.reading
    · obtain ⟨v, hv⟩ := hread
      obtain ⟨u, hu, hleast⟩ := hoff.toInstant_isLeast hin hv
      exact ⟨u, hu, fun _ => hleast, fun hno => absurd ⟨v, hv⟩ hno⟩
    · obtain ⟨t, ht⟩ := hoff.exists_inGap fun u hu => hread ⟨u, hu⟩
      obtain ⟨u, hu, hrange, hshifted⟩ := hoff.toInstant_of_inGap hin ht
      refine ⟨u, hu, fun h => absurd h hread, fun _ => ⟨t, ht, ?_⟩⟩
      rw [Stamp.readingIn_ofInstant hrange, hshifted]
  · intro u r fold hread hin
    have hread := (Stamp.readingIn_iff hoff hin).mp hread
    rw [toInstant_of_naive rfl hzone]
    exact ⟨hoff.toInstant_of_reads hin hread, fun t ht hle => hoff.toInstant_of_secondPass hin ht hread hle⟩

/-- Half past two on 25 October 2026 stands for the instant in the first pass, also if it was read in the second. -/
theorem toInstant_earliest_overlap :
    (∃ u, Host.toInstant default (.stamp ⟨63928492200000000, none, true⟩) (.zone summerZone) = .ok u ∧
      IsLeast {v | (Stamp.ofInstant v).readingIn summerZone = .ok 63928492200000000} u) ∧
    (Stamp.ofInstant 63928488600000000).readingIn summerZone = .ok 63928492200000000 ∧
    Host.toInstant default (.stamp ⟨63928492200000000, none, false⟩) (.zone summerZone) = .ok 63928485000000000 := by
  have hin : WellInside 63928492200000000 := ⟨by decide, by decide⟩
  have hoverlap := OffsetTable.summerTime_inOverlap
  have hread : (Stamp.ofInstant 63928488600000000).readingIn summerZone = .ok 63928492200000000 := by
    rw [Stamp.readingIn_iff summerZone_spaced hin, summerZone_spaced.reads_of_inOverlap hoverlap,
      OffsetTable.summerTime_setback.2]
    exact Or.inr (by decide)
  have hzone : Host.resolve default (.zone summerZone) = .ok summerZone := rfl
  obtain ⟨hnaive, hback⟩ := toInstant_earliest hzone summerZone_spaced
  obtain ⟨u, hu, hleast, -⟩ := hnaive ⟨63928492200000000, none, true⟩ rfl hin
  have hsecond := (hback _ _ false hread hin).2 _ hoverlap (by decide)
  rw [OffsetTable.summerTime_setback.1, OffsetTable.summerTime_setback.2] at hsecond
  exact ⟨⟨u, hu, hleast ⟨_, hread⟩⟩, hread, hsecond⟩

end Host
end JobScheduling
