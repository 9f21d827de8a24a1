import JobScheduling.Job.Definition
import JobScheduling.Proofs.Zone.Setback
import JobScheduling.Proofs.Zone.Table

/-! When jobs are due. Two date-times that share their zone are compared as their wall clock shows them, and only then
    does the answer depend on more than their instants: it is wrong if the offsets of the two differ by more than the
    clock shows between them. In a zone whose changes are spaced that takes two passes of one overlap, or a reading
    that the clock skips. -/

namespace JobScheduling

open Calendar Offsets

/-! ### Readings that are not skipped -/

namespace Offsets.Spaced
variable {z : Offsets} {off : Int → Int} (hz : z.Spaced off) {r q o o' : Int} {fold fold' : Bool}
include hz

theorem off_of_not_inGap (hno : ∀ t, ¬InGap off t r) (ho : z.checkedAt fold r = .ok (some o)) : off (r - o) = o := by
  rcases hz.cases_reading r with ⟨t, ht⟩ | ⟨t, ht⟩ | ⟨huntouched, u, hu, -⟩
  · exact absurd ht (hno t)
  · rw [hz.checkedAt_change (Or.inr ht)] at ho
    have hreads := (hz.reads_of_inOverlap (u := r - o) ht).mpr (by
      cases fold <;> cases ho
      · exact Or.inl rfl
      · exact Or.inr rfl)
    omega
  · rw [hz.checkedAt_of_reads hu fun t => not_or.mpr (huntouched t)] at ho
    cases ho
    rw [show r - off u = u by omega]

/-- If a later reading has the earlier instant, one overlap holds both readings, the earlier one in its second pass. -/
theorem passes_of_reversed (hr : ∀ t, ¬InGap off t r) (hq : ∀ t, ¬InGap off t q)
    (ho : z.checkedAt fold r = .ok (some o)) (ho' : z.checkedAt fold' q = .ok (some o')) (hle : r ≤ q)
    (hlt : q - o' < r - o) : ∃ t, InOverlap off t r ∧ InOverlap off t q ∧ fold = true ∧ fold' = false := by
  have hor := hz.off_of_not_inGap hr ho
  have hoq := hz.off_of_not_inGap hq ho'
  have hbr := hz.bounded (r - o)
  have hbq := hz.bounded (q - o')
  obtain ⟨t, h1, h2, hchange, hbefore, hafter⟩ := hz.exists_change hlt (by omega) (by omega)
  have htr : InOverlap off t r := by
    simp only [InOverlap]
    omega
  have htq : InOverlap off t q := by
    simp only [InOverlap]
    omega
  rw [hz.checkedAt_change (Or.inr htr), Except.ok.injEq, Option.some.injEq] at ho
  rw [hz.checkedAt_change (Or.inr htq), Except.ok.injEq, Option.some.injEq] at ho'
  refine ⟨t, htr, htq, ?_, ?_⟩
  · by_contra hfold
    rw [if_neg hfold] at ho
    exact hchange (by omega)
  · by_contra hfold
    rw [if_pos (Bool.eq_true_of_not_eq_false hfold)] at ho'
    exact hchange (by omega)

end Offsets.Spaced

namespace Stamp

/-! ### Order -/

/-- Two date-times are compared as the wall clock of their zone shows them. -/
def SharesClock (s t : Stamp) : Prop := ∃ a b, s.zone = some a ∧ t.zone = some b ∧ a.shares b = true

/-- The wall clock that two date-times share shows them in another order than that of their instants: their offsets
    differ by more than the clock shows between them. -/
def Misordered (s t : Stamp) : Prop :=
  s.SharesClock t ∧ ∃ o o', s.offset? = .ok (some o) ∧ t.offset? = .ok (some o') ∧
    (s.reading ≤ t.reading ∧ t.reading - s.reading < o' - o ∨ t.reading < s.reading ∧ s.reading - t.reading ≤ o - o')

theorem exists_zone_of_offset? {s : Stamp} {o : Int} (hs : s.offset? = .ok (some o)) :
    ∃ z, s.zone = some z ∧ z.offsets.checkedAt s.fold s.reading = .ok (some o) := by
  unfold offset? at hs
  split at hs
  · exact ⟨_, by assumption, hs⟩
  · cases hs

theorem notAfter_of_shares {s t : Stamp} (h : s.SharesClock t) : s.notAfter t = .ok (decide (s.reading ≤ t.reading)) := by
  obtain ⟨a, b, ha, hb, hab⟩ := h
  simp only [notAfter, ha, hb, hab, if_true]

section Order
variable {s t : Stamp} {o o' : Int} (hs : s.offset? = .ok (some o)) (ht : t.offset? = .ok (some o'))
include hs ht

theorem notAfter_of_not_shares (h : ¬s.SharesClock t) :
    s.notAfter t = .ok (decide (s.reading - o ≤ t.reading - o')) := by
  obtain ⟨a, ha, -⟩ := exists_zone_of_offset? hs
  obtain ⟨b, hb, -⟩ := exists_zone_of_offset? ht
  have hab : ¬a.shares b = true := fun hab => h ⟨a, b, ha, hb, hab⟩
  simp only [notAfter, ha, hb, hab, hs, ht, Outcome.ok_bind]
  rfl

theorem misordered_iff : s.Misordered t ↔
    s.SharesClock t ∧ (s.reading ≤ t.reading ↔ ¬s.reading - o ≤ t.reading - o') := by
  refine and_congr_right fun _ => ?_
  constructor
  · rintro ⟨o₁, o₂, h₁, h₂, h⟩
    cases hs.symm.trans h₁
    cases ht.symm.trans h₂
    omega
  · intro h
    exact ⟨o, o', hs, ht, by omega⟩

/-- The comparison is that of the instants, unless the wall clock shows the two in another order. -/
theorem notAfter_iff_instants :
    s.notAfter t = .ok (decide (s.reading - o ≤ t.reading - o')) ↔ ¬s.Misordered t := by
  rw [misordered_iff hs ht]
  by_cases h : s.SharesClock t
  · rw [notAfter_of_shares h, Except.ok.injEq, decide_eq_decide, and_iff_right h]
    tauto
  · exact iff_of_true (notAfter_of_not_shares hs ht h) fun hmis => h hmis.1

end Order

/-- In a zone whose changes are spaced, date-times that the wall clock really shows are misordered exactly in different
    passes of one overlap, the second pass showing the earlier reading or both the same. -/
theorem misordered_iff_passes {s t : Stamp} {zone : Zone} {off : Int → Int} (hs : s.zone = some zone)
    (ht : t.zone = some zone) (hoff : zone.offsets.Spaced off) (hsgap : ∀ c, ¬InGap off c s.reading)
    (htgap : ∀ c, ¬InGap off c t.reading) :
    s.Misordered t ↔ s.SharesClock t ∧ ∃ c, InOverlap off c s.reading ∧ InOverlap off c t.reading ∧
      (s.fold = true ∧ t.fold = false ∧ s.reading ≤ t.reading ∨
        s.fold = false ∧ t.fold = true ∧ t.reading < s.reading) := by
  obtain ⟨o, hbound, ho⟩ := hoff.exists_checkedAt s.fold s.reading
  obtain ⟨o', hbound', ho'⟩ := hoff.exists_checkedAt t.fold t.reading
  have hso : s.offset? = .ok (some o) := by simp only [offset?, hs, ho]
  have hto : t.offset? = .ok (some o') := by simp only [offset?, ht, ho']
  have hus := hoff.off_of_not_inGap hsgap ho
  have hut := hoff.off_of_not_inGap htgap ho'
  rw [misordered_iff hso hto]
  refine and_congr_right fun _ => ?_
  constructor
  · intro h
    rcases le_or_gt s.reading t.reading with hle | hlt
    · obtain ⟨c, hsc, htc, hfold, hfold'⟩ := hoff.passes_of_reversed hsgap htgap ho ho' hle (by omega)
      exact ⟨c, hsc, htc, Or.inl ⟨hfold, hfold', hle⟩⟩
    · have hne : s.reading - o ≠ t.reading - o' := fun heq => by
        rw [heq] at hus
        omega
      obtain ⟨c, htc, hsc, hfold', hfold⟩ := hoff.passes_of_reversed htgap hsgap ho' ho hlt.le (by omega)
      exact ⟨c, hsc, htc, Or.inr ⟨hfold, hfold', hlt⟩⟩
  · rintro ⟨c, hsc, htc, h⟩
    rw [hoff.checkedAt_change (Or.inr hsc)] at ho
    rw [hoff.checkedAt_change (Or.inr htc)] at ho'
    simp only [InOverlap] at hsc htc
    rcases h with ⟨hf, hf', hle⟩ | ⟨hf, hf', hlt⟩
    · rw [hf] at ho
      rw [hf'] at ho'
      cases ho
      cases ho'
      simp only [if_true, Bool.false_eq_true, if_false] at *
      omega
    · rw [hf] at ho
      rw [hf'] at ho'
      cases ho
      cases ho'
      simp only [if_true, Bool.false_eq_true, if_false] at *
      omega

end Stamp

/-! ### Jobs -/

namespace ScheduledJob

/-- A job is due exactly when its instant is not later than the present, unless the wall clock that the two date-times
    share shows them in another order than that of their instants; where the changes of their zone are spaced and the
    clock skips neither, that is in different passes of one overlap. -/
theorem isDue_iff_instants {j : ScheduledJob} {now : Stamp} {o o' : Int} (hrun : j.runAt.offset? = .ok (some o))
    (hnow : now.offset? = .ok (some o')) :
    (j.isDue (.stamp now) = .ok (decide (j.runAt.reading - o ≤ now.reading - o')) ↔ ¬j.runAt.Misordered now) ∧
      ∀ (zone : Zone) (off : Int → Int), j.runAt.zone = some zone → now.zone = some zone → zone.offsets.Spaced off →
        (∀ c, ¬InGap off c j.runAt.reading) → (∀ c, ¬InGap off c now.reading) →
        (j.runAt.Misordered now ↔ j.runAt.SharesClock now ∧
          ∃ c, InOverlap off c j.runAt.reading ∧ InOverlap off c now.reading ∧
            (j.runAt.fold = true ∧ now.fold = false ∧ j.runAt.reading ≤ now.reading ∨
              j.runAt.fold = false ∧ now.fold = true ∧ now.reading < j.runAt.reading)) :=
  ⟨Stamp.notAfter_iff_instants hrun hnow, fun _ _ => Stamp.misordered_iff_passes⟩

/-- Half past two in the night of 25 October 2026, in its first or its second pass. -/
def halfPastTwo (second : Bool) : Stamp := ⟨63928492200000000, some summerZone, second⟩

/-- In the first pass, a job for the second pass an hour later is already due. -/
theorem isDue_iff_instants_halfPastTwo :
    (halfPastTwo true).offset? = .ok (some 3600000000) ∧ (halfPastTwo false).offset? = .ok (some 7200000000) ∧
      ScheduledJob.isDue ⟨default, halfPastTwo true⟩ (.stamp (halfPastTwo false)) ≠
        .ok (decide ((63928492200000000 : Int) - 3600000000 ≤ 63928492200000000 - 7200000000)) := by
  have hrun : (halfPastTwo true).offset? = .ok (some 3600000000) := by rfl
  have hnow : (halfPastTwo false).offset? = .ok (some 7200000000) := by cbv
  have hmis : (halfPastTwo true).Misordered (halfPastTwo false) :=
    ⟨⟨summerZone, summerZone, rfl, rfl, by decide⟩, _, _, hrun, hnow, Or.inl ⟨by decide, by decide⟩⟩
  refine ⟨hrun, hnow, fun heq => ?_⟩
  exact (isDue_iff_instants (j := ⟨default, halfPastTwo true⟩) hrun hnow).1.mp heq hmis

end ScheduledJob
end JobScheduling
