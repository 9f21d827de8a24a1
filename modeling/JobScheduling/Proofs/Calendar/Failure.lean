import JobScheduling.Calendar.Span
import JobScheduling.Proofs.Outcome
import JobScheduling.Zone.Offsets

/-! How reckoning with instants and offsets can fail: a point beyond the calendar, or an offset that is none, is never one
    of the errors of this library. -/

namespace JobScheduling

open Outcome

namespace Calendar

theorem checked_failsAmong (u : Int) : (checked u).FailsAmong [] := by
  unfold checked
  split <;> simp [Fault.Among]

theorem ofEpoch_failsAmong (n micros : Int) : (ofEpoch n micros).FailsAmong [] := by
  unfold ofEpoch
  dsimp only
  split
  · simp
  · split <;> simp [Fault.Among]

theorem ofEpochSeconds_failsAmong (n : Int) : (ofEpochSeconds n).FailsAmong [] := by
  unfold ofEpochSeconds
  split
  · exact ofEpoch_failsAmong n 0
  · simp [Fault.Among]

theorem ofEpochFloat_failsAmong (x : Binary64) : (ofEpochFloat x).FailsAmong [] := by
  unfold ofEpochFloat
  split
  · split
    · exact ofEpoch_failsAmong _ _
    · simp [Fault.Among]
  · simp [Fault.Among]
  · simp [Fault.Among]

end Calendar

namespace Offsets

open Calendar

variable (z : Offsets)

theorem checkedAt_failsAmong (fold : Bool) (r : Int) : (z.checkedAt fold r).FailsAmong [] := by
  unfold checkedAt
  split
  · split <;> simp [Fault.Among]
  · simp

theorem systemInstant_failsAmong (r : Int) : (systemInstant r).FailsAmong [] := by
  unfold systemInstant
  split <;> simp [Fault.Among]

theorem toInstant_failsAmong (fold : Bool) (r : Int) : (z.toInstant fold r).FailsAmong [] := by
  refine FailsAmong.bind (z.checkedAt_failsAmong fold r) fun offset => ?_
  cases offset with
  | some offset => exact checked_failsAmong _
  | none => exact systemInstant_failsAmong r

theorem toReading_failsAmong (u : Int) : (z.toReading u).FailsAmong [] := by
  unfold toReading
  split
  · exact FailsAmong.bind (checked_failsAmong _) fun _ => failsAmong_ok _
  · simp [Fault.Among]

theorem readingOf_failsAmong (u : Int) : (z.readingOf u).FailsAmong [] :=
  FailsAmong.bind (z.toReading_failsAmong u) fun _ => failsAmong_ok _

theorem instantsOf_failsAmong (r : Int) : (z.instantsOf r).FailsAmong [] :=
  FailsAmong.bind (z.toInstant_failsAmong false r) fun a => FailsAmong.bind (z.readingOf_failsAmong a) fun _ =>
    FailsAmong.bind (z.toInstant_failsAmong true r) fun b => FailsAmong.bind (z.readingOf_failsAmong b) fun _ =>
      failsAmong_ok _

theorem ofEpochSecond_failsAmong (n : Int) : (ofEpochSecond n).FailsAmong [] := by
  unfold ofEpochSecond
  dsimp only
  split <;> simp [Fault.Among]

theorem offsetAtSecond_failsAmong (n : Int) : (z.offsetAtSecond n).FailsAmong [] :=
  FailsAmong.bind (ofEpochSecond_failsAmong n) fun u => FailsAmong.bind (z.toReading_failsAmong u) fun r =>
    z.checkedAt_failsAmong r.2 r.1

theorem bisect_failsAmong (offset : Option Int) (low high : Int) : (z.bisect offset low high).FailsAmong [] := by
  induction low, high using bisect.induct with
  | case1 low high h middle ihLow ihHigh =>
    rw [bisect, dif_pos h]
    refine FailsAmong.bind (z.offsetAtSecond_failsAmong _) fun found => ?_
    split
    · exact ihLow
    · exact ihHigh
  | case2 low high h =>
    rw [bisect, dif_neg h]
    exact failsAmong_ok _

theorem afterGap_failsAmong (r : Int) : (z.afterGap r).FailsAmong [] :=
  FailsAmong.bind (z.toInstant_failsAmong false r) fun _ => FailsAmong.bind (z.toInstant_failsAmong true r) fun _ =>
    FailsAmong.bind (z.offsetAtSecond_failsAmong _) fun _ => FailsAmong.bind (z.bisect_failsAmong _ _ _) fun _ =>
      ofEpochSecond_failsAmong _

end Offsets
end JobScheduling
