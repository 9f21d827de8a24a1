import JobScheduling.Job.Batch
import JobScheduling.Proofs.Value.Access

/-! How capturing work can fail. What cannot be found again by its name is refused as a target, and with it everything that
    is captured from it; to show an entity for a message, or to describe a captured call, may fail, but with no error of
    this library. -/

namespace JobScheduling

open Outcome

/-! ### Showing -/

namespace Entity

mutual

theorem shown_failsAmong : (e : Entity) → e.shown.FailsAmong []
  | data v => by
    unfold shown
    exact v.shown_failsAmong []
  | type _ | routine _ | function .. | descriptor .. | bound .. | module .. | code _ | sole _ => by
    unfold shown
    exact failsAmong_ok _
  | object t _ => by
    unfold shown
    split
    · exact failsAmong_error.mpr trivial
    · exact failsAmong_ok _
  | group items => by
    unfold shown
    refine FailsAmong.bind (shownAll_failsAmong items) fun ss => ?_
    split <;> exact failsAmong_ok _
  | method self _ => by
    unfold shown
    exact FailsAmong.bind (shown_failsAmong self) fun _ => failsAmong_ok _
  | applied e _ _ => by
    unfold shown
    refine FailsAmong.bind (FailsAmong.mapM fun v => v.shown_failsAmong []) fun placed =>
      FailsAmong.bind (FailsAmong.mapM fun n => ?_) fun byName =>
      FailsAmong.bind (shown_failsAmong e) fun _ => failsAmong_ok _
    exact FailsAmong.bind (n.2.shown_failsAmong []) fun _ => failsAmong_ok _

theorem shownAll_failsAmong : (es : List Entity) → (shownAll es).FailsAmong []
  | [] => failsAmong_ok []
  | e :: es => by
    unfold shownAll
    exact FailsAmong.bind (shown_failsAmong e) fun _ => FailsAmong.bind (shownAll_failsAmong es) fun _ => failsAmong_ok _

end

end Entity

/-! ### Targets -/

namespace JobTarget

theorem pathOf_failsAmong (v : Value) : (pathOf v).FailsAmong [.jobTarget] := by
  unfold pathOf
  split
  · split
    · exact failsAmong_ok _
    · simp [Fault.Among, Problem.kind]
  · exact FailsAmong.bind (v.shown_failsAmong _) fun _ => by simp [Fault.Among, Problem.kind]

theorem methodOf_failsAmong (v : Value) : (methodOf v).FailsAmong [.jobTarget] := by
  unfold methodOf
  split
  · exact FailsAmong.bind (v.shown_failsAmong _) fun _ => by simp [Fault.Among, Problem.kind]
  · split
    · split
      · exact failsAmong_ok _
      · simp [Fault.Among, Problem.kind]
    · exact failsAmong_error.mpr trivial

theorem ofFunction_failsAmong (path : Value) : (ofFunction path).FailsAmong [.jobTarget] :=
  FailsAmong.bind (pathOf_failsAmong path) fun _ => failsAmong_ok _

theorem ofMethod_failsAmong (path method : Value) : (ofMethod path method).FailsAmong [.jobTarget] :=
  FailsAmong.bind (pathOf_failsAmong path) fun _ => FailsAmong.bind (methodOf_failsAmong method) fun _ => failsAmong_ok _

end JobTarget

namespace Entity

theorem importablePath_failsAmong (e : Entity) : e.importablePath.FailsAmong [.jobTarget] := by
  unfold importablePath
  extract_lets refused
  have hrefused : refused.FailsAmong [.jobTarget] :=
    FailsAmong.bind (e.shown_failsAmong.mono (List.nil_subset _)) fun _ => by simp [Fault.Among, Problem.kind]
  split
  · split
    · exact FailsAmong.bind (Value.printed_failsAmong _ _) fun _ => failsAmong_ok _
    · exact hrefused
  · exact hrefused

end Entity

theorem ObjectType.serviceMethod_failsAmong (t : ObjectType) (method : Value) :
    (t.serviceMethod method).FailsAmong [.jobTarget] := by
  unfold serviceMethod
  split
  · split
    · exact FailsAmong.bind (Entity.type t).importablePath_failsAmong fun _ => JobTarget.ofMethod_failsAmong _ _
    · simp [Fault.Among, Problem.kind]
  · exact failsAmong_error.mpr trivial

/-- An entity that no target stands for is refused as one, also if arguments were applied to it. -/
theorem Entity.toTarget_failsAmong (e : Entity) : e.toTarget.FailsAmong [.jobTarget] := by
  rw [toTarget.eq_def]
  split
  · rename_i e args named
    split
    · exact FailsAmong.bind e.toTarget_failsAmong fun _ => failsAmong_ok _
    · simp [Fault.Among, Problem.kind]
  · rename_i t r
    exact FailsAmong.bind (type t).importablePath_failsAmong fun _ =>
      FailsAmong.bind (JobTarget.ofFunction_failsAmong _) fun _ => failsAmong_ok _
  · rename_i self r _
    exact FailsAmong.bind (self.typeOf.serviceMethod_failsAmong _) fun _ => failsAmong_ok _
  · split
    · exact FailsAmong.bind e.importablePath_failsAmong fun _ =>
        FailsAmong.bind (JobTarget.ofFunction_failsAmong _) fun _ => failsAmong_ok _
    · split
      · exact FailsAmong.bind (e.typeOf.serviceMethod_failsAmong _) fun _ => failsAmong_ok _
      · exact FailsAmong.bind (e.shown_failsAmong.mono (List.nil_subset _)) fun _ => by simp [Fault.Among, Problem.kind]

/-! ### Captures -/

namespace Work

theorem toTarget_failsAmong (w : Work) : w.toTarget.FailsAmong [.jobTarget] := by
  cases w with
  | target t => exact failsAmong_ok _
  | entity e => exact e.toTarget_failsAmong

theorem capture_failsAmong (w : Work) (args : List Value) : (w.capture args).FailsAmong [.jobTarget] :=
  FailsAmong.bind w.toTarget_failsAmong fun _ => failsAmong_ok _

/-- A batch is refused for its items or for its work. -/
theorem captureEach_failsAmong (items : Items) (w : Work) (requireNonEmpty : Bool) :
    (w.captureEach items requireNonEmpty).FailsAmong [.validation, .jobTarget, .emptyWorkItems] := by
  have htarget : w.toTarget.FailsAmong [.validation, .jobTarget, .emptyWorkItems] := w.toTarget_failsAmong.mono (by simp)
  cases items with
  | none => simp [captureEach, Fault.Among, Problem.kind]
  | collection items =>
    refine FailsAmong.bind htarget fun r => ?_
    split
    · simp [Fault.Among, Problem.kind]
    · exact failsAmong_ok _
  | lazy items ending => exact FailsAmong.bind htarget fun _ => failsAmong_ok _

end Work

/-! ### Descriptions -/

namespace JobDefinition

/-- A call can be described if its arguments can be written. -/
theorem describe_eq (d : JobDefinition) : d.describe =
    if Value.areWritable d.args then .ok (d.target.describe ++ "(" ++ ", ".intercalate (d.args.map Value.described) ++ ")")
    else .error Value.overlong := by
  rw [describe, Value.mapM_shown]
  split <;> rfl

theorem describe_failsAmong (d : JobDefinition) (kinds : List ErrorKind) : d.describe.FailsAmong kinds :=
  FailsAmong.bind (FailsAmong.mapM fun v => v.shown_failsAmong kinds) fun _ => failsAmong_ok _

end JobDefinition
end JobScheduling
