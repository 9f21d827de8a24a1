import JobScheduling.Job.Batch
import JobScheduling.Proofs.Outcome

/-! What comes of a batch. Its work is captured once, before any item is looked at; each item that comes makes a
    definition, and where the source of the items breaks off so does the batch. -/

namespace JobScheduling

namespace Items

/-- The items that come of a collection, and the failure behind them if there is one. -/
def coming? : Items → Option (List Value × Option Fault)
  | none => Option.none
  | collection items => some (items, Option.none)
  | lazy items ending => some (items, ending)

/-- The failure with which a source of items breaks off, if it does. -/
def ending? (items : Items) : Option Fault := items.coming?.bind (·.2)

end Items

namespace Work

variable {w : Work} {items : Items}

theorem captureEach_of_none (hitems : items.coming? = none) :
    w.captureEach items false = .error (.problem (.input .noWorkItems)) := by
  cases items with
  | none => rfl
  | collection items => cases hitems
  | lazy items ending => cases hitems

theorem captureEach_of_error {coming : List Value × Option Fault} {f : Fault} (hitems : items.coming? = some coming)
    (htarget : w.toTarget = .error f) : w.captureEach items false = .error f := by
  cases items with
  | none => cases hitems
  | collection items => rw [captureEach, htarget, Outcome.error_bind]
  | lazy items ending => rw [captureEach, htarget, Outcome.error_bind]

/-- Each item becomes the last argument of a definition. -/
theorem captureEach_of_ok {given : List Value} {ending : Option Fault} {r : JobTarget × List Value}
    (hitems : items.coming? = some (given, ending)) (htarget : w.toTarget = .ok r) :
    ∃ batch, w.captureEach items false = .ok batch ∧
      batch.all = (given.map fun item => ⟨r.1, r.2 ++ [item]⟩, ending) := by
  cases items with
  | none => cases hitems
  | collection items =>
    cases hitems
    exact ⟨_, by rw [captureEach, htarget, Outcome.ok_bind]; rfl, rfl⟩
  | lazy items ending =>
    cases hitems
    refine ⟨.lazy (given.map fun item => ⟨r.1, r.2 ++ [item]⟩) ending, ?_, rfl⟩
    rw [captureEach, htarget, Outcome.ok_bind, Bool.and_false, Bool.false_and, if_neg Bool.false_ne_true]

/-- A batch breaks off as the source of its items does. -/
theorem ending_of_captureEach {batch : Batch} (hbatch : w.captureEach items false = .ok batch) :
    batch.all.2 = items.ending? := by
  cases hitems : items.coming? with
  | none =>
    rw [captureEach_of_none hitems] at hbatch
    cases hbatch
  | some coming =>
    cases htarget : w.toTarget with
    | error f =>
      rw [captureEach_of_error hitems htarget] at hbatch
      cases hbatch
    | ok r =>
      obtain ⟨_, hbatch', hall⟩ := captureEach_of_ok hitems htarget
      cases hbatch.symm.trans hbatch'
      rw [hall, Items.ending?, hitems]
      rfl

end Work
end JobScheduling
