import JobScheduling.Proofs.Job.Batch
import Mathlib.Data.List.Forall2

/-! Batches made on demand. Where items come one by one, the call only takes the work apart; an item is read when
    the next definition is asked for, and only at the end of the items is a batch refused that has none. What was
    asked for is then a beginning of the batch that is made at once, and a batch that is exhausted is all of it. -/

namespace JobScheduling

namespace Batch

/-- All of the definitions of a batch, if nothing ends it before. -/
def exhaust (b : Batch) : Outcome (List JobDefinition) :=
  match b.all with
  | (jobs, none) => .ok jobs
  | (_, some f) => .error f

end Batch

namespace Items

/-- A source of items as far as it was not read: the items still to come, and the failure with which it then
    breaks off, if it does. -/
structure Source where
  coming : List Value
  ending : Option Fault

namespace Source

/-- The next item, with the source that is left, or its end. -/
def next (source : Source) : Outcome (Option (Value × Source)) :=
  match source.coming, source.ending with
  | item :: coming, ending => .ok (some (item, ⟨coming, ending⟩))
  | [], some f => .error f
  | [], Option.none => .ok Option.none

end Source
end Items

/-! ### Making a batch -/

/-- A batch in the making: the work taken apart, the source of the items, and how many definitions were made. -/
structure Making where
  target : JobTarget
  bound : List Value
  requireNonEmpty : Bool
  source : Items.Source
  made : Nat

namespace Making

/-- The definition for an item, the item being the last argument. -/
def job (m : Making) (item : Value) : JobDefinition := ⟨m.target, m.bound ++ [item]⟩

/-- The next definition, with the batch as it is left, or the end: a batch that is to have definitions is refused
    where the source ends before one was made. -/
def next (m : Making) : Outcome (Option (JobDefinition × Making)) := do
  match ← m.source.next with
  | some (item, source) => .ok (some (m.job item, { m with source, made := m.made + 1 }))
  | none => if m.requireNonEmpty && m.made == 0 then .error (.problem .emptyWorkItems) else .ok none

/-- What comes of asking for the next definition `count` times, or until there is none: the definitions, the
    failure if one came instead, and the batch as it is left. -/
def demand : Nat → Making → List JobDefinition × Option Fault × Making
  | 0, m => ([], none, m)
  | count + 1, m =>
    match m.next with
    | .ok (some (job, m)) =>
      let r := m.demand count
      (job :: r.1, r.2)
    | .ok none => ([], none, m)
    | .error f => ([], some f, m)

/-- A batch as a whole. It is asked once more than items come, to see how it ends. -/
def whole (m : Making) : Batch :=
  let r := m.demand (m.source.coming.length + 1)
  .lazy r.1 r.2.1

/-- A batch after `count` more of its items were read. -/
def skip (m : Making) (count : Nat) : Making :=
  { m with
    source := ⟨m.source.coming.drop count, m.source.ending⟩
    made := m.made + min count m.source.coming.length }

/-- The failure behind the last definition, if there is one. -/
def ending (m : Making) : Option Fault :=
  if m.source.ending.isNone && m.requireNonEmpty && m.source.coming.isEmpty && m.made == 0 then
    some (.problem .emptyWorkItems)
  else m.source.ending

end Making

/-- The call that begins a batch. It takes the work apart and leaves the source as it is. -/
def Work.begin (w : Work) (source : Items.Source) (requireNonEmpty : Bool) : Outcome Making := do
  let r ← w.toTarget
  .ok ⟨r.1, r.2, requireNonEmpty, source, 0⟩

namespace Making

variable {m : Making} {item : Value} {coming : List Value}

/-! ### One step -/

theorem next_of_cons (hcoming : m.source.coming = item :: coming) : m.next = .ok (some (m.job item, m.skip 1)) := by
  obtain ⟨target, bound, requireNonEmpty, ⟨_, ending⟩, made⟩ := m
  cases hcoming
  simp [next, Items.Source.next, job, skip]

theorem skip_of_nil (hcoming : m.source.coming = []) (count : Nat) : m.skip count = m := by
  obtain ⟨target, bound, requireNonEmpty, ⟨_, ending⟩, made⟩ := m
  cases hcoming
  simp [skip]

theorem next_of_nil (hcoming : m.source.coming = []) :
    m.next = match m.ending with
      | some f => .error f
      | none => .ok none := by
  obtain ⟨target, bound, requireNonEmpty, ⟨_, ending⟩, made⟩ := m
  cases hcoming
  cases ending with
  | some f => simp [next, Items.Source.next, Making.ending]
  | none => cases hrefused : requireNonEmpty && made == 0 <;> simp [next, Items.Source.next, Making.ending, hrefused]

/-- The failure of a source comes before that of a batch without definitions. -/
theorem ending_of_breaksOff {f : Fault} (hending : m.source.ending = some f) : m.ending = some f := by
  simp [ending, hending]

/-- A batch of which a definition was made is not refused for having none. -/
theorem ending_skip_one (hcoming : m.source.coming = item :: coming) : (m.skip 1).ending = m.ending := by
  simp [ending, skip, hcoming]

theorem skip_skip (m : Making) (a b : Nat) : (m.skip a).skip b = m.skip (a + b) := by
  have hmade : min a m.source.coming.length + min b (m.source.coming.length - a) =
      min (a + b) m.source.coming.length := by omega
  simp [skip, Nat.add_assoc, hmade]

/-! ### A run of steps -/

/-- Asking `count` times reads that many items and makes a definition of each; only who asks for more than come
    meets the failure behind them. -/
theorem demand_eq (m : Making) (count : Nat) :
    m.demand count = ((m.source.coming.take count).map m.job,
      if count ≤ m.source.coming.length then none else m.ending, m.skip count) := by
  -- The batch as it is left is another one at each step, with the same failure behind it.
  induction count generalizing m with
  | zero => simp [demand, skip]
  | succ count ih =>
    cases hcoming : m.source.coming with
    | nil =>
      rw [demand, next_of_nil hcoming, skip_of_nil hcoming]
      cases m.ending <;> simp
    | cons item coming =>
      have hleft : (m.skip 1).source.coming = coming := by simp [skip, hcoming]
      rw [demand, next_of_cons hcoming]
      simp only [ih, hleft, ending_skip_one hcoming, skip_skip, Nat.add_comm 1 count, List.take_succ_cons,
        List.map_cons, List.length_cons, Nat.add_le_add_iff_right]
      rfl

/-- A batch as a whole has a definition for each item that comes. -/
theorem whole_eq (m : Making) : m.whole = .lazy (m.source.coming.map m.job) m.ending := by
  have hmore : ¬m.source.coming.length + 1 ≤ m.source.coming.length := Nat.not_succ_le_self _
  rw [whole, demand_eq, if_neg hmore, List.take_of_length_le (Nat.le_succ _)]

/-- What was asked for is a beginning of the whole, with its failure if that was met. -/
theorem demand_eq_take_whole (m : Making) (count : Nat) :
    ((m.demand count).1, (m.demand count).2.1) = m.whole.take count := by
  simp [demand_eq, whole_eq, Batch.take, Batch.all, List.map_take]

end Making

namespace Work

variable {w : Work} {r : JobTarget × List Value} {requireNonEmpty : Bool}

/-- A batch whose items come one by one is the whole of what is made on demand. -/
theorem captureEach_lazy (w : Work) (source : Items.Source) (requireNonEmpty : Bool) :
    w.captureEach (.lazy source.coming source.ending) requireNonEmpty =
      (w.begin source requireNonEmpty).map Making.whole := by
  rw [captureEach, begin]
  cases w.toTarget with
  | error f => rfl
  | ok r => simp [Except.map, Making.whole_eq, Making.ending, Making.job]

theorem begin_of_ok (htarget : w.toTarget = .ok r) (source : Items.Source) :
    w.begin source requireNonEmpty = .ok ⟨r.1, r.2, requireNonEmpty, source, 0⟩ := by
  rw [begin, htarget, Outcome.ok_bind]

/-- The definition for an item in a batch is the one that captures the work with it. -/
theorem capture_item (htarget : w.toTarget = .ok r) (items : List Value) :
    List.Forall₂ (fun item job => w.capture [item] = .ok job) items
      (items.map fun item => ⟨r.1, r.2 ++ [item]⟩) := by
  rw [List.forall₂_map_right_iff, List.forall₂_same]
  intro item _
  rw [capture, htarget, Outcome.ok_bind]

theorem captureEach_collection (htarget : w.toTarget = .ok r) (items : List Value) :
    w.captureEach (.collection items) requireNonEmpty =
      if requireNonEmpty ∧ items = [] then .error (.problem .emptyWorkItems)
      else .ok (.eager (items.map fun item => ⟨r.1, r.2 ++ [item]⟩)) := by
  simp [captureEach, htarget]

/-- Exhausted, a batch whose items come one by one is the one of a collection of them. -/
theorem exhaust_captureEach_lazy (w : Work) (items : List Value) (requireNonEmpty : Bool) :
    (w.captureEach (.lazy items none) requireNonEmpty >>= Batch.exhaust) =
      (w.captureEach (.collection items) requireNonEmpty >>= Batch.exhaust) := by
  rw [captureEach, captureEach]
  cases w.toTarget with
  | error f => rfl
  | ok r =>
    cases hrefused : requireNonEmpty && items.isEmpty <;>
      simp [hrefused, Batch.exhaust, Batch.all]

/-- A batch is the same whether its items are there at once or come one by one, asked for until it ends. A work
    that cannot be captured is refused by the call alike, whatever the source would do when it is read. Otherwise
    each item makes the definition that captures the work with it, in the order of the items; a batch without any
    is refused where it must have some. Where the source breaks off behind `k` items, asking for definitions
    gives the first `k` of those and only then the failure, and no more items are read than were asked for. -/
theorem captureEach_onDemand (w : Work) (items : List Value) (requireNonEmpty : Bool) :
    (∀ source : Items.Source, w.captureEach (.lazy source.coming source.ending) requireNonEmpty =
      (w.begin source requireNonEmpty).map Making.whole) ∧
    (w.captureEach (.lazy items none) requireNonEmpty >>= Batch.exhaust) =
      (w.captureEach (.collection items) requireNonEmpty >>= Batch.exhaust) ∧
    (∀ f, w.toTarget = .error f →
      w.captureEach (.collection items) requireNonEmpty = .error f ∧
      ∀ source, w.begin source requireNonEmpty = .error f) ∧
    (∀ r, w.toTarget = .ok r → ∃ jobs,
      List.Forall₂ (fun item job => w.capture [item] = .ok job) items jobs ∧
      w.captureEach (.collection items) requireNonEmpty =
        (if requireNonEmpty ∧ items = [] then .error (.problem .emptyWorkItems) else .ok (.eager jobs)) ∧
      ∀ k ≤ items.length, ∀ f, ∃ m, w.begin ⟨items.take k, some f⟩ requireNonEmpty = .ok m ∧
        m.source = ⟨items.take k, some f⟩ ∧
        ∀ count, m.demand count =
          (jobs.take (min count k), if count ≤ k then none else some f, m.skip count)) := by
  refine ⟨fun source => captureEach_lazy w source requireNonEmpty, exhaust_captureEach_lazy w items requireNonEmpty,
    fun f htarget => ⟨?_, fun source => ?_⟩, fun r htarget => ?_⟩
  · rw [captureEach, htarget, Outcome.error_bind]
  · rw [begin, htarget, Outcome.error_bind]
  · refine ⟨_, capture_item htarget items, captureEach_collection htarget items, fun k hk f => ?_⟩
    refine ⟨_, begin_of_ok htarget _, rfl, fun count => ?_⟩
    rw [Making.demand_eq, Making.ending_of_breaksOff rfl]
    simp only [List.length_take, Nat.min_eq_left hk, List.take_take, List.map_take]
    rfl

/-- A source that breaks off behind its first item gives that item's definition, then its failure; and a work that
    nothing can call is refused before the failure of a source that gives no item. -/
theorem captureEach_onDemand_breaksOff :
    (∃ m, Work.begin (.target (.static "mail:send")) ⟨[.int 5], some (.jobFailed "source failed")⟩ true = .ok m ∧
      ∃ left, m.demand 2 = ([⟨.static "mail:send", [.int 5]⟩], some (.jobFailed "source failed"), left)) ∧
    ∃ f, Work.begin (.entity (.data .null)) ⟨[], some (.jobFailed "source failed")⟩ true = .error f ∧
      f ≠ .jobFailed "source failed" := by
  constructor
  · obtain ⟨jobs, hjobs, -, hbroken⟩ :=
      (captureEach_onDemand (.target (.static "mail:send")) [.int 5, .int 6] true).2.2.2 _ rfl
    obtain ⟨m, hm, -, hdemand⟩ := hbroken 1 (by decide) (.jobFailed "source failed")
    rcases hjobs with _ | ⟨hfirst, -⟩
    cases hfirst
    exact ⟨m, hm, _, hdemand 2⟩
  · exact ⟨_, ((captureEach_onDemand (.entity (.data .null)) [] true).2.2.1 _ rfl).2 _, nofun⟩

end Work
end JobScheduling
