import Mathlib
import JobScheduling.Proofs.Scheduler.Failure
import JobScheduling.Proofs.Scheduler.Stored
import JobScheduling.Proofs.Settings.Checked
import JobScheduling.Scheduler.Facade

/-! The scheduler that is bound, over any calls on a facade. What has been bound by one call stays bound until it is
    released, and every operation is one on that scheduler; as long as none is bound every operation is refused. To
    configure a scheduler binds it as the first thing that can be seen, and nothing that comes after can fail. -/

namespace JobScheduling
namespace Facade

open Activity

/-! ### Calls -/

/-- An operation on the bound scheduler. -/
inductive Operation where
  | once (c : JobScheduler.OnceCall)
  | scheduleRecurringly (h : Host) (now : Int) (w : Work) (cron : Value) (args : List Value) (id : Value) (zone : ZoneHint)
  | deleteRecurringly (id : Value)

namespace Operation

/-- What an operation does to a scheduler; the identifiers that it answers with. -/
def act : Operation → Activity JobScheduler (List String)
  | once c => c.act
  | scheduleRecurringly h now w cron args id zone => do
    return [← JobScheduler.scheduleRecurringly h now w cron args id zone]
  | deleteRecurringly id => do
    JobScheduler.deleteRecurringly id
    return []

/-- The failure with which the items of an operation break off, if they do. -/
def ending? : Operation → Option Fault
  | once (.enqueueEach _ items _) => items.ending?
  | _ => none

/-- An operation fails with an error of one of a few kinds, or as its items or the storages of the scheduler do. -/
theorem act_keeps {allowed : Fault → Prop} (hallowed : ∀ f : Fault, f.Among callKinds → allowed f) {o : Operation}
    (ho : ∀ f, o.ending? = some f → allowed f) : Keeps (JobScheduler.RefusesWith allowed) allowed o.act := by
  cases o with
  | once c =>
    cases c with
    | enqueue now w args => exact Keeps.bind (JobScheduler.enqueue_keeps hallowed now w args) fun _ => keeps_pure _
    | enqueueEach now items w => exact JobScheduler.enqueueEach_keeps hallowed now w ho
    | schedule h now w time args zone =>
      exact Keeps.bind (JobScheduler.schedule_keeps hallowed h now w time args zone) fun _ => keeps_pure _
  | scheduleRecurringly h now w cron args id zone =>
    exact Keeps.bind (JobScheduler.scheduleRecurringly_keeps hallowed h now w cron args id zone) fun _ => keeps_pure _
  | deleteRecurringly id => exact Keeps.bind (JobScheduler.deleteRecurringly_keeps hallowed id) fun _ => keeps_pure _

end Operation

/-- A call on a facade. -/
inductive Call where
  | bind (n : Nat)
  | unbind
  | configure (h : Host) (e : Environment) (storage : Option JobStorage) (settings : Option SchedulerSettings)
      (setLogging : Bool)
  | current
  | operation (o : Operation)

/-- What a call answers with. -/
inductive Answer where
  | done
  | scheduler (n : Nat)
  | released (n : Option Nat)
  | ids (ids : List String)

namespace Call

/-- What a call does. -/
def act : Call → Activity Facade Answer
  | bind n => do
    Facade.bind n
    return .done
  | unbind => do return .released (← Facade.unbind)
  | configure h e storage settings setLogging => do
    return .scheduler (← Facade.configure h e storage settings setLogging)
  | current => do return .scheduler (← Facade.current)
  | operation o => do return .ids (← operate o.act)

/-- A call can be made: a scheduler to bind is there, settings that are given were made on some machine, and the zone
    that the system is set to has an identifier. -/
def Fits (f : Facade) : Call → Prop
  | bind n => n < f.schedulers.length
  | configure h _ _ settings _ => (∃ id, h.zoneId h.systemZone = .ok id) ∧
      ∀ s, settings = some s → ∃ g given, SchedulerSettings.make g given = .ok s
  | _ => True

end Call

/-! ### What a call does -/

section Perform
variable {p : Progress Facade}

theorem perform_bindTo (n : Nat) : (bind n).perform p =
    if p.state.bound = none ∨ p.state.bound = some n then (.ok (), { p with state := { p.state with bound := some n } })
    else (.error (.problem .alreadyInitialized), p) := by
  simp only [bind, perform_bind, perform_state]
  cases hbound : p.state.bound with
  | none => rfl
  | some m =>
    by_cases hm : m = n
    · subst hm
      simp
    · simp [hm]

theorem perform_current : current.perform p = (match p.state.bound with
    | some n => .ok n
    | none => .error (.problem .notInitialized), p) := by
  simp only [current, perform_bind, perform_state]
  cases p.state.bound <;> rfl

theorem perform_operate_of_none {α : Type} (a : Activity JobScheduler α) (hbound : p.state.bound = none) :
    (operate a).perform p = (.error (.problem .notInitialized), p) := by
  simp only [operate, perform_bind, perform_current, hbound]

theorem perform_operate_of_some {α : Type} (a : Activity JobScheduler α) {n : Nat} {s : JobScheduler}
    (hbound : p.state.bound = some n) (hs : p.state.schedulers[n]? = some s) : (operate a).perform p =
      let after := a.perform ⟨s, p.issued, p.events⟩
      (after.1, ⟨{ p.state with schedulers := p.state.schedulers.set n after.2.state }, after.2.issued, after.2.events⟩) := by
  simp only [operate, onScheduler, perform_bind, perform_current, perform_state, hbound, hs, perform_within]

/-- A configuration has failed and has left all as it was, or nothing was bound and it has bound a scheduler that it has
    made. -/
inductive Configured (p : Progress Facade) : Outcome Nat × Progress Facade → Prop
  | refused (f : Fault) : Configured p (.error f, p)
  | bound {s : JobScheduler} {set : List (Value × Value)} {logged : List Event} (hnone : p.state.bound = none) :
      Configured p (.ok p.state.schedulers.length,
        ⟨⟨p.state.schedulers ++ [s], some p.state.schedulers.length, p.state.logging ++ set⟩, p.issued, p.events ++ logged⟩)

/-- Settings that were made have a level that logs can be set up with, whether they are given or are loaded. -/
theorem perform_configure {h : Host} {e : Environment} {storage : Option JobStorage} {settings : Option SchedulerSettings}
    {setLogging : Bool} (hfits : (Call.configure h e storage settings setLogging).Fits p.state)
    (hbound : ∀ n, p.state.bound = some n → n < p.state.schedulers.length) :
    Configured p ((configure h e storage settings setLogging).perform p) := by
  obtain ⟨⟨id, hid⟩, hsettings⟩ := hfits
  unfold configure
  extract_lets -underBinder machine rest
  have hsystem : ∃ id, machine.zoneId machine.systemZone = .ok id := ⟨id, (Host.SameFiles.zoneId ⟨rfl, rfl, rfl⟩ _).trans hid⟩
  have hrest : ∀ chosen : SchedulerSettings, (∃ rank, threshold chosen.logLevel = .ok rank) →
      Configured p ((rest chosen).perform p) := by
    rintro chosen ⟨rank, hrank⟩
    simp only [rest, perform_bind, perform_of, perform_state, perform_bindTo]
    cases hmake : JobScheduler.make machine (some (storage.getD (.memory {}))) chosen none with
    | error f => exact .refused f
    | ok s =>
      obtain ⟨z, hz, -⟩ := Outcome.bind_eq_ok.mp hmake
      obtain ⟨name, hname⟩ := Host.exists_identifier_of_settings hsystem hz
      cases hnone : p.state.bound with
      | some n =>
        -- The scheduler is a new one, so it is none that is bound.
        have hother : ¬(some n = none ∨ some n = some p.state.schedulers.length) := by
          simpa using ne_of_lt (hbound n hnone)
        simp only [if_neg hother]
        exact .refused _
      | none =>
        simp only [true_or, if_true, add, perform_bind, perform_state, perform_put, perform_pure]
        cases setLogging with
        | false =>
          simp only [Bool.false_eq_true, if_false, perform_bind, perform_of, hz, Outcome.ok_bind, hname, perform_log,
            perform_pure]
          simpa only [List.append_nil] using @Configured.bound p s [] _ hnone
        | true =>
          simp only [if_true, perform_bind, perform_of, perform_state, perform_put, hrank, hz, Outcome.ok_bind, hname,
            perform_log, perform_pure]
          exact .bound hnone
  cases settings with
  | some s =>
    obtain ⟨g, given, hmake⟩ := hsettings s rfl
    simp only [perform_bind, perform_pure]
    exact hrest s (SchedulerSettings.threshold_of_make hmake)
  | none =>
    simp only [perform_bind, perform_of]
    cases hload : SchedulerSettings.load machine e with
    | error f => exact .refused f
    | ok s =>
      obtain ⟨given, -, hmake⟩ := Outcome.bind_eq_ok.mp hload
      exact hrest s (SchedulerSettings.threshold_of_make hmake)

end Perform

/-! ### Calls one after the other -/

/-- A call with its answer. -/
structure Answered where
  call : Call
  answer : Outcome Answer

/-- The number of the scheduler that a call has bound, if it has bound one. -/
def Answered.settled? : Answered → Option Nat
  | ⟨.bind n, .ok _⟩ => some n
  | ⟨.configure .., .ok (.scheduler n)⟩ => some n
  | _ => none

/-- The scheduler that was bound last, unless what was bound has been released since. The latest call comes first. -/
def held : List Answered → Option Nat
  | [] => none
  | ⟨.unbind, _⟩ :: _ => none
  | made :: past => made.settled?.or (held past)

/-- Calls have been made on a facade with nothing bound, and have led here. Between two calls more schedulers may be
    made, logs may be set up, and anything may be done to a scheduler by those who have it in hand. -/
inductive Run : List Answered → Progress Facade → Prop
  | start {p : Progress Facade} (hnone : p.state.bound = none) : Run [] p
  | call {past : List Answered} {p : Progress Facade} {c : Call} (hrun : Run past p) (hfits : c.Fits p.state) :
      Run (⟨c, (c.act.perform p).1⟩ :: past) (c.act.perform p).2
  | meanwhile {past : List Answered} {p q : Progress Facade} (hrun : Run past p) (hbound : q.state.bound = p.state.bound)
      (hmore : p.state.schedulers.length ≤ q.state.schedulers.length) : Run past q

theorem held_cons {made : Answered} (hmade : made.call ≠ .unbind) (past : List Answered) :
    held (made :: past) = made.settled?.or (held past) := by
  obtain ⟨c, answer⟩ := made
  cases c with
  | unbind => exact absurd rfl hmade
  | _ => rfl

theorem ne_unbind_of_settled {made : Answered} {n : Nat} (hn : made.settled? = some n) : made.call ≠ .unbind := by
  obtain ⟨c, answer⟩ := made
  rintro rfl
  cases hn

/-- What a call that releases nothing does to what is bound. -/
structure Step (p : Progress Facade) (made : Answered) (q : Progress Facade) : Prop where
  bound : q.state.bound = made.settled?.or p.state.bound
  /-- No scheduler is bound in the place of another one. -/
  free : ∀ n, made.settled? = some n → p.state.bound = none ∨ p.state.bound = some n
  number : ∀ n, made.settled? = some n → n < q.state.schedulers.length
  more : p.state.schedulers.length ≤ q.state.schedulers.length

theorem step_of_unsettled {p q : Progress Facade} {made : Answered} (hmade : made.settled? = none)
    (hbound : q.state.bound = p.state.bound) (hmore : p.state.schedulers.length ≤ q.state.schedulers.length) :
    Step p made q where
  bound := by rw [hmade, hbound, Option.none_or]
  free n hn := nomatch hmade.symm.trans hn
  number n hn := nomatch hmade.symm.trans hn
  more := hmore

theorem step_of_call {p : Progress Facade} {c : Call} (hc : c ≠ .unbind) (hfits : c.Fits p.state)
    (hbound : ∀ n, p.state.bound = some n → n < p.state.schedulers.length) :
    Step p ⟨c, (c.act.perform p).1⟩ (c.act.perform p).2 := by
  cases c with
  | bind n =>
    simp only [Call.act, perform_bind, perform_bindTo]
    by_cases hfree : p.state.bound = none ∨ p.state.bound = some n
    · rw [if_pos hfree]
      exact ⟨rfl, fun m hm => Option.some.inj hm ▸ hfree, fun m hm => Option.some.inj hm ▸ hfits, le_rfl⟩
    · rw [if_neg hfree]
      exact step_of_unsettled rfl rfl le_rfl
  | unbind => exact absurd rfl hc
  | configure h e storage settings setLogging =>
    simp only [Call.act, perform_bind]
    generalize hafter : (configure h e storage settings setLogging).perform p = after
    have hconfigured := perform_configure hfits hbound
    rw [hafter] at hconfigured
    cases hconfigured with
    | refused f => exact step_of_unsettled rfl rfl le_rfl
    | bound hnone =>
      refine ⟨rfl, fun _ _ => Or.inl hnone, fun m hm => ?_, ?_⟩
      · cases hm
        simp [perform_pure]
      · simp [perform_pure]
  | current =>
    simp only [Call.act, perform_bind, perform_current]
    cases hbound : p.state.bound <;> exact step_of_unsettled rfl rfl le_rfl
  | operation o =>
    cases hnumber : p.state.bound with
    | none =>
      simp only [Call.act, perform_bind, perform_operate_of_none o.act hnumber]
      exact step_of_unsettled rfl rfl le_rfl
    | some n =>
      obtain ⟨s, hs⟩ : ∃ s, p.state.schedulers[n]? = some s := ⟨_, List.getElem?_eq_getElem (hbound n hnumber)⟩
      simp only [Call.act, perform_bind, perform_operate_of_some o.act hnumber hs]
      cases (o.act.perform ⟨s, p.issued, p.events⟩).1 <;>
        exact step_of_unsettled rfl rfl (List.length_set ..).ge

namespace Run

variable {past : List Answered} {p : Progress Facade}

theorem of_append {recent : List Answered} (hrun : Run (recent ++ past) p) : ∃ q, Run past q := by
  generalize hall : recent ++ past = all at hrun
  induction hrun generalizing recent with
  | start hnone =>
    obtain ⟨-, rfl⟩ := List.append_eq_nil_iff.mp hall
    exact ⟨_, .start hnone⟩
  | call hrun hfits ih =>
    cases recent with
    | nil =>
      cases hall
      exact ⟨_, .call hrun hfits⟩
    | cons made recent => exact ih (List.cons.inj hall).2
  | meanwhile hrun hbound hmore ih => exact ih hall

/-- Calls leave bound what they are said to hold, and it is a scheduler that there is. -/
theorem bound_eq (hrun : Run past p) :
    p.state.bound = held past ∧ ∀ n, p.state.bound = some n → n < p.state.schedulers.length := by
  induction hrun with
  | start hnone => exact ⟨hnone, fun n hn => nomatch hnone.symm.trans hn⟩
  | @call past p c hrun hfits ih =>
    obtain ⟨hheld, hnumber⟩ := ih
    by_cases hc : c = .unbind
    · subst hc
      exact ⟨rfl, fun n hn => nomatch hn⟩
    · have hstep := step_of_call hc hfits hnumber
      refine ⟨by rw [hstep.bound, held_cons hc, hheld], fun n hn => ?_⟩
      rw [hstep.bound, Option.or_eq_some_iff] at hn
      rcases hn with hn | ⟨-, hn⟩
      · exact hstep.number n hn
      · exact (hnumber n hn).trans_le hstep.more
  | meanwhile hrun hbound hmore ih => exact ⟨hbound.trans ih.1, fun n hn => (ih.2 n (hbound.symm.trans hn)).trans_le hmore⟩

/-- What a call has bound stays bound as long as nothing is released. -/
theorem held_of_settled {between before : List Answered} {earlier : Answered} {n : Nat}
    (hrun : Run (between ++ earlier :: before) p) (hn : earlier.settled? = some n)
    (hkept : ∀ made ∈ between, made.call ≠ .unbind) : held (between ++ earlier :: before) = some n := by
  generalize hall : between ++ earlier :: before = all at hrun
  induction hrun generalizing between with
  | start => cases between <;> cases hall
  | @call past p c hrun hfits ih =>
    cases between with
    | nil =>
      cases hall
      rw [held_cons (ne_unbind_of_settled hn), hn, Option.some_or]
    | cons made between =>
      obtain ⟨rfl, rfl⟩ := List.cons.inj hall
      have hc := hkept _ List.mem_cons_self
      have hpast := ih (fun made hmade => hkept made (List.mem_cons_of_mem _ hmade)) rfl
      rw [held_cons hc, hpast]
      cases hm : Answered.settled? ⟨c, (c.act.perform p).1⟩ with
      | none => rfl
      | some m =>
        obtain ⟨hheld, hnumber⟩ := hrun.bound_eq
        rcases (step_of_call hc hfits hnumber).free m hm with hfree | hsame
        · rw [hheld, hpast] at hfree
          cases hfree
        · rw [hheld, hpast] at hsame
          exact congrArg some (Option.some.inj hsame).symm
  | meanwhile hrun hbound hmore ih => exact ih hkept hall

end Run

/-! ### What is bound -/

/-- What is known of a facade after calls. -/
structure Governed (past : List Answered) (p : Progress Facade) : Prop where
  /-- The bound scheduler is the one that was bound last, unless it has been released since. -/
  bound : p.state.bound = held past
  /-- A scheduler can be bound exactly if none is bound, or it is bound already. -/
  bind_iff : ∀ n, (∃ u, ((bind n).perform p).1 = .ok u) ↔ held past = none ∨ held past = some n
  /-- To configure a scheduler fails without a trace, or leaves the scheduler bound that it answers with. -/
  configured : ∀ {h e storage settings setLogging}, (Call.configure h e storage settings setLogging).Fits p.state →
    Configured p ((configure h e storage settings setLogging).perform p)
  /-- While none is bound, every operation is refused and does nothing. -/
  refused : held past = none → current.perform p = (.error (.problem .notInitialized), p) ∧
    ∀ o : Operation, (operate o.act).perform p = (.error (.problem .notInitialized), p)
  /-- While one is bound, an operation does what it does to that scheduler, and fails as it does there. It is not refused
      for want of a scheduler, unless its own items or a storage of the scheduler fail with that very error. -/
  operated : ∀ {n}, held past = some n → current.perform p = (.ok n, p) ∧ ∃ s, p.state.schedulers[n]? = some s ∧
    ∀ o : Operation,
      ((operate o.act).perform p =
        let after := o.act.perform ⟨s, p.issued, p.events⟩
        (after.1, ⟨{ p.state with schedulers := p.state.schedulers.set n after.2.state }, after.2.issued, after.2.events⟩)) ∧
      (((operate o.act).perform p).1 = .error (.problem .notInitialized) →
        o.ending? = some (.problem .notInitialized) ∨ ¬s.RefusesWith (· ≠ .problem .notInitialized))
  /-- Two calls have bound one and the same scheduler if nothing was released between them. -/
  one : ∀ {recent between before : List Answered} {later earlier : Answered} {m n : Nat},
    past = recent ++ later :: (between ++ earlier :: before) → later.settled? = some m → earlier.settled? = some n →
      (∀ made ∈ between, made.call ≠ .unbind) → m = n

/-- An operation on a scheduler that is there says that none is bound only if its items or a storage say so. -/
theorem notInitialized_of_act {o : Operation} {p : Progress JobScheduler}
    (hfail : (o.act.perform p).1 = .error (.problem .notInitialized)) :
    o.ending? = some (.problem .notInitialized) ∨ ¬p.state.RefusesWith (· ≠ .problem .notInitialized) := by
  by_contra hneither
  obtain ⟨hending, hrefuses⟩ := not_or.mp hneither
  have hkinds : ∀ f : Fault, f.Among callKinds → f ≠ .problem .notInitialized := by
    rintro f hf rfl
    simp [Fault.Among, Problem.kind, callKinds] at hf
  have hkeeps := Operation.act_keeps (o := o) hkinds fun f hf heq => hending (heq ▸ hf)
  exact (hkeeps p (not_not.mp hrefuses)).2 _ hfail rfl

/-- Whatever calls are made in whatever order, at most one scheduler is bound, the one of the latest call that has bound
    one, and it is the one that every operation acts on. -/
theorem governed_of_run {past : List Answered} {p : Progress Facade} (hrun : Run past p) : Governed past p := by
  obtain ⟨hheld, hnumber⟩ := hrun.bound_eq
  refine ⟨hheld, fun n => ?_, fun hfits => perform_configure hfits hnumber, fun hnone => ?_, fun {n} hn => ?_, ?_⟩
  · rw [perform_bindTo, hheld]
    split
    · rename_i hfree
      exact iff_of_true ⟨(), rfl⟩ hfree
    · rename_i hfree
      exact iff_of_false (fun ⟨_, hu⟩ => nomatch hu) hfree
  · rw [← hheld] at hnone
    exact ⟨by rw [perform_current, hnone], fun o => perform_operate_of_none o.act hnone⟩
  · rw [← hheld] at hn
    obtain ⟨s, hs⟩ : ∃ s, p.state.schedulers[n]? = some s := ⟨_, List.getElem?_eq_getElem (hnumber n hn)⟩
    refine ⟨by rw [perform_current, hn], s, hs, fun o => ?_⟩
    have hafter := perform_operate_of_some o.act hn hs
    refine ⟨hafter, fun hfail => ?_⟩
    rw [hafter] at hfail
    exact notInitialized_of_act hfail
  · intro recent between before later earlier m n hpast hm hn hkept
    subst hpast
    obtain ⟨q, hrun⟩ := hrun.of_append
    rw [← List.cons_append] at hrun
    have hsince := hrun.held_of_settled hn fun made hmade => by
      rcases List.mem_cons.mp hmade with rfl | hmade
      · exact ne_unbind_of_settled hm
      · exact hkept made hmade
    rw [List.cons_append, held_cons (ne_unbind_of_settled hm), hm, Option.some_or] at hsince
    exact Option.some.inj hsince

/-- A facade with one scheduler, which is not bound. -/
def launched : Progress Facade := ⟨{ schedulers := [JobScheduler.unsetScheduler] }, 0, []⟩

/-- To configure a further scheduler with default settings, and to set up logs with them. -/
def furtherCall : Call := .configure default [] none (some {}) true

theorem fits_furtherCall : furtherCall.Fits launched.state :=
  ⟨⟨"UTC", rfl⟩, fun s hs => ⟨default, [], by cases hs; cbv⟩⟩

/-- While the further scheduler is bound, the one that was there before is refused; once that is released it is bound. -/
theorem governed_of_run_further :
    let further := furtherCall.act.perform launched
    let released := Call.unbind.act.perform further.2
    let again := (Call.bind 0).act.perform released.2
    (further.2.state.bound = some 1 ∧ ¬∃ u, ((bind 0).perform further.2).1 = .ok u) ∧
      again.2.state.bound = some 0 ∧ current.perform again.2 = (.ok 0, again.2) := by
  intro further released again
  have hfurther : Run [⟨furtherCall, further.1⟩] further.2 := .call (.start rfl) fits_furtherCall
  have hagain : Run [⟨.bind 0, again.1⟩, ⟨.unbind, released.1⟩, ⟨furtherCall, further.1⟩] again.2 :=
    .call (.call hfurther trivial) (show 0 < released.2.state.schedulers.length by decide +kernel)
  have hone : held [⟨furtherCall, further.1⟩] = some 1 := by decide +kernel
  have hzero : held [⟨.bind 0, again.1⟩, ⟨.unbind, released.1⟩, ⟨furtherCall, further.1⟩] = some 0 := by decide +kernel
  have hgoverned := governed_of_run hfurther
  refine ⟨⟨hgoverned.bound.trans hone, fun hbind => ?_⟩, (governed_of_run hagain).bound.trans hzero,
    ((governed_of_run hagain).operated hzero).1⟩
  rcases (hgoverned.bind_iff 0).mp hbind with hnone | hsame
  · exact nomatch hone.symm.trans hnone
  · exact absurd (hone.symm.trans hsame) (by decide)

end Facade
end JobScheduling
