import JobScheduling.Log.Event
import JobScheduling.Proofs.Outcome

/-! How activities are performed, step by step: a first step that fails ends an activity where it has led so far. What
    each step keeps of the state an activity keeps, and it fails only as one of its steps does. -/

namespace JobScheduling
namespace Activity

variable {σ τ α β : Type} {p : Progress σ}

theorem perform_bind (a : Activity σ α) (k : α → Activity σ β) : (a >>= k).perform p =
    match (a.perform p).1 with
    | .ok x => (k x).perform (a.perform p).2
    | .error f => (.error f, (a.perform p).2) := by
  have hrun : (a >>= k).perform p = (ExceptT.bindCont k (a.perform p).1).run (a.perform p).2 := rfl
  rw [hrun]
  cases (a.perform p).1 <;> rfl

@[simp] theorem perform_pure (x : α) : (pure x : Activity σ α).perform p = (.ok x, p) := rfl

@[simp] theorem perform_throw (f : Fault) : (throw f : Activity σ α).perform p = (.error f, p) := rfl

@[simp] theorem perform_state : (state : Activity σ σ).perform p = (.ok p.state, p) := rfl

@[simp] theorem perform_put (s : σ) : (put s).perform p = (.ok (), { p with state := s }) := rfl

@[simp] theorem perform_log (level : Level) (name : String) (values : List (String × Value)) :
    (log level name values).perform p = (.ok (), { p with events := p.events ++ [⟨level, name, values⟩] }) := rfl

@[simp] theorem perform_of (r : Outcome α) : (of r : Activity σ α).perform p = (r, p) := by
  cases r <;> rfl

@[simp] theorem perform_within (part : σ → τ) (set : τ → σ → σ) (a : Activity τ α) :
    (within part set a).perform p =
      ((a.perform ⟨part p.state, p.issued, p.events⟩).1,
        ⟨set (a.perform ⟨part p.state, p.issued, p.events⟩).2.state p.state,
          (a.perform ⟨part p.state, p.issued, p.events⟩).2.issued,
          (a.perform ⟨part p.state, p.issued, p.events⟩).2.events⟩) := rfl

@[simp] theorem perform_issue : (issue : Activity σ Nat).perform p = (.ok (p.issued + 1), { p with issued := p.issued + 1 }) :=
  rfl

/-! ### What activities keep -/

/-- An activity leads from a state with a property to one that has it too, and fails in allowed ways only. -/
def Keeps (kept : σ → Prop) (allowed : Fault → Prop) (a : Activity σ α) : Prop :=
  ∀ p : Progress σ, kept p.state → kept (a.perform p).2.state ∧ ∀ f, (a.perform p).1 = .error f → allowed f

variable {kept : σ → Prop} {allowed : Fault → Prop}

theorem keeps_pure (x : α) : Keeps kept allowed (pure x) := fun _ hp => ⟨hp, fun _ h => nomatch h⟩

theorem keeps_throw {f : Fault} (hf : allowed f) : Keeps kept allowed (throw f : Activity σ α) :=
  fun _ hp => ⟨hp, fun _ h => Except.error.inj h ▸ hf⟩

theorem keeps_put {s : σ} (hs : kept s) : Keeps kept allowed (put s) := fun _ _ => ⟨hs, fun _ h => nomatch h⟩

theorem keeps_log (level : Level) (name : String) (values : List (String × Value)) :
    Keeps kept allowed (log level name values) := fun _ hp => ⟨hp, fun _ h => nomatch h⟩

theorem keeps_issue : Keeps kept allowed issue := fun _ hp => ⟨hp, fun _ h => nomatch h⟩

theorem keeps_of {r : Outcome α} (hr : ∀ f, r = .error f → allowed f) : Keeps kept allowed (of r) := by
  intro p hp
  rw [perform_of]
  exact ⟨hp, hr⟩

theorem Keeps.bind {a : Activity σ α} {k : α → Activity σ β} (ha : Keeps kept allowed a)
    (hk : ∀ x, Keeps kept allowed (k x)) : Keeps kept allowed (a >>= k) := by
  intro p hp
  obtain ⟨hstate, hfail⟩ := ha p hp
  rw [perform_bind]
  cases hx : (a.perform p).1 with
  | ok x => exact hk x _ hstate
  | error f => exact ⟨hstate, fun _ h => Except.error.inj h ▸ hfail f hx⟩

/-- What comes after an outcome matters only where there is a result. -/
theorem keeps_of_bind {r : Outcome α} {k : α → Activity σ β} (hr : ∀ f, r = .error f → allowed f)
    (hk : ∀ x, r = .ok x → Keeps kept allowed (k x)) : Keeps kept allowed (of r >>= k) := by
  intro p hp
  rw [perform_bind, perform_of]
  cases r with
  | ok x => exact hk x rfl p hp
  | error f => exact ⟨hp, fun _ h => Except.error.inj h ▸ hr f rfl⟩

/-- The state that is looked at has the property. -/
theorem keeps_state {k : σ → Activity σ α} (hk : ∀ s, kept s → Keeps kept allowed (k s)) :
    Keeps kept allowed (state >>= k) := by
  intro p hp
  rw [perform_bind, perform_state]
  exact hk p.state hp p hp

theorem Keeps.within {part : σ → τ} {set : τ → σ → σ} {keptPart : τ → Prop} {a : Activity τ α}
    (ha : Keeps keptPart allowed a) (hpart : ∀ s, kept s → keptPart (part s))
    (hset : ∀ s t, kept s → keptPart t → kept (set t s)) : Keeps kept allowed (within part set a) := by
  intro p hp
  obtain ⟨hstate, hfail⟩ := ha ⟨part p.state, p.issued, p.events⟩ (hpart _ hp)
  exact ⟨hset _ _ hp hstate, hfail⟩

end Activity
end JobScheduling
