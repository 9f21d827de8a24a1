import JobScheduling.Log.Level

/-!
Log events, and activities. An activity may fail; it works on a state, hands out identifiers and logs events, and
what it did before it failed stays done.
-/

namespace JobScheduling

/-- An event of a log: its name and the values that belong to it. -/
structure Event where
  level : Level
  name : String
  values : List (String × Value)
deriving Inhabited

/-- A state with the number of identifiers that were handed out and the events that were logged, the latest
    last. -/
structure Progress (σ : Type) where
  state : σ
  issued : Nat := 0
  events : List Event := []
deriving Inhabited

/-- What is done to a state, with a result or a failure. -/
abbrev Activity (σ α : Type) : Type := ExceptT Fault (StateM (Progress σ)) α

namespace Activity

variable {σ τ α : Type}

/-- The outcome of an activity and where it leads. -/
def perform (a : Activity σ α) (p : Progress σ) : Outcome α × Progress σ := a.run.run p

/-- The state. -/
def state : Activity σ σ := do return (← get).state

/-- To put another state in place of the present one. -/
def put (s : σ) : Activity σ Unit := modify fun p => { p with state := s }

/-- To log an event. -/
def log (level : Level) (name : String) (values : List (String × Value)) : Activity σ Unit :=
  modify fun p => { p with events := p.events ++ [⟨level, name, values⟩] }

/-- The number of a new identifier, counting from one. -/
def issue : Activity σ Nat := do
  modify fun p => { p with issued := p.issued + 1 }
  return (← get).issued

/-- An activity that does nothing but to succeed or to fail. -/
def of (r : Outcome α) : Activity σ α := liftExcept r

/-- An activity on a part of the state: `part` reads the part, and `set` puts another one in its place. -/
def within (part : σ → τ) (set : τ → σ → σ) (a : Activity τ α) : Activity σ α :=
  ExceptT.mk fun p =>
    let r := a.perform ⟨part p.state, p.issued, p.events⟩
    (r.1, ⟨set r.2.state p.state, r.2.issued, r.2.events⟩)

end Activity
end JobScheduling
