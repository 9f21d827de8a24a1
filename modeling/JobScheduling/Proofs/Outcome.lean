import JobScheduling.Error.Fault

/-! Steps of an operation that may fail: it succeeds when all of its steps do, and fails as the first of them
    that does. So it can fail only in the ways in which one of them can. -/

namespace JobScheduling
namespace Outcome

variable {α β : Type} {x : Outcome α} {k : α → Outcome β}

@[simp] theorem ok_bind (a : α) (k : α → Outcome β) : ((Except.ok a : Outcome α) >>= k) = k a := rfl

@[simp] theorem error_bind (f : Fault) (k : α → Outcome β) :
    ((Except.error f : Outcome α) >>= k) = Except.error f := rfl

theorem bind_eq_ok {b : β} : (x >>= k) = .ok b ↔ ∃ a, x = .ok a ∧ k a = .ok b := by
  cases x <;> simp

theorem bind_eq_error {f : Fault} : (x >>= k) = .error f ↔ x = .error f ∨ ∃ a, x = .ok a ∧ k a = .error f := by
  cases x <;> simp

theorem mapM_eq_error {items : List α} {op : α → Outcome β} {f : Fault} (h : items.mapM op = .error f) :
    ∃ a ∈ items, op a = .error f := by
  induction items with
  | nil => cases h
  | cons a items ih =>
    rw [List.mapM_cons] at h
    rcases bind_eq_error.mp h with h | ⟨_, -, h⟩
    · exact ⟨a, List.mem_cons_self, h⟩
    · rcases bind_eq_error.mp h with h | ⟨_, -, h⟩
      · obtain ⟨a', ha', h⟩ := ih h
        exact ⟨a', List.mem_cons_of_mem a ha', h⟩
      · cases h

theorem toOption_eq_some {a : α} : Except.toOption x = some a ↔ x = .ok a := by
  cases x <;> simp [Except.toOption]

end Outcome

/-! ### Ways to fail -/

/-- The failure is an error of one of some kinds, or none of the errors of this library. -/
def Fault.Among (kinds : List ErrorKind) : Fault → Prop
  | problem p => p.kind ∈ kinds
  | _ => True

theorem Fault.Among.mono {kinds more : List ErrorKind} {f : Fault} (hmore : kinds ⊆ more) (h : f.Among kinds) :
    f.Among more := by
  cases f with
  | problem p => exact hmore h
  | _ => trivial

namespace Outcome

/-- An outcome that is a failure is one of some failures. -/
def FailsAs {α : Type} (p : Fault → Prop) (x : Outcome α) : Prop := ∀ f, x = .error f → p f

/-- An outcome that is a failure is an error of one of some kinds, or none of the errors of this library. -/
def FailsAmong {α : Type} (kinds : List ErrorKind) (x : Outcome α) : Prop := ∀ f, x = .error f → f.Among kinds

variable {α β : Type} {p : Fault → Prop} {kinds more : List ErrorKind} {x : Outcome α} {k : α → Outcome β}

theorem failsAs_ok (a : α) : FailsAs p (.ok a) := nofun

theorem failsAs_error {f : Fault} : FailsAs (α := α) p (.error f) ↔ p f :=
  ⟨fun h => h f rfl, fun h _ heq => Except.error.inj heq ▸ h⟩

theorem FailsAs.bind (hx : x.FailsAs p) (hk : ∀ a, (k a).FailsAs p) : (x >>= k).FailsAs p := by
  intro f h
  rcases bind_eq_error.mp h with h | ⟨a, -, h⟩
  · exact hx f h
  · exact hk a f h

@[simp] theorem failsAmong_ok (a : α) : FailsAmong kinds (.ok a) := failsAs_ok a

@[simp] theorem failsAmong_error {f : Fault} : FailsAmong (α := α) kinds (.error f) ↔ f.Among kinds := failsAs_error

theorem FailsAmong.bind (hx : x.FailsAmong kinds) (hk : ∀ a, (k a).FailsAmong kinds) : (x >>= k).FailsAmong kinds :=
  FailsAs.bind hx hk

theorem FailsAmong.mapM {items : List α} {op : α → Outcome β} (hop : ∀ a, (op a).FailsAmong kinds) :
    (items.mapM op).FailsAmong kinds := by
  intro f hf
  obtain ⟨a, -, hf⟩ := mapM_eq_error hf
  exact hop a f hf

theorem FailsAmong.mono (hmore : kinds ⊆ more) (hx : x.FailsAmong kinds) : x.FailsAmong more :=
  fun f h => (hx f h).mono hmore

end Outcome
end JobScheduling
