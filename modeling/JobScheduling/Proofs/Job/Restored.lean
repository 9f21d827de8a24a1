import JobScheduling.Proofs.Job.Payload
import JobScheduling.Proofs.Value.Equal

/-! Targets and definitions that are stored and read again. A target that was accepted when it was made is accepted
    when its payload is read, so from its payload a definition is read as it was. -/

namespace JobScheduling
namespace JobTarget

/-! ### Accepted targets -/

/-- The target is one that was made of a path, or of a path and a method. -/
def Accepted (t : JobTarget) : Prop :=
  (∃ path, ofFunction path = .ok t) ∨ ∃ path method, ofMethod path method = .ok t

/-- The targets that are accepted are those that are well-formed. -/
theorem accepted_iff {t : JobTarget} : t.Accepted ↔ t.valid = true := by
  unfold Accepted
  simp only [ofFunction_eq_ok, ofMethod_eq_ok]
  constructor
  · rintro (⟨_, path, -, hpath, rfl⟩ | ⟨_, _, path, method, -, hpath, -, hmethod, rfl⟩)
    · exact hpath
    · exact Bool.and_eq_true_iff.mpr ⟨hpath, hmethod⟩
  · intro h
    cases t with
    | static path => exact Or.inl ⟨_, path, rfl, h, rfl⟩
    | service path method =>
      obtain ⟨hpath, hmethod⟩ := Bool.and_eq_true_iff.mp h
      exact Or.inr ⟨_, _, path, method, rfl, hpath, rfl, hmethod, rfl⟩

/-! ### Payloads -/

/-- From its payload an accepted target is read as it was. -/
theorem ofValue_toValue {t : JobTarget} (ht : t.Accepted) : ofValue t.toValue = .ok t := by
  rw [accepted_iff] at ht
  cases t with
  | static path =>
    have hread : ofFunction (.text path) = .ok (.static path) := ofFunction_eq_ok.mpr ⟨path, rfl, ht, rfl⟩
    have hparts : parts (toValue (.static path)) = (ofFunction (.text path) >>= fun t => .ok (.ok t)) := rfl
    rw [ofValue, hparts, hread]
    rfl
  | service path method =>
    obtain ⟨hpath, hmethod⟩ := Bool.and_eq_true_iff.mp ht
    have hread : ofMethod (.text path) (.text method) = .ok (.service path method) :=
      ofMethod_eq_ok.mpr ⟨path, method, rfl, hpath, rfl, hmethod, rfl⟩
    have hparts : parts (toValue (.service path method)) =
      (ofMethod (.text path) (.text method) >>= fun t => .ok (.ok t)) := rfl
    rw [ofValue, hparts, hread]
    rfl

end JobTarget

namespace JobDefinition

/-- From its payload a definition with an accepted target is read as it was. -/
theorem ofValue_toValue {d : JobDefinition} (ht : d.target.Accepted) : ofValue d.toValue = .ok d := by
  have hread : ofValue d.toValue = (JobTarget.ofValue d.target.toValue >>= fun t => .ok ⟨t, d.args⟩) := rfl
  rw [hread, JobTarget.ofValue_toValue ht]
  rfl

/-- A definition is equal to itself. -/
theorem equals_self (d : JobDefinition) : d.equals true d = true := by
  rw [equals, beq_self_eq_true, Value.equalsList_self, Bool.true_and]

end JobDefinition
end JobScheduling
