import JobScheduling.Proofs.Job.Restored

/-! Payloads that are read and written again. A payload may hold more than its definition needs, leave out the
    arguments or hold them as a tuple; what is written of the definition that was read is a payload in one form,
    which is read and written as itself. It holds the same parts of the target and the same arguments. -/

namespace JobScheduling

/-! ### Targets -/

namespace JobTarget

/-- The names under which the payload of a target holds its kind and its parts. -/
def names : JobTarget → List String
  | static _ => ["kind", "function"]
  | service .. => ["kind", "service", "method"]

theorem under?_toValue_of_forall {t : JobTarget} {key : Value} (hkey : ∀ name ∈ t.names, key ≠ .text name) :
    t.toValue.under? key = none := by
  cases t with
  | static path => exact Value.under?_ofFields_of_forall hkey
  | service path method => exact Value.under?_ofFields_of_forall hkey

/-- A target that is read is an accepted one, and under its names its payload holds what the payload did. -/
theorem accepted_and_under?_of_ofValue {payload : Value} {t : JobTarget} (h : ofValue payload = .ok t) :
    t.Accepted ∧ ∀ name ∈ t.names, t.toValue.under? (.text name) = payload.under? (.text name) := by
  cases ofValue_eq_ok_iff_holds.mp h with
  | static hkind hfunction hpath =>
    refine ⟨Or.inl ⟨_, ofFunction_eq_ok.mpr ⟨_, rfl, hpath, rfl⟩⟩, ?_⟩
    simp only [names, List.forall_mem_cons, Value.entry_eq_ok.mp hkind, Value.entry_eq_ok.mp hfunction]
    exact ⟨rfl, rfl, nofun⟩
  | service hkind hservice hpath hmethod hidentifier =>
    refine ⟨Or.inr ⟨_, _, ofMethod_eq_ok.mpr ⟨_, _, rfl, hpath, rfl, hidentifier, rfl⟩⟩, ?_⟩
    simp only [names, List.forall_mem_cons, Value.entry_eq_ok.mp hkind, Value.entry_eq_ok.mp hservice,
      Value.entry_eq_ok.mp hmethod]
    exact ⟨rfl, rfl, rfl, nofun⟩

end JobTarget

/-! ### Definitions -/

namespace JobDefinition

/-- The payload holds the arguments, as a list or as a tuple, or it holds none and there are none. -/
def HoldsArgs (payload : Value) (args : List Value) : Prop :=
  (payload.under? (.text "args") = none ∧ args = []) ∨
    payload.under? (.text "args") = some (.list args) ∨ payload.under? (.text "args") = some (.tuple args)

theorem argsOf_eq_ok {entries : List (Value × Value)} {args : List Value} (h : argsOf entries = .ok args) :
    HoldsArgs (.dict entries) args := by
  unfold argsOf at h
  split at h
  · cases h
    exact Or.inl ⟨by assumption, rfl⟩
  · cases h
    exact Or.inr (Or.inl (by assumption))
  · cases h
    exact Or.inr (Or.inr (by assumption))
  · cases h

theorem ofValue_eq_ok {payload : Value} {d : JobDefinition} (h : ofValue payload = .ok d) :
    ∃ target, payload.under? (.text "target") = some target ∧ JobTarget.ofValue target = .ok d.target ∧
      HoldsArgs payload d.args := by
  unfold ofValue at h
  split at h
  · split at h
    · rename_i target htarget
      obtain ⟨args, hargs, h⟩ := Outcome.bind_eq_ok.mp h
      obtain ⟨t, ht, h⟩ := Outcome.bind_eq_ok.mp h
      cases h
      exact ⟨target, htarget, ht, argsOf_eq_ok hargs⟩
    · obtain ⟨_, -, h⟩ := Outcome.bind_eq_ok.mp h
      cases h
  · obtain ⟨_, -, h⟩ := Outcome.bind_eq_ok.mp h
    cases h

/-- From the payload of a definition with an accepted target an equal definition is read. What is written of a
    definition that was read from any payload is read as that definition and written as itself. It holds the
    arguments, and of the target what the payload held of its kind, its path and its method; under every other
    key, which the payload may have had, it holds nothing. -/
theorem ofValue_normalized :
    (∀ d : JobDefinition, d.target.Accepted → ofValue d.toValue = .ok d ∧ d.equals true d = true) ∧
    ∀ (payload : Value) (d : JobDefinition), ofValue payload = .ok d →
      d.target.Accepted ∧ ofValue d.toValue = .ok d ∧ (ofValue d.toValue).map toValue = .ok d.toValue ∧
      (∃ target, payload.under? (.text "target") = some target ∧
        d.toValue.under? (.text "target") = some d.target.toValue ∧
        (∀ name ∈ d.target.names, d.target.toValue.under? (.text name) = target.under? (.text name)) ∧
        ∀ key, (∀ name ∈ d.target.names, key ≠ .text name) → d.target.toValue.under? key = none) ∧
      HoldsArgs payload d.args ∧ d.toValue.under? (.text "args") = some (.list d.args) ∧
      ∀ key, (∀ name ∈ ["target", "args"], key ≠ .text name) → d.toValue.under? key = none := by
  refine ⟨fun d ht => ⟨ofValue_toValue ht, equals_self d⟩, fun payload d h => ?_⟩
  obtain ⟨target, htarget, hread, hargs⟩ := ofValue_eq_ok h
  obtain ⟨haccepted, hkept⟩ := JobTarget.accepted_and_under?_of_ofValue hread
  have hagain : ofValue d.toValue = .ok d := ofValue_toValue haccepted
  refine ⟨haccepted, hagain, by rw [hagain]; rfl, ⟨target, htarget, rfl, hkept, ?_⟩, hargs, rfl, ?_⟩
  · exact fun key hkey => JobTarget.under?_toValue_of_forall hkey
  · exact fun key hkey => Value.under?_ofFields_of_forall hkey

/-- A payload with its arguments in a tuple and with more than its definition needs. -/
def annotated : Value :=
  .ofFields [("note", .text "nightly"),
    ("target", .ofFields [("since", .int 3), ("method", .text "send"), ("service", .text "mail:Mailer"),
      ("kind", .text "service")]),
    ("args", .tuple [.int 2, .int 1])]

/-- It is written without what its definition does not need. -/
theorem ofValue_normalized_annotated :
    ∃ d, ofValue annotated = .ok d ∧ d.toValue = .ofFields
        [("target", .ofFields [("kind", .text "service"), ("service", .text "mail:Mailer"), ("method", .text "send")]),
          ("args", .list [.int 2, .int 1])] ∧
      ofValue d.toValue = .ok d ∧ d.toValue.under? (.text "note") = none := by
  have hread : ofValue annotated = .ok ⟨.service "mail:Mailer" "send", [.int 2, .int 1]⟩ := rfl
  obtain ⟨-, hagain, -, -, -, -, hother⟩ := ofValue_normalized.2 annotated _ hread
  exact ⟨_, hread, rfl, hagain, hother (.text "note") (by simp)⟩

end JobDefinition
end JobScheduling
