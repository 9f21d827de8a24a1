import JobScheduling.Job.Run
import JobScheduling.Job.Work
import JobScheduling.Catalogue.Shop
import JobScheduling.Proofs.Activity
import JobScheduling.Proofs.Job.Failure
import JobScheduling.Proofs.Job.Restored
import JobScheduling.Proofs.Text.Split

/-! Calls that are put off. A function, or a method of a type itself, that is captured with arguments in wrappers around it
    and in the call, is stored under its path; as long as the path leads back to it, what is read and run later calls it
    with the arguments of the wrappers from the inside outwards and those of the call behind them. A stored payload is run
    only if the call can be written to the log. A wrapper with arguments by name is refused, wherever it is. -/

namespace JobScheduling

/-! ### Paths that lead back -/

namespace Catalogue
variable {c : Catalogue} {path : String} {e : Entity}

theorem module_ne_empty (h : c.importPath path = .ok e) : (JobTarget.splitPath path).1 ≠ "" := by
  intro hempty
  simp only [importPath, importThrough, hempty, importModule, if_true, Outcome.error_bind] at h
  cases h

/-- What leads to an entity is a path, if a name stands behind its first colon. -/
theorem isPath_of_importPath {m q : String} (hq : q ≠ "") (h : c.importPath (m ++ ":" ++ q) = .ok e) :
    JobTarget.isPath (m ++ ":" ++ q) = true := by
  have hmodule := module_ne_empty h
  have hchars : (m ++ ":" ++ q).toList = m.toList ++ ':' :: q.toList := by simp
  have hq : q.toList ≠ [] := fun hnil => hq (String.toList_eq_nil_iff.mp hnil)
  simp only [JobTarget.splitPath, JobTarget.isPath, hchars] at hmodule ⊢
  rcases hcut : Text.cut ':' (m.toList ++ ':' :: q.toList) with ⟨a, _ | b⟩
  · exact absurd (by simp) (Text.cut_eq_none hcut).2
  · obtain ⟨hs, ha⟩ := Text.cut_eq_some hcut
    rw [hcut] at hmodule
    have hb : b ≠ [] := by
      rintro rfl
      -- Without its last character the text would still hold the colon, and be `a`.
      have ha' := congrArg List.dropLast hs
      rw [List.dropLast_concat, List.dropLast_append_of_ne_nil (List.cons_ne_nil _ _),
        List.dropLast_cons_of_ne_nil hq] at ha'
      exact ha (ha' ▸ List.mem_append_right _ List.mem_cons_self)
    have ha' : a ≠ [] := by
      rintro rfl
      exact hmodule rfl
    simp [ha', hb]

end Catalogue

namespace Entity

/-- The names that an entity gives of itself, its module and its qualified name, by which it may be found again. -/
structure Names (e : Entity) (m q : String) : Prop where
  module : e.member? "__module__" = some (data (.text m))
  qualname : e.member? "__qualname__" = some (data (.text q))
  importable : isImportable q = true

/-- The path of an entity. A function or a type has that of its own names; a method of a type itself has the path of the
    type with its name behind it. -/
inductive OwnPath : Entity → String → Prop
  | ofNames {e : Entity} {m q : String} (hnamed : e.isNamed = true) (hnames : e.Names m q) : OwnPath e (m ++ ":" ++ q)
  | ofType {t : ObjectType} {r : Routine} {m q : String} (hnames : (type t).Names m q) :
    OwnPath (method (type t) r) (m ++ ":" ++ q ++ "." ++ r.name)

theorem names_of_routine {r : Routine} {m : String} (hm : r.module = some m) (hq : isImportable r.qualname = true) :
    (routine r).Names m r.qualname := by
  have hmodule : (routine r).member? "__module__" = some (data ((r.module.map Value.text).getD .null)) := by rfl
  have hqualname : (routine r).member? "__qualname__" = some (data (.text r.qualname)) := by rfl
  exact ⟨by rw [hmodule, hm]; rfl, hqualname, hq⟩

theorem member?_method {self : Entity} {r : Routine} {name : String} (h : (method self r).levels? name = none) :
    (method self r).member? name = (routine r).member? name := by
  simp only [member?, h]
  rfl

/-- A method has no names but those of its routine. -/
theorem names_of_method {self : Entity} {r : Routine} {m q : String} (h : (routine r).Names m q) :
    (method self r).Names m q where
  module := (member?_method (by rfl)).trans h.module
  qualname := (member?_method (by rfl)).trans h.qualname
  importable := h.importable

/-- A method of a type itself that was defined in the type has the path that its own names write. -/
theorem OwnPath.of_definedIn {t : ObjectType} {r : Routine} {m q : String} (hnames : (type t).Names m q)
    (hm : r.module = some m) (hq : r.qualname = q ++ "." ++ r.name) (himportable : isImportable r.qualname = true) :
    (method (type t) r).Names m r.qualname ∧ (method (type t) r).OwnPath (m ++ ":" ++ r.qualname) := by
  refine ⟨names_of_method (names_of_routine hm himportable), ?_⟩
  rw [hq, ← String.append_assoc, ← String.append_assoc]
  exact .ofType hnames

theorem Names.qualname_ne_empty {e : Entity} {m q : String} (h : e.Names m q) : q ≠ "" := by
  rintro rfl
  exact Bool.false_ne_true h.importable

theorem Names.importablePath {e : Entity} {m q : String} (h : e.Names m q) (hm : m ≠ "") :
    e.importablePath = .ok (m ++ ":" ++ q) := by
  have htruthy : (Value.text m).truthy = true := by simpa [Value.truthy] using hm
  simp only [Entity.importablePath, h.module, h.qualname, h.importable, htruthy, Bool.and_self, if_true]
  rfl

/-! ### Targets -/

theorem ne_empty_of_isPath {m q : String} (h : JobTarget.isPath (m ++ ":" ++ q) = true) : m ≠ "" := by
  rintro rfl
  simp [JobTarget.isPath, Text.cut] at h

section OwnPath
variable {c : Catalogue} {f : Entity} {path : String} (hown : f.OwnPath path) (hback : c.importPath path = .ok f)
include hown hback

theorem OwnPath.isPath : JobTarget.isPath path = true := by
  cases hown with
  | ofNames _ hnames => exact Catalogue.isPath_of_importPath hnames.qualname_ne_empty hback
  | @ofType t r m q hnames =>
    have hname : q ++ "." ++ r.name ≠ "" := by simp [hnames.qualname_ne_empty]
    have hassoc : m ++ ":" ++ q ++ "." ++ r.name = m ++ ":" ++ (q ++ "." ++ r.name) := by
      simp only [String.append_assoc]
    rw [hassoc] at hback ⊢
    exact Catalogue.isPath_of_importPath hname hback

/-- What its own path leads back to is captured under that path. -/
theorem OwnPath.toTarget : f.toTarget = .ok (.static path, []) := by
  have hpath := hown.isPath hback
  have htarget : JobTarget.ofFunction (.text path) = .ok (.static path) :=
    JobTarget.ofFunction_eq_ok.mpr ⟨path, rfl, hpath, rfl⟩
  rw [Entity.toTarget.eq_def]
  cases hown with
  | ofNames hnamed hnames =>
    have hm := ne_empty_of_isPath hpath
    split
    · cases hnamed
    · cases hnamed
    · cases hnamed
    · rw [if_pos hnamed, hnames.importablePath hm, Outcome.ok_bind, htarget, Outcome.ok_bind]
  | @ofType t r m q hnames =>
    have hm : m ≠ "" := ne_empty_of_isPath (q := q ++ "." ++ r.name) (by simpa only [String.append_assoc] using hpath)
    simp only [hnames.importablePath hm, htarget, Outcome.ok_bind]

end OwnPath

/-! ### Wrappers -/

/-- The arguments that a wrapper applies beforehand, by position and by name. -/
structure Layer where
  args : List Value
  named : List (String × Value)

/-- A wrapper is put around an entity, or it is merged with the one that is around it already. -/
def Wraps (l : Layer) (e e' : Entity) : Prop :=
  e' = applied e l.args l.named ∨ (Work.entity e).apply l.args l.named = .ok (.entity e')

/-- An entity with layers of wrappers around it, the innermost first. -/
inductive Wrapped (f : Entity) : List Layer → Entity → Prop
  | bare : Wrapped f [] f
  | wrap {layers : List Layer} {l : Layer} {e e' : Entity} (h : Wrapped f layers e) (hwraps : Wraps l e e') :
    Wrapped f (layers ++ [l]) e'

theorem toTarget_applied (e : Entity) (args : List Value) (named : List (String × Value)) :
    (applied e args named).toTarget =
      if named.isEmpty then e.toTarget >>= fun r => .ok (r.1, r.2 ++ args)
      else .error (.problem (.target .keywordArguments)) := by
  rw [toTarget.eq_def]

/-- A merged wrapper has the arguments of both, and arguments by name if one of them has any. -/
theorem Wraps.cases {l : Layer} {e e' : Entity} (h : Wraps l e e') : e' = applied e l.args l.named ∨
    ∃ e₀ before namedBefore all, e = applied e₀ before namedBefore ∧ e' = applied e₀ (before ++ l.args) all ∧
      all.isEmpty = (namedBefore.isEmpty && l.named.isEmpty) := by
  refine h.elim Or.inl fun happly => ?_
  unfold Work.apply at happly
  split at happly
  · rename_i e₀ before namedBefore heq
    cases heq
    cases happly
    refine Or.inr ⟨_, _, _, _, rfl, rfl, ?_⟩
    cases namedBefore with
    | nil => simp
    | cons n namedBefore => rfl
  · rename_i heq
    cases heq
    split at happly
    · cases happly
      exact Or.inl rfl
    · cases happly
  · rename_i heq
    cases heq

/-- A wrapper adds its arguments behind those of the target, and is refused for arguments by name. -/
theorem Wraps.toTarget {l : Layer} {e e' : Entity} (h : Wraps l e e') : e'.toTarget =
    if l.named.isEmpty then e.toTarget >>= fun r => .ok (r.1, r.2 ++ l.args)
    else .error (.problem (.target .keywordArguments)) := by
  obtain rfl | ⟨e₀, before, namedBefore, all, rfl, rfl, hall⟩ := h.cases
  · exact toTarget_applied e l.args l.named
  · rw [toTarget_applied, toTarget_applied, hall]
    cases namedBefore with
    | nil =>
      cases l.named with
      | nil =>
        simp only [List.isEmpty_nil, Bool.and_self, if_true, bind_assoc, Outcome.ok_bind, List.append_assoc]
      | cons n named => rfl
    | cons n namedBefore => cases l.named <;> rfl

/-- To call what a wrapper is around takes the arguments of the wrapper first. -/
theorem Wraps.call {l : Layer} {e e' : Entity} (h : Wraps l e e') (hnamed : l.named = []) (more : List Value) :
    e'.call more = e.call (l.args ++ more) := by
  obtain rfl | ⟨e₀, before, namedBefore, all, rfl, rfl, hall⟩ := h.cases
  · rw [call.eq_def, hnamed]
    rfl
  · rw [call.eq_def, call.eq_def (applied e₀ before namedBefore)]
    simp only [hall, hnamed, List.isEmpty_nil, Bool.and_true, List.append_assoc]

section Wrapped
variable {f e : Entity} {layers : List Layer} (h : f.Wrapped layers e)
include h

theorem Wrapped.toTarget_eq_ok {t : JobTarget} (hf : f.toTarget = .ok (t, [])) (hnamed : ∀ l ∈ layers, l.named = []) :
    e.toTarget = .ok (t, layers.flatMap Layer.args) := by
  induction h with
  | bare => exact hf
  | @wrap layers l e e' h hwraps ih =>
    rw [hwraps.toTarget, hnamed l (by simp), ih fun l hl => hnamed l (List.mem_append_left _ hl)]
    simp only [List.isEmpty_nil, if_true, Outcome.ok_bind, List.flatMap_append, List.flatMap_singleton]

/-- Arguments by name are refused in whichever wrapper they are. -/
theorem Wrapped.toTarget_eq_error (hnamed : ∃ l ∈ layers, l.named ≠ []) :
    e.toTarget = .error (.problem (.target .keywordArguments)) := by
  induction h with
  | bare => simp at hnamed
  | @wrap layers l e e' h hwraps ih =>
    rw [hwraps.toTarget]
    cases hl : l.named with
    | cons n named => rfl
    | nil =>
      obtain ⟨l', hl', hne⟩ := hnamed
      rcases List.mem_append.mp hl' with hl' | hl'
      · rw [ih ⟨l', hl', hne⟩]
        rfl
      · obtain rfl := List.mem_singleton.mp hl'
        exact absurd hl hne

theorem Wrapped.call (hnamed : ∀ l ∈ layers, l.named = []) (more : List Value) :
    e.call more = f.call (layers.flatMap Layer.args ++ more) := by
  induction h generalizing more with
  | bare => rfl
  | @wrap layers l e e' h hwraps ih =>
    rw [hwraps.call (hnamed l (by simp)), ih fun l hl => hnamed l (List.mem_append_left _ hl)]
    simp only [List.flatMap_append, List.flatMap_singleton, List.append_assoc]

end Wrapped
end Entity

/-! ### Calls -/

/-- The result of a definition is that of the call that its target and its arguments make. -/
theorem JobDefinition.run_eq (c : Catalogue) (resolver : Resolver) (d : JobDefinition) :
    d.run c resolver = (d.target.load c resolver >>= fun g => g.call d.args) >>= Entity.asValue := by
  unfold run
  rw [bind_assoc]

theorem perform_runPayload {σ : Type} {c : Catalogue} {resolver : Resolver} {payload : Value} {d : JobDefinition}
    (hd : JobDefinition.ofValue payload = .ok d) (p : Progress σ) :
    ((runPayload c resolver payload).perform p).1 =
      if Value.areWritable d.args then d.run c resolver else .error Value.overlong := by
  unfold runPayload
  simp only [Activity.perform_bind, Activity.perform_of, hd, Activity.perform_log, JobDefinition.describe_eq]
  cases Value.areWritable d.args <;> rfl

section Deferred
variable {c : Catalogue} {f e : Entity} {path : String} {layers : List Entity.Layer}

/-- What can be found again under its own path is called later as it would be called at once, whatever wrappers are around
    it: its arguments are those of the wrappers, from the innermost to the outermost, and then those of the call, and the
    result or the failure is that of the direct call. What runs a stored payload gives the same, as long as the arguments
    can be written. With arguments by name in any of the wrappers it is refused. -/
theorem deferred_call_eq (hown : f.OwnPath path) (hback : c.importPath path = .ok f) (hwrapped : f.Wrapped layers e)
    (args : List Value) (resolver : Resolver) :
    ((∀ l ∈ layers, l.named = []) → ∃ d d', (Work.entity e).capture args = .ok d ∧
        JobDefinition.ofValue d.toValue = .ok d' ∧
        (d'.target.load c resolver >>= fun g => g.call d'.args) = f.call (layers.flatMap (·.args) ++ args) ∧
        e.call args = f.call (layers.flatMap (·.args) ++ args) ∧
        ∀ (σ : Type) (p : Progress σ), ((runPayload c resolver d.toValue).perform p).1 =
          if Value.areWritable (layers.flatMap (·.args) ++ args) then
            f.call (layers.flatMap (·.args) ++ args) >>= Entity.asValue
          else .error Value.overlong) ∧
      ((∃ l ∈ layers, l.named ≠ []) →
        (Work.entity e).capture args = .error (.problem (.target .keywordArguments))) := by
  constructor
  · intro hnamed
    have htarget := hwrapped.toTarget_eq_ok (hown.toTarget hback) hnamed
    have hread : JobDefinition.ofValue (JobDefinition.toValue ⟨.static path, layers.flatMap (·.args) ++ args⟩) =
        .ok ⟨.static path, layers.flatMap (·.args) ++ args⟩ :=
      JobDefinition.ofValue_toValue (JobTarget.accepted_iff.mpr (hown.isPath hback))
    have hcall : ((JobTarget.static path).load c resolver >>= fun g => g.call (layers.flatMap (·.args) ++ args)) =
        f.call (layers.flatMap (·.args) ++ args) := by
      rw [JobTarget.load, hback, Outcome.ok_bind]
    refine ⟨_, _, ?_, hread, hcall, hwrapped.call hnamed args, fun σ p => ?_⟩
    · simp only [Work.capture, Work.toTarget, htarget, Outcome.ok_bind]
    · rw [perform_runPayload hread, JobDefinition.run_eq, hcall]
  · intro hnamed
    have htarget := hwrapped.toTarget_eq_error hnamed
    simp only [Work.capture, Work.toTarget, htarget, Outcome.error_bind]

end Deferred

/-- An echo gets what both wrappers hold before what the call gives, and is refused for an argument by name of the inner
    wrapper. -/
theorem deferred_call_eq_echo :
    (∃ d d', (Work.entity (.applied (.routine Shop.echo) [.int 1, .int 2] [])).capture [.int 3] = .ok d ∧
      JobDefinition.ofValue d.toValue = .ok d' ∧
      (d'.target.load Shop.catalogue [] >>= fun g => g.call d'.args) =
        .ok (.data (.list [.int 1, .int 2, .int 3]))) ∧
      (Work.entity (.applied (.applied (.routine Shop.echo) [] [("a", .int 1)]) [.int 2] [])).capture [.int 3] =
        .error (.problem (.target .keywordArguments)) := by
  have hown : (Entity.routine Shop.echo).OwnPath ("shop" ++ ":" ++ "echo") :=
    .ofNames rfl (Entity.names_of_routine rfl (by rfl))
  have hback : Shop.catalogue.importPath ("shop" ++ ":" ++ "echo") = .ok (.routine Shop.echo) := by rfl
  constructor
  · have hwrapped : (Entity.routine Shop.echo).Wrapped [⟨[.int 1], []⟩, ⟨[.int 2], []⟩]
        (.applied (.routine Shop.echo) [.int 1, .int 2] []) :=
      .wrap (.wrap .bare (Or.inl rfl)) (Or.inr (by rfl))
    obtain ⟨d, d', hd, hd', hcall, -⟩ := (deferred_call_eq hown hback hwrapped [.int 3] []).1 (by simp)
    exact ⟨d, d', hd, hd', hcall⟩
  · have hwrapped : (Entity.routine Shop.echo).Wrapped [⟨[], [("a", .int 1)]⟩, ⟨[.int 2], []⟩]
        (.applied (.applied (.routine Shop.echo) [] [("a", .int 1)]) [.int 2] []) :=
      .wrap (.wrap .bare (Or.inl rfl)) (Or.inl rfl)
    exact (deferred_call_eq hown hback hwrapped [.int 3] []).2 ⟨_, List.mem_cons_self, List.cons_ne_nil _ _⟩

end JobScheduling
