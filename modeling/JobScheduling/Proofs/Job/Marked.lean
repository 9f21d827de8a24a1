import JobScheduling.Job.Work
import JobScheduling.Proofs.Job.Restored
import JobScheduling.Proofs.Text.Split

/-! Names that nothing can be found by. An anonymous function and whatever is defined inside of a function are marked as
    such in their names, and nothing that goes by a marked name is to be captured. What is captured of a callable is
    made of three names, and only two are looked at: the qualified name of the function or the type and the method of
    a service. The module, and the name of a method of a type itself, are taken as they are; a module that cannot be
    written leaves no path to capture by. -/

namespace JobScheduling

theorem occurs_iff {part s : List Char} : occurs part s = true ↔ part <:+: s := by
  induction s with
  | nil => rw [occurs, List.isEmpty_iff, List.infix_nil]
  | cons c s ih => rw [occurs, Bool.or_eq_true, List.isPrefixOf_iff_prefix, ih, List.infix_cons_iff]

/-- The name is marked as the one of an anonymous function or of something inside of a function. -/
def IsMarked (name : String) : Prop :=
  "<lambda>".toList <:+: name.toList ∨ "<locals>".toList <:+: name.toList

theorem isImportable_iff {name : String} : isImportable name = true ↔ name ≠ "" ∧ ¬IsMarked name := by
  simp [isImportable, IsMarked, ← occurs_iff, and_assoc]

/-- The marks hold no point and no colon, so a name that is put together is marked where a part of it is. -/
theorem isMarked_append (sep : Char) (hlambda : sep ∉ "<lambda>".toList) (hlocals : sep ∉ "<locals>".toList)
    {s t joined : String} (hjoined : joined.toList = s.toList ++ sep :: t.toList) :
    IsMarked joined ↔ IsMarked s ∨ IsMarked t := by
  unfold IsMarked
  rw [hjoined, Text.infix_append_cons_iff hlambda, Text.infix_append_cons_iff hlocals]
  exact or_or_or_comm

theorem isMarked_path {m q : String} : IsMarked (m ++ ":" ++ q) ↔ IsMarked m ∨ IsMarked q :=
  isMarked_append ':' (by decide) (by decide) (by simp)

theorem isMarked_member {path name : String} : IsMarked (path ++ "." ++ name) ↔ IsMarked path ∨ IsMarked name :=
  isMarked_append '.' (by decide) (by decide) (by simp)

/-- No identifier is marked. -/
theorem not_isMarked_of_isIdentifier {name : String} (h : Text.isIdentifier name.toList = true) : ¬IsMarked name := by
  have hangle : '<' ∉ name.toList := fun hmem => absurd (Text.isIdentifierRest_of_mem h hmem) (by decide +kernel)
  rintro (hmark | hmark)
  · exact hangle (hmark.subset (by decide))
  · exact hangle (hmark.subset (by decide))

/-! ### Refusals -/

/-- The failure is the refusal of a unit of work. -/
def Fault.IsRefusal (f : Fault) : Prop := ∃ flaw, f = .problem (.target flaw)

namespace JobTarget

open Outcome

/-- The path of a target. -/
def path : JobTarget → String
  | static path => path
  | service path _ => path

/-- The method of a target, if it is one of a service. -/
def method? : JobTarget → Option String
  | static _ => none
  | service _ method => some method

theorem pathOf_text_failsAs (path : String) : (pathOf (.text path)).FailsAs Fault.IsRefusal := by
  unfold pathOf
  dsimp only
  split
  · exact failsAs_ok _
  · exact failsAs_error.mpr ⟨_, rfl⟩

theorem methodOf_text_failsAs (method : String) : (methodOf (.text method)).FailsAs Fault.IsRefusal := by
  unfold methodOf
  split
  · exact failsAs_error.mpr ⟨_, rfl⟩
  · dsimp only
    split
    · exact failsAs_ok _
    · exact failsAs_error.mpr ⟨_, rfl⟩

theorem ofFunction_text_failsAs (path : String) : (ofFunction (.text path)).FailsAs Fault.IsRefusal :=
  FailsAs.bind (pathOf_text_failsAs path) fun _ => failsAs_ok _

theorem ofMethod_text_failsAs (path method : String) :
    (ofMethod (.text path) (.text method)).FailsAs Fault.IsRefusal :=
  FailsAs.bind (pathOf_text_failsAs path) fun _ => FailsAs.bind (methodOf_text_failsAs method) fun _ => failsAs_ok _

end JobTarget

namespace Entity

open Outcome

/-- The module and the qualified name that an entity gives of itself. -/
structure Bears (e : Entity) (m : Value) (q : String) : Prop where
  module : e.member? "__module__" = some (data m)
  qualname : e.member? "__qualname__" = some (data (.text q))

/-- A function has the qualified name that it was made with. -/
theorem qualname_routine (r : Routine) : (routine r).member? "__qualname__" = some (data (.text r.qualname)) := by rfl

/-- The failure to capture by the names of an entity is a refusal, unless its module cannot be written. -/
def Refuses (e : Entity) (f : Fault) : Prop :=
  f.IsRefusal ∨ f = Value.overlong ∧ ∃ m q, e.Bears m q ∧ ¬IsMarked q ∧ m.isWritable = false

theorem importablePath_eq_ok {e : Entity} {path : String} (h : e.importablePath = .ok path) :
    ∃ m q, e.Bears m q ∧ ¬IsMarked q ∧ path = m.plain ++ ":" ++ q := by
  unfold importablePath at h
  extract_lets refused at h
  have hrefused : refused ≠ .ok path := by
    intro h
    obtain ⟨_, -, h⟩ := Outcome.bind_eq_ok.mp h
    cases h
  split at h
  · rename_i m q hm hq
    split at h
    · rename_i htaken
      obtain ⟨written, hwritten, h⟩ := Outcome.bind_eq_ok.mp h
      cases h
      have hplain : m.printed = .ok m.plain := by
        cases hm' : m.isWritable with
        | true => exact Value.printed_of_isWritable hm'
        | false =>
          rw [Value.printed_of_not hm'] at hwritten
          cases hwritten
      cases hplain.symm.trans hwritten
      exact ⟨m, q, ⟨hm, hq⟩, (isImportable_iff.mp (Bool.and_eq_true_iff.mp htaken).2).2, rfl⟩
    · exact absurd h hrefused
  · exact absurd h hrefused

theorem importablePath_failsAs {e : Entity} {s : String} (hshown : e.shown = .ok s) :
    e.importablePath.FailsAs e.Refuses := by
  unfold importablePath
  extract_lets refused
  have hrefused : refused.FailsAs e.Refuses := by
    simp only [refused, hshown, Outcome.ok_bind]
    exact failsAs_error.mpr (Or.inl ⟨_, rfl⟩)
  split
  · rename_i m q hm hq
    split
    · rename_i htaken
      cases hwritable : m.isWritable with
      | true =>
        rw [Value.printed_of_isWritable hwritable]
        exact failsAs_ok _
      | false =>
        rw [Value.printed_of_not hwritable]
        have hmark := (isImportable_iff.mp (Bool.and_eq_true_iff.mp htaken).2).2
        exact failsAs_error.mpr (Or.inr ⟨rfl, m, q, ⟨hm, hq⟩, hmark, hwritable⟩)
    · exact hrefused
  · exact hrefused

/-- What is captured by its own path is shown by its own name. -/
theorem shown_of_isNamed {e : Entity} (h : e.isNamed = true) : ∃ s, e.shown = .ok s := by
  cases e with
  | routine _ | type _ | function _ _ _ | bound _ _ _ _ => exact ⟨_, rfl⟩
  | _ => cases h

end Entity

/-! ### Methods of services -/

namespace ObjectType

open Outcome

theorem serviceMethod_eq_ok {t : ObjectType} {name : String} {target : JobTarget}
    (h : t.serviceMethod (.text name) = .ok target) : ∃ path, (Entity.type t).importablePath = .ok path ∧
      target = .service path name ∧ ¬IsMarked name := by
  unfold serviceMethod at h
  dsimp only at h
  split at h
  · obtain ⟨path, hpath, h⟩ := Outcome.bind_eq_ok.mp h
    obtain ⟨path', method, hp, -, hm, hidentifier, rfl⟩ := JobTarget.ofMethod_eq_ok.mp h
    cases hp
    cases hm
    exact ⟨path, hpath, rfl, not_isMarked_of_isIdentifier hidentifier⟩
  · cases h

theorem serviceMethod_failsAs (t : ObjectType) (name : String) :
    (t.serviceMethod (.text name)).FailsAs (Entity.type t).Refuses := by
  unfold serviceMethod
  dsimp only
  split
  · exact FailsAs.bind (Entity.importablePath_failsAs rfl) fun _ f hf =>
      Or.inl (JobTarget.ofMethod_text_failsAs _ _ f hf)
  · exact failsAs_error.mpr (Or.inl ⟨_, rfl⟩)

end ObjectType

/-! ### Callables -/

namespace Entity

open Outcome

/-- What is called in the end, without the arguments that are applied beforehand. -/
def core : Entity → Entity
  | applied e _ _ => e.core
  | e => e

/-- The function or the type whose names a callable is captured by. A method of a type itself is captured by the type,
    and a method of an object, as the object itself, by the type of the object. -/
def bearer : Entity → Entity
  | method (type t) _ => type t
  | method self _ => type self.typeOf
  | e => if e.isNamed then e else type e.typeOf

/-- What can be called, and the same with arguments applied to it by position. -/
inductive Positional : Entity → Prop
  | plain {e : Entity} (hcallable : e.callable = true) (hplain : ∀ e' args named, e ≠ applied e' args named) :
    Positional e
  | applied {e : Entity} (he : Positional e) (args : List Value) : Positional (applied e args [])

theorem core_of_plain {e : Entity} (hplain : ∀ e' args named, e ≠ applied e' args named) : e.core = e := by
  cases e with
  | applied e' args named => exact absurd rfl (hplain e' args named)
  | _ => rfl

theorem bearer_of_isNamed {e : Entity} (h : e.isNamed = true) : e.bearer = e := by
  cases e with
  | routine _ | type _ | function _ _ _ => rfl
  | bound _ _ _ _ => exact if_pos h
  | _ => cases h

theorem bearer_method {self : Entity} (hself : ∀ t, self ≠ type t) (r : Routine) :
    (method self r).bearer = type self.typeOf := by
  cases self with
  | type t => exact absurd rfl (hself t)
  | _ => rfl

theorem bearer_object {e : Entity} (hmethod : ∀ self r, e ≠ method self r) (hnamed : e.isNamed = false) :
    e.bearer = type e.typeOf := by
  cases e with
  | method self r => exact absurd rfl (hmethod self r)
  | bound _ _ _ _ => exact if_neg (Bool.eq_false_iff.mp hnamed)
  | _ => first | rfl | cases hnamed

/-- A callable is captured as a target, or refused for the names of what bears them. -/
theorem Positional.toTarget_failsAs {e : Entity} (he : e.Positional) : e.toTarget.FailsAs e.core.bearer.Refuses := by
  induction he with
  | @plain e hcallable hplain =>
    rw [core_of_plain hplain, toTarget.eq_def]
    split
    · exact absurd rfl (hplain _ _ _)
    · exact FailsAs.bind (importablePath_failsAs rfl) fun _ =>
        FailsAs.bind (fun f hf => Or.inl (JobTarget.ofFunction_text_failsAs _ f hf)) fun _ => failsAs_ok _
    · rename_i hself
      rw [bearer_method hself]
      exact FailsAs.bind (ObjectType.serviceMethod_failsAs _ _) fun _ => failsAs_ok _
    · split
      · rename_i hnamed
        rw [bearer_of_isNamed hnamed]
        obtain ⟨s, hshown⟩ := shown_of_isNamed hnamed
        exact FailsAs.bind (importablePath_failsAs hshown) fun _ =>
          FailsAs.bind (fun f hf => Or.inl (JobTarget.ofFunction_text_failsAs _ f hf)) fun _ => failsAs_ok _
      · rename_i hmethod hnamed
        rw [bearer_object hmethod (Bool.eq_false_iff.mpr hnamed)]
        exact FailsAs.bind (ObjectType.serviceMethod_failsAs _ _) fun _ => failsAs_ok _
  | applied he args ih =>
    rw [toTarget.eq_def]
    exact FailsAs.bind ih fun _ => failsAs_ok _

/-- A callable is captured as a target whose names come from it: its own, those of the type of an object, or those of a
    type with the name of the method behind them. -/
inductive CapturedAs : Entity → JobTarget → Prop
  | ofNames {e : Entity} {m : Value} {q : String} (hnamed : e.isNamed = true) (hbears : e.Bears m q)
      (hq : ¬IsMarked q) : CapturedAs e (.static (m.plain ++ ":" ++ q))
  | ofType {t : ObjectType} {r : Routine} {m : Value} {q : String} (hbears : (type t).Bears m q) (hq : ¬IsMarked q) :
    CapturedAs (method (type t) r) (.static (m.plain ++ ":" ++ q ++ "." ++ r.name))
  | ofMethod {self : Entity} {r : Routine} {m : Value} {q : String} (hself : ∀ t, self ≠ type t)
      (hbears : (type self.typeOf).Bears m q) (hq : ¬IsMarked q) (hname : ¬IsMarked r.name) :
    CapturedAs (method self r) (.service (m.plain ++ ":" ++ q) r.name)
  | ofObject {e : Entity} {m : Value} {q : String} (hmethod : ∀ self r, e ≠ method self r) (hnamed : e.isNamed = false)
      (hbears : (type e.typeOf).Bears m q) (hq : ¬IsMarked q) :
    CapturedAs e (.service (m.plain ++ ":" ++ q) "__call__")

theorem Positional.capturedAs {e : Entity} (he : e.Positional) {t : JobTarget} {bound : List Value}
    (h : e.toTarget = .ok (t, bound)) : CapturedAs e.core t := by
  induction he generalizing bound with
  | @plain e hcallable hplain =>
    rw [core_of_plain hplain]
    rw [toTarget.eq_def] at h
    split at h
    · exact absurd rfl (hplain _ _ _)
    · obtain ⟨path, hpath, h⟩ := Outcome.bind_eq_ok.mp h
      obtain ⟨target, htarget, h⟩ := Outcome.bind_eq_ok.mp h
      obtain ⟨_, hp, -, rfl⟩ := JobTarget.ofFunction_eq_ok.mp htarget
      cases hp
      cases h
      obtain ⟨m, q, hbears, hq, rfl⟩ := importablePath_eq_ok hpath
      exact .ofType hbears hq
    · rename_i hself
      obtain ⟨target, htarget, h⟩ := Outcome.bind_eq_ok.mp h
      cases h
      obtain ⟨path, hpath, rfl, hname⟩ := ObjectType.serviceMethod_eq_ok htarget
      obtain ⟨m, q, hbears, hq, rfl⟩ := importablePath_eq_ok hpath
      exact .ofMethod hself hbears hq hname
    · split at h
      · rename_i hnamed
        obtain ⟨path, hpath, h⟩ := Outcome.bind_eq_ok.mp h
        obtain ⟨target, htarget, h⟩ := Outcome.bind_eq_ok.mp h
        obtain ⟨_, hp, -, rfl⟩ := JobTarget.ofFunction_eq_ok.mp htarget
        cases hp
        cases h
        obtain ⟨m, q, hbears, hq, rfl⟩ := importablePath_eq_ok hpath
        exact .ofNames hnamed hbears hq
      · rename_i hmethod hnamed
        obtain ⟨target, htarget, h⟩ := Outcome.bind_eq_ok.mp h
        cases h
        obtain ⟨path, hpath, rfl, -⟩ := ObjectType.serviceMethod_eq_ok htarget
        obtain ⟨m, q, hbears, hq, rfl⟩ := importablePath_eq_ok hpath
        exact .ofObject hmethod (Bool.not_eq_true _ ▸ hnamed) hbears hq
  | applied he args ih =>
    rw [toTarget.eq_def] at h
    obtain ⟨_, hinner, h⟩ := Outcome.bind_eq_ok.mp h
    cases h
    exact ih hinner

variable {e : Entity} {t : JobTarget}

/-- No callable is captured whose qualified name is marked, or by a marked method of a service. The path is marked only
    where the module is, or the name of a method of a type itself. -/
theorem CapturedAs.names (h : CapturedAs e t) : ∃ m q, e.bearer.Bears m q ∧ ¬IsMarked q ∧
    (∀ method, t.method? = some method → ¬IsMarked method) ∧
    (∀ self r, e = method self r → (∀ u, self ≠ type u) → ¬IsMarked r.name) ∧
    (IsMarked t.path ↔ IsMarked m.plain ∨ ∃ u r, e = method (type u) r ∧ IsMarked r.name) := by
  cases h with
  | @ofNames _ m q hnamed hbears hq =>
    have hmethod : ∀ self r, e ≠ method self r := by
      rintro self r rfl
      cases hnamed
    refine ⟨m, q, (bearer_of_isNamed hnamed).symm ▸ hbears, hq, nofun, fun self r he => absurd he (hmethod self r), ?_⟩
    simp [JobTarget.path, isMarked_path, hq, hmethod]
  | @ofType u r m q hbears hq =>
    refine ⟨m, q, hbears, hq, nofun, fun self r' he hself => ?_, ?_⟩
    · obtain ⟨rfl, -⟩ := method.inj he
      exact absurd rfl (hself u)
    · simp [JobTarget.path, isMarked_member, isMarked_path, hq]
  | @ofMethod self r m q hself hbears hq hname =>
    refine ⟨m, q, (bearer_method hself r).symm ▸ hbears, hq, ?_, fun self' r' he _ => ?_, ?_⟩
    · rintro _ ⟨⟩
      exact hname
    · obtain ⟨-, rfl⟩ := method.inj he
      exact hname
    · simp [JobTarget.path, isMarked_path, hq, hself]
  | @ofObject _ m q hmethod hnamed hbears hq =>
    refine ⟨m, q, (bearer_object hmethod hnamed).symm ▸ hbears, hq, ?_, fun self r he => absurd he (hmethod self r), ?_⟩
    · rintro _ ⟨⟩
      exact not_isMarked_of_isIdentifier (by decide +kernel)
    · simp [JobTarget.path, isMarked_path, hq, hmethod]

end Entity

/-! ### Capturing -/

namespace Work

open Entity

theorem capture_eq_ok {e : Entity} {args : List Value} {d : JobDefinition} (h : (entity e).capture args = .ok d) :
    ∃ bound, e.toTarget = .ok (d.target, bound) := by
  obtain ⟨r, hr, h⟩ := Outcome.bind_eq_ok.mp h
  cases h
  exact ⟨r.2, hr⟩

theorem capture_failsAs {e : Entity} (he : e.Positional) (args : List Value) :
    ((entity e).capture args).FailsAs e.core.bearer.Refuses :=
  Outcome.FailsAs.bind he.toTarget_failsAs fun _ => Outcome.failsAs_ok _

/-- What is captured of a callable, whatever arguments are applied to it by position, has no marked method, and its path
    is marked exactly if the module is or the callable is a method of a type itself with a marked name. A callable
    whose function or type has a marked qualified name is refused, and so is a method of an object with a marked
    name, unless the module of its type cannot be written. -/
theorem capture_marked_iff {e : Entity} (he : e.Positional) (args : List Value) :
    (∀ d, (entity e).capture args = .ok d → ∃ m q, e.core.bearer.Bears m q ∧
      (∀ method, d.target.method? = some method → ¬IsMarked method) ∧
      (IsMarked d.target.path ↔ IsMarked m.plain ∨ ∃ t r, e.core = method (type t) r ∧ IsMarked r.name)) ∧
    ((∃ q, e.core.bearer.member? "__qualname__" = some (data (.text q)) ∧ IsMarked q) →
      ∃ flaw, (entity e).capture args = .error (.problem (.target flaw))) ∧
    ((∃ self r, e.core = method self r ∧ (∀ t, self ≠ type t) ∧ IsMarked r.name) →
      (∃ flaw, (entity e).capture args = .error (.problem (.target flaw))) ∨
        (entity e).capture args = .error Value.overlong ∧
          ∃ m q, e.core.bearer.Bears m q ∧ ¬IsMarked q ∧ m.isWritable = false) := by
  refine ⟨fun d hd => ?_, fun ⟨q', hq', hmark⟩ => ?_, fun ⟨self, r, hcore, hself, hmark⟩ => ?_⟩
  · obtain ⟨bound, htarget⟩ := capture_eq_ok hd
    obtain ⟨m, q, hbears, -, hmethod, -, hpath⟩ := (he.capturedAs htarget).names
    exact ⟨m, q, hbears, hmethod, hpath⟩
  · cases hcapture : (entity e).capture args with
    | error f =>
      rcases capture_failsAs he args f hcapture with ⟨flaw, rfl⟩ | ⟨-, m, q, hbears, hq, -⟩
      · exact ⟨flaw, rfl⟩
      · cases hbears.qualname.symm.trans hq'
        exact absurd hmark hq
    | ok d =>
      obtain ⟨bound, htarget⟩ := capture_eq_ok hcapture
      obtain ⟨m, q, hbears, hq, -, -, -⟩ := (he.capturedAs htarget).names
      cases hbears.qualname.symm.trans hq'
      exact absurd hmark hq
  · cases hcapture : (entity e).capture args with
    | error f =>
      rcases capture_failsAs he args f hcapture with ⟨flaw, rfl⟩ | ⟨rfl, hmodule⟩
      · exact Or.inl ⟨flaw, rfl⟩
      · exact Or.inr ⟨rfl, hmodule⟩
    | ok d =>
      obtain ⟨bound, htarget⟩ := capture_eq_ok hcapture
      obtain ⟨m, q, -, -, -, hname, -⟩ := (he.capturedAs htarget).names
      exact absurd hmark (hname self r hcore hself)

/-- An anonymous function that a type keeps as a method of its own. -/
def anonymous : Routine := { module := some "app.jobs", qualname := "Jobs.<lambda>", name := "<lambda>" }

/-- The type that keeps it, under the name `clean`. -/
def jobsType : ObjectType :=
  .defined { module := some "app.jobs", qualname := "Jobs", members := [("clean", .routine .type anonymous)] }

/-- As a method of the type it is captured under a marked path; by itself it is refused, with an argument too. -/
theorem capture_marked_iff_anonymous :
    (∃ d, (entity (method (type jobsType) anonymous)).capture [] = .ok d ∧ IsMarked d.target.path) ∧
    ∃ flaw, (entity (applied (routine anonymous) [.int 1] [])).capture [] = .error (.problem (.target flaw)) := by
  have hmark : IsMarked "<lambda>" := Or.inl List.infix_rfl
  constructor
  · have hmethod : (method (type jobsType) anonymous).Positional := .plain rfl nofun
    have hcapture : (entity (method (type jobsType) anonymous)).capture [] =
      .ok ⟨.static "app.jobs:Jobs.<lambda>", []⟩ := by rfl
    obtain ⟨m, q, -, -, hpath⟩ := (capture_marked_iff hmethod []).1 _ hcapture
    exact ⟨_, hcapture, hpath.mpr (Or.inr ⟨jobsType, anonymous, rfl, hmark⟩)⟩
  · have hfunction : (routine anonymous).Positional := .plain rfl nofun
    have hqualname : IsMarked "Jobs.<lambda>" := Or.inl ⟨"Jobs.".toList, [], by decide⟩
    exact (capture_marked_iff (hfunction.applied [.int 1]) []).2.1
      ⟨"Jobs.<lambda>", qualname_routine anonymous, hqualname⟩

end Work
end JobScheduling
