import JobScheduling.Proofs.Outcome
import JobScheduling.Settings.Schema
import Mathlib.Data.List.Forall2

/-! Loading settings. The fields of a schema are read in their order, and the first that cannot be had decides: its
    variable is not set and it has no default, or the variable holds a text that writes no value of its type. Where
    every field has a value the check of the schema decides, and whatever goes wrong is an error about settings. -/

namespace JobScheduling
namespace SettingsSchema

/-! ### Conversion -/

/-- A text writes no value of a type. Truth values and numbers have to be written as such; any text writes a text, and
    the other types refuse none. -/
def Unwritten (raw : String) : SettingType → Prop
  | .bool => truth? raw = none
  | .int => Numeral.int? raw.toList = none
  | .float => Numeral.float? raw.toList = none
  | _ => False

/-- The text of a variable is converted, or it is refused under the name of the variable. -/
theorem convert_cases (name raw : String) (type : SettingType) :
    (¬Unwritten raw type ∧ ∃ v, convert name raw type = .ok v) ∨
      (Unwritten raw type ∧ ∃ reason cause,
        convert name raw type = .error (.problem (.invalidSetting name (.text raw) reason cause))) := by
  cases type with
  | bool =>
    cases htruth : truth? raw with
    | some b => exact Or.inl ⟨by simp [Unwritten, htruth], .bool b, by simp only [convert, htruth]⟩
    | none => exact Or.inr ⟨htruth, "expected a boolean", none, by simp only [convert, htruth]⟩
  | int =>
    cases hint : Numeral.int? raw.toList with
    | some n => exact Or.inl ⟨by simp [Unwritten, hint], .int n, by simp only [convert, hint]⟩
    | none =>
      refine Or.inr ⟨hint, "expected int", some (.badValue ("invalid int literal: " ++ Text.quoted raw)), ?_⟩
      simp only [convert, hint]
      rfl
  | float =>
    cases hfloat : Numeral.float? raw.toList with
    | some x => exact Or.inl ⟨by simp [Unwritten, hfloat], .float x, by simp only [convert, hfloat]⟩
    | none =>
      refine Or.inr ⟨hfloat, "expected float", some (.badValue ("invalid float literal: " ++ Text.quoted raw)), ?_⟩
      simp only [convert, hfloat]
      rfl
  | _ => exact Or.inl ⟨id, _, rfl⟩

/-! ### Fields -/

section Fields
variable (s : SettingsSchema) (e : Environment)

/-- The value that a field has: the one that its variable writes, or its default where the variable is not set. -/
inductive Gives (f : SettingField) : Value → Prop
  | read {raw : String} {v : Value} (hraw : e.get? (s.variableOf f) = some raw)
    (hv : convert (s.variableOf f) raw f.type = .ok v) : Gives f v
  | default {v : Value} (habsent : e.get? (s.variableOf f) = none) (hdefault : f.default? = some v) : Gives f v

/-- The error for which a field cannot be had. -/
inductive Refuses (f : SettingField) : Fault → Prop
  | missing (habsent : e.get? (s.variableOf f) = none) (hdefault : f.default? = none) :
    Refuses f (.problem (.missingSetting (s.variableOf f)))
  | unwritten {raw reason : String} {cause : Option Fault} (hraw : e.get? (s.variableOf f) = some raw)
    (hconvert : convert (s.variableOf f) raw f.type =
      .error (.problem (.invalidSetting (s.variableOf f) (.text raw) reason cause))) :
    Refuses f (.problem (.invalidSetting (s.variableOf f) (.text raw) reason cause))

/-- The variable of a field holds a text that writes a value of its type, or it is not set and the field has a
    default. -/
def Usable (f : SettingField) : Prop :=
  (∃ raw, e.get? (s.variableOf f) = some raw ∧ ¬Unwritten raw f.type) ∨
    (e.get? (s.variableOf f) = none ∧ f.default?.isSome = true)

end Fields

variable {s : SettingsSchema} {e : Environment} {f : SettingField}

theorem Usable.gives (h : s.Usable e f) : ∃ v, s.Gives e f v := by
  rcases h with ⟨raw, hraw, hwritten⟩ | ⟨habsent, hdefault⟩
  · rcases convert_cases (s.variableOf f) raw f.type with ⟨-, v, hv⟩ | ⟨hunwritten, -⟩
    · exact ⟨v, .read hraw hv⟩
    · exact absurd hunwritten hwritten
  · obtain ⟨v, hv⟩ := Option.isSome_iff_exists.mp hdefault
    exact ⟨v, .default habsent hv⟩

/-- A field has one value. -/
theorem Gives.unique {v w : Value} (hv : s.Gives e f v) (hw : s.Gives e f w) : v = w := by
  cases hv with
  | read hraw hv =>
    cases hw with
    | read hraw' hw =>
      cases hraw.symm.trans hraw'
      exact Except.ok.inj (hv.symm.trans hw)
    | default habsent => cases hraw.symm.trans habsent
  | default habsent hdefault =>
    cases hw with
    | read hraw => cases habsent.symm.trans hraw
    | default _ hdefault' => exact Option.some.inj (hdefault.symm.trans hdefault')

theorem refuses_of_not_usable (h : ¬s.Usable e f) : ∃ fault, s.Refuses e f fault := by
  cases hraw : e.get? (s.variableOf f) with
  | none =>
    cases hdefault : f.default? with
    | none => exact ⟨_, .missing hraw hdefault⟩
    | some v => exact absurd (Or.inr ⟨hraw, by simp [hdefault]⟩) h
  | some raw =>
    rcases convert_cases (s.variableOf f) raw f.type with ⟨hwritten, -⟩ | ⟨-, reason, cause, hconvert⟩
    · exact absurd (Or.inl ⟨raw, hraw, hwritten⟩) h
    · exact ⟨_, .unwritten hraw hconvert⟩

/-! ### Reading -/

theorem read_cons_of_gives {v : Value} (h : s.Gives e f v) (rest : List SettingField) :
    s.read e (f :: rest) = (s.read e rest >>= fun values => .ok ((f.name, v) :: values)) := by
  rw [read]
  cases h with
  | read hraw hv => simp only [hraw, hv, Outcome.ok_bind]
  | default habsent hdefault => simp only [habsent, hdefault, Outcome.ok_bind]

theorem read_cons_of_refuses {fault : Fault} (h : s.Refuses e f fault) (rest : List SettingField) :
    s.read e (f :: rest) = .error fault := by
  rw [read]
  cases h with
  | missing habsent hdefault => simp only [habsent, hdefault, Outcome.error_bind]
  | unwritten hraw hconvert => simp only [hraw, hconvert, Outcome.error_bind]

/-- Fields that can all be had are read, in their order. -/
theorem read_of_usable {fields : List SettingField} (h : ∀ f ∈ fields, s.Usable e f) :
    ∃ values, s.read e fields = .ok values ∧
      List.Forall₂ (fun f entry => entry.1 = f.name ∧ s.Gives e f entry.2) fields values := by
  induction fields with
  | nil => exact ⟨[], rfl, .nil⟩
  | cons f rest ih =>
    obtain ⟨hf, hrest⟩ := List.forall_mem_cons.mp h
    obtain ⟨v, hv⟩ := hf.gives
    obtain ⟨values, hread, hvalues⟩ := ih hrest
    exact ⟨(f.name, v) :: values, by rw [read_cons_of_gives hv, hread, Outcome.ok_bind], .cons ⟨rfl, hv⟩ hvalues⟩

/-- Behind fields that can be had, the first that cannot decides. -/
theorem read_of_first {before after : List SettingField} {fault : Fault} (hbefore : ∀ g ∈ before, s.Usable e g)
    (hf : s.Refuses e f fault) : s.read e (before ++ f :: after) = .error fault := by
  induction before with
  | nil => exact read_cons_of_refuses hf after
  | cons g before ih =>
    obtain ⟨hg, hbefore⟩ := List.forall_mem_cons.mp hbefore
    obtain ⟨v, hv⟩ := hg.gives
    rw [List.cons_append, read_cons_of_gives hv, ih hbefore, Outcome.error_bind]

/-- All of some fields can be had, or one of them is the first that cannot. -/
theorem usable_or_first (fields : List SettingField) : (∀ f ∈ fields, s.Usable e f) ∨
    ∃ before f after, fields = before ++ f :: after ∧ (∀ g ∈ before, s.Usable e g) ∧ ¬s.Usable e f := by
  induction fields with
  | nil => exact Or.inl (List.forall_mem_nil _)
  | cons g rest ih =>
    by_cases hg : s.Usable e g
    · rcases ih with hrest | ⟨before, f, after, rfl, hbefore, hf⟩
      · exact Or.inl (List.forall_mem_cons.mpr ⟨hg, hrest⟩)
      · exact Or.inr ⟨g :: before, f, after, rfl, List.forall_mem_cons.mpr ⟨hg, hbefore⟩, hf⟩
    · exact Or.inr ⟨[], g, rest, rfl, List.forall_mem_nil _, hg⟩

/-! ### Loading -/

theorem Refuses.isConfiguration {fault : Fault} (h : s.Refuses e f fault) : fault.isConfiguration = true := by
  cases h <;> rfl

theorem explained_of_ne_endless {fault : Fault} (h : fault ≠ .endless) :
    s.explained fault = if fault.isConfiguration then fault else .problem (.loading s.name fault) := by
  cases fault with
  | endless => exact absurd rfl h
  | _ => rfl

theorem explained_isConfiguration {fault : Fault} (h : fault ≠ .endless) : (s.explained fault).isConfiguration = true := by
  rw [explained_of_ne_endless h]
  split
  · assumption
  · rfl

theorem load_of_first {before after : List SettingField} {fault : Fault} (hfields : s.fields = before ++ f :: after)
    (hbefore : ∀ g ∈ before, s.Usable e g) (hf : s.Refuses e f fault) : s.load e = .error fault := by
  rw [load, hfields, read_of_first hbefore hf, Outcome.error_bind]

theorem load_of_read {values : List (String × Value)} (hread : s.read e s.fields = .ok values) :
    (s.check values = .ok () → s.load e = .ok values) ∧
      ∀ fault, s.check values = .error fault → s.load e = .error (s.explained fault) := by
  rw [load, hread, Outcome.ok_bind]
  constructor
  · intro hcheck
    rw [hcheck]
    rfl
  · intro fault hcheck
    rw [hcheck]
    rfl

/-- Settings are loaded, every field having its name and its value, or the failure is an error about settings, or the
    check never ends. -/
theorem load_cases (s : SettingsSchema) (e : Environment) :
    (∃ values, s.load e = .ok values ∧
        List.Forall₂ (fun f entry => entry.1 = f.name ∧ s.Gives e f entry.2) s.fields values) ∨
      (∃ fault, s.load e = .error fault ∧ fault.isConfiguration = true) ∨
      s.load e = .error .endless ∧ ∃ values, s.check values = .error .endless := by
  rcases usable_or_first s.fields with husable | ⟨before, f, after, hfields, hbefore, hf⟩
  · obtain ⟨values, hread, hvalues⟩ := read_of_usable husable
    obtain ⟨hok, herror⟩ := load_of_read hread
    cases hcheck : s.check values with
    | ok => exact Or.inl ⟨values, hok hcheck, hvalues⟩
    | error fault =>
      by_cases hendless : fault = .endless
      · subst hendless
        exact Or.inr (Or.inr ⟨herror _ hcheck, values, hcheck⟩)
      · exact Or.inr (Or.inl ⟨s.explained fault, herror fault hcheck, explained_isConfiguration hendless⟩)
  · obtain ⟨fault, hfault⟩ := refuses_of_not_usable hf
    exact Or.inr (Or.inl ⟨fault, load_of_first hfields hbefore hfault, hfault.isConfiguration⟩)

/-- The settings of a worker: the queue it serves, how many jobs it runs at once and the tags of those it takes. As yet
    it runs one at a time only. -/
def workerSchema : SettingsSchema where
  name := "WorkerSettings"
  lead := "worker"
  fields := [⟨"queue", .text, none⟩, ⟨"concurrency", .int, some (.int 4)⟩, ⟨"tags", .texts, some (.list [])⟩]
  check values := if values.any (·.2.integer? == some 1) then .ok () else .error (.assertion "one job at a time")

end SettingsSchema

end JobScheduling
