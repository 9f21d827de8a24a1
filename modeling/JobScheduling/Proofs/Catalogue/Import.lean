import JobScheduling.Catalogue.Shop
import JobScheduling.Proofs.Job.Restored
import JobScheduling.Proofs.Text.Split

/-! Imports along paths. A path is written as the name of a module, a colon, and names with points between them; it
    reaches what one comes to from the module through the members of these names, one after the other. Where the way
    breaks off because a module or a member is not there, the import is refused with an error about a job target that
    has this failure as its cause. Any other failure passes through, and there is one that no check of the path keeps
    out: a module name that begins with a point is relative, and there is no package that it could be relative to. -/

namespace JobScheduling
namespace Catalogue

variable {α : Type} {module : String → Outcome α} {member : α → String → Outcome α} {path : String}

/-! ### Written paths -/

/-- A path is written with a module name that holds no colon, and with names that hold no point. -/
structure Written (path moduleName : String) (names : List String) : Prop where
  text : path = moduleName ++ ":" ++ ".".intercalate names
  no_colon : ':' ∉ moduleName.toList
  some_name : names ≠ []
  no_point : ∀ name ∈ names, '.' ∉ name.toList

/-- The names behind the colon of a path. -/
def namesOf (path : String) : List String :=
  (Text.pieces '.' (JobTarget.splitPath path).2.toList).map String.ofList

theorem toList_names (texts : List (List Char)) :
    (".".intercalate (texts.map String.ofList)).toList = ['.'].intercalate texts := by
  have hid : (texts.map String.ofList).map String.toList = texts := by
    rw [List.map_map]
    exact (List.map_congr_left fun _ _ => String.toList_ofList).trans (List.map_id texts)
  rw [String.toList_intercalate, hid]
  rfl

/-- A path is written the way an import cuts it. -/
theorem written_splitPath (hpath : JobTarget.isPath path = true) :
    Written path (JobTarget.splitPath path).1 (namesOf path) := by
  unfold JobTarget.isPath at hpath
  rcases hcut : Text.cut ':' path.toList with ⟨m, _ | q⟩
  · rw [hcut] at hpath
    cases hpath
  · obtain ⟨htext, hcolon⟩ := Text.cut_eq_some hcut
    have hsplit : JobTarget.splitPath path = (String.ofList m, String.ofList q) := by
      rw [JobTarget.splitPath, hcut, Option.getD_some]
    have hnames : namesOf path = (Text.pieces '.' q).map String.ofList := by
      rw [namesOf, hsplit, String.toList_ofList]
    rw [hsplit, hnames]
    refine ⟨?_, by rwa [String.toList_ofList], by simp [Text.pieces_ne_nil], ?_⟩
    · rw [← String.toList_inj, String.toList_append, String.toList_append, toList_names, Text.intercalate_pieces,
        String.toList_ofList, htext]
      simp
    · intro name hname
      obtain ⟨t, ht, rfl⟩ := List.mem_map.mp hname
      rw [String.toList_ofList]
      exact Text.not_mem_of_mem_pieces ht

/-- A path is written in no other way. -/
theorem Written.eq_split {moduleName : String} {names : List String} (h : Written path moduleName names) :
    moduleName = (JobTarget.splitPath path).1 ∧ names = namesOf path := by
  obtain ⟨htext, hcolon, hne, hpoint⟩ := h
  have hchars : path.toList = moduleName.toList ++ ':' :: (".".intercalate names).toList := by
    rw [htext]
    simp
  have hsplit : JobTarget.splitPath path = (moduleName, ".".intercalate names) := by
    rw [JobTarget.splitPath, hchars, Text.cut_append _ hcolon, Option.getD_some, String.ofList_toList,
      String.ofList_toList]
  have hpieces : Text.pieces '.' (['.'].intercalate (names.map String.toList)) = names.map String.toList :=
    Text.pieces_intercalate (by simpa using hne) (by simpa using hpoint)
  have htoList : (".".intercalate names).toList = ['.'].intercalate (names.map String.toList) :=
    String.toList_intercalate
  refine ⟨congrArg Prod.fst hsplit.symm, ?_⟩
  rw [namesOf, hsplit, htoList, hpieces, List.map_map]
  exact ((List.map_congr_left fun _ _ => String.ofList_toList).trans (List.map_id names)).symm

/-! ### Ways -/

/-- From one entity to another through the members of the given names, one after the other. -/
inductive Leads (member : α → String → Outcome α) : α → List String → α → Prop
  | here (e : α) : Leads member e [] e
  | through {e m f : α} {name : String} {names : List String} (hmember : member e name = .ok m)
      (hrest : Leads member m names f) : Leads member e (name :: names) f

theorem foldlM_eq_ok {names : List String} {e f : α} : names.foldlM member e = .ok f ↔ Leads member e names f := by
  induction names generalizing e with
  | nil =>
    constructor
    · rintro ⟨⟩
      exact .here _
    · rintro ⟨⟩
      rfl
  | cons name names ih =>
    rw [List.foldlM_cons, Outcome.bind_eq_ok]
    constructor
    · rintro ⟨m, hmember, hrest⟩
      exact .through hmember (ih.mp hrest)
    · rintro (_ | ⟨hmember, hrest⟩)
      exact ⟨_, hmember, ih.mpr hrest⟩

/-- A way breaks off at the first name that has no member. -/
theorem foldlM_eq_error {names : List String} {e : α} {g : Fault} : names.foldlM member e = .error g ↔
    ∃ before name after f, names = before ++ name :: after ∧ Leads member e before f ∧ member f name = .error g := by
  induction names generalizing e with
  | nil =>
    refine iff_of_false (fun h => nomatch h) ?_
    rintro ⟨before, name, after, f, h, -⟩
    exact List.append_ne_nil_of_right_ne_nil before (List.cons_ne_nil name after) h.symm
  | cons first names ih =>
    rw [List.foldlM_cons, Outcome.bind_eq_error]
    constructor
    · rintro (h | ⟨m, hmember, hrest⟩)
      · exact ⟨[], first, names, e, rfl, .here e, h⟩
      · obtain ⟨before, name, after, f, rfl, hleads, h⟩ := ih.mp hrest
        exact ⟨first :: before, name, after, f, rfl, .through hmember hleads, h⟩
    · rintro ⟨before, name, after, f, hnames, hleads, h⟩
      cases hleads with
      | here =>
        obtain ⟨rfl, -⟩ := List.cons.inj hnames
        exact Or.inl h
      | through hmember hrest =>
        obtain ⟨rfl, hrestnames⟩ := List.cons.inj hnames
        exact Or.inr ⟨_, hmember, ih.mpr ⟨_, name, after, f, hrestnames, hrest, h⟩⟩

/-- A path reaches an entity: its names lead there from its module. -/
def Reached (module : String → Outcome α) (member : α → String → Outcome α) (path : String) (e : α) : Prop :=
  ∃ moduleName names m, Written path moduleName names ∧ module moduleName = .ok m ∧ Leads member m names e

/-- The module of a path fails. -/
def FailsAtModule (module : String → Outcome α) (path : String) (f : Fault) : Prop :=
  ∃ moduleName names, Written path moduleName names ∧ module moduleName = .error f

/-- A name of a path fails, those before it leading to an entity. -/
def FailsAtMember (module : String → Outcome α) (member : α → String → Outcome α) (path : String) (f : Fault) : Prop :=
  ∃ moduleName before name after m e, Written path moduleName (before ++ name :: after) ∧ module moduleName = .ok m ∧
    Leads member m before e ∧ member e name = .error f

/-! ### Imports -/

section Import
variable (hpath : JobTarget.isPath path = true)
include hpath

theorem reached_iff {e : α} : Reached module member path e ↔
    ∃ m, module (JobTarget.splitPath path).1 = .ok m ∧ Leads member m (namesOf path) e := by
  constructor
  · rintro ⟨moduleName, names, m, hwritten, hmodule, hleads⟩
    obtain ⟨hname, hnames⟩ := hwritten.eq_split
    exact ⟨m, hname ▸ hmodule, hnames ▸ hleads⟩
  · rintro ⟨m, hmodule, hleads⟩
    exact ⟨_, _, m, written_splitPath hpath, hmodule, hleads⟩

theorem failsAtModule_iff {f : Fault} :
    FailsAtModule module path f ↔ module (JobTarget.splitPath path).1 = .error f := by
  constructor
  · rintro ⟨moduleName, names, hwritten, hmodule⟩
    exact hwritten.eq_split.1 ▸ hmodule
  · intro hmodule
    exact ⟨_, _, written_splitPath hpath, hmodule⟩

theorem failsAtMember_iff {f : Fault} : FailsAtMember module member path f ↔
    ∃ m, module (JobTarget.splitPath path).1 = .ok m ∧ (namesOf path).foldlM member m = .error f := by
  constructor
  · rintro ⟨moduleName, before, name, after, m, e, hwritten, hmodule, hleads, hmember⟩
    obtain ⟨hname, hnames⟩ := hwritten.eq_split
    exact ⟨m, hname ▸ hmodule, foldlM_eq_error.mpr ⟨before, name, after, e, hnames.symm, hleads, hmember⟩⟩
  · rintro ⟨m, hmodule, hnames⟩
    obtain ⟨before, name, after, e, hnames, hleads, hmember⟩ := foldlM_eq_error.mp hnames
    exact ⟨_, before, name, after, m, e, hnames ▸ written_splitPath hpath, hmodule, hleads, hmember⟩

/-- An import ends with the entity that the path reaches. -/
theorem importThrough_eq_ok {e : α} : importThrough module member path = .ok e ↔ Reached module member path e := by
  simp only [reached_iff hpath, ← foldlM_eq_ok, ← Outcome.bind_eq_ok, importThrough, namesOf]
  split
  · rename_i hfound
    rw [hfound]
  · rename_i hfound
    rw [hfound]
    exact iff_of_false (fun h => nomatch h) (fun h => nomatch h)

/-- Or it ends with the failure at which the way breaks off, as the import passes it on. -/
theorem importThrough_eq_error {g : Fault} : importThrough module member path = .error g ↔
    ∃ f, (FailsAtModule module path f ∨ FailsAtMember module member path f) ∧ importFailure path f = g := by
  simp only [failsAtModule_iff hpath, failsAtMember_iff hpath, ← Outcome.bind_eq_error, importThrough, namesOf]
  split
  · rename_i hfound
    simp [hfound]
  · rename_i hfound
    simp [hfound]

end Import

/-! ### Imports that are answered -/

/-- An import is answered by the entity that the path reaches, or by an error of this library about a job target whose
    cause is the failure at which the way breaks off. -/
inductive Answered (module : String → Outcome α) (member : α → String → Outcome α) (path : String) : Outcome α → Prop
  | reached {e : α} (hreached : Reached module member path e) : Answered module member path (.ok e)
  | refused {p : Problem} {f : Fault} (hkind : p.kind = .serialization) (htype : p.payloadType? = some "job_target")
      (hcause : p.cause? = some f)
      (hfails : FailsAtModule module path f ∨ FailsAtMember module member path f) :
      Answered module member path (.error (.problem p))

/-- Modules are found the way of the import system: a name that begins with a point is relative and needs a package,
    which it is not given, and for any other but the empty one there is a module or it cannot be imported. -/
structure FindsModules (module : String → Outcome α) : Prop where
  relative : ∀ name, name.toList.head? = some '.' → ∃ t, module name = .error (.badType t)
  absolute : ∀ name, name ≠ "" → name.toList.head? ≠ some '.' → ∀ f, module name = .error f →
    (∃ t, f = .noModule t) ∨ ∃ t, f = .notImportable t

/-- Where no package is needed, a module can only be missing or not importable. -/
theorem FindsModules.isAbsence (hmodule : FindsModules module) {name : String} {f : Fault} (hne : name ≠ "")
    (habsolute : name.toList.head? ≠ some '.') (h : module name = .error f) : isAbsence f = true := by
  obtain ⟨t, rfl⟩ | ⟨t, rfl⟩ := hmodule.absolute name hne habsolute f h
  · rfl
  · rfl

/-- The modules of a catalogue are found so. -/
theorem findsModules (c : Catalogue) : FindsModules c.importModule where
  relative := by
    intro name hpoint
    have hne : name ≠ "" := by
      rintro rfl
      cases hpoint
    rw [importModule, if_neg hne, if_pos hpoint]
    exact ⟨_, rfl⟩
  absolute := by
    intro name hne hpoint f h
    rw [importModule, if_neg hne, if_neg hpoint] at h
    split at h
    · cases h
    · cases h
      exact Or.inl ⟨_, rfl⟩

/-- A member of an entity can only be missing. -/
theorem isAbsence_of_member {e : Entity} {name : String} {f : Fault} (h : e.member name = .error f) :
    isAbsence f = true := by
  unfold Entity.member Entity.notFound at h
  split at h
  · cases h
  · split at h <;> cases h <;> rfl

/-- No error is its own cause. -/
theorem cause_ne_self (p : Problem) : p.cause? ≠ some (.problem p) := by
  intro h
  cases p <;> cases h

section Answer
variable (hpath : JobTarget.isPath path = true)
include hpath

/-- A path is relative if its module is. -/
theorem head?_splitPath : (JobTarget.splitPath path).1 ≠ "" ∧
    (JobTarget.splitPath path).1.toList.head? = path.toList.head? := by
  unfold JobTarget.isPath at hpath
  rcases hcut : Text.cut ':' path.toList with ⟨_ | ⟨c, m⟩, _ | q⟩ <;> rw [hcut] at hpath
  · cases hpath
  · cases hpath
  · cases hpath
  · obtain ⟨htext, -⟩ := Text.cut_eq_some hcut
    have hsplit : (JobTarget.splitPath path).1 = String.ofList (c :: m) := by
      rw [JobTarget.splitPath, hcut]
    rw [hsplit, htext, String.toList_ofList]
    refine ⟨fun h => ?_, rfl⟩
    have := congrArg String.toList h
    rw [String.toList_ofList] at this
    cases this

theorem importThrough_of_relative (hmodule : FindsModules module) (hrelative : path.toList.head? = some '.') :
    ∃ t, importThrough module member path = .error (.badType t) := by
  obtain ⟨t, ht⟩ := hmodule.relative _ ((head?_splitPath hpath).2.trans hrelative)
  exact ⟨t, (importThrough_eq_error hpath).mpr ⟨_, Or.inl ((failsAtModule_iff hpath).mpr ht), rfl⟩⟩

theorem failsAtMember_unique {f g : Fault} (hf : FailsAtMember module member path f)
    (hg : FailsAtModule module path g ∨ FailsAtMember module member path g) : g = f := by
  obtain ⟨m, hm, hf⟩ := (failsAtMember_iff hpath).mp hf
  rcases hg with hg | hg
  · exact nomatch hm.symm.trans ((failsAtModule_iff hpath).mp hg)
  · obtain ⟨m', hm', hg⟩ := (failsAtMember_iff hpath).mp hg
    obtain rfl := Except.ok.inj (hm.symm.trans hm')
    exact Except.error.inj (hg.symm.trans hf)

/-- A failure that is no absence passes through, and is no answer. -/
theorem not_answered_of_failsAtMember {f : Fault} (hfails : FailsAtMember module member path f)
    (habsence : isAbsence f = false) : ¬Answered module member path (importThrough module member path) := by
  have hthrough : importThrough module member path = .error f :=
    (importThrough_eq_error hpath).mpr ⟨f, Or.inr hfails, by rw [importFailure, habsence, if_neg Bool.false_ne_true]⟩
  rw [hthrough]
  rintro (_ | ⟨-, -, hcause, hfails'⟩)
  obtain rfl := failsAtMember_unique hpath hfails hfails'
  exact cause_ne_self _ hcause

theorem answered_of_absences (hmodule : FindsModules module) (habsolute : path.toList.head? ≠ some '.')
    (habsences : ∀ f, FailsAtMember module member path f → isAbsence f = true) :
    Answered module member path (importThrough module member path) := by
  cases hfound : importThrough module member path with
  | ok e => exact .reached ((importThrough_eq_ok hpath).mp hfound)
  | error g =>
    obtain ⟨f, hfails, rfl⟩ := (importThrough_eq_error hpath).mp hfound
    have habsence : isAbsence f = true := by
      rcases hfails with hfails | hfails
      · obtain ⟨hne, hhead⟩ := head?_splitPath hpath
        rw [← hhead] at habsolute
        exact hmodule.isAbsence hne habsolute ((failsAtModule_iff hpath).mp hfails)
      · exact habsences f hfails
    rw [importFailure, habsence, if_pos rfl]
    exact .refused rfl rfl rfl hfails

end Answer

/-- The import of a path that a target may have ends with an entity exactly if the path reaches it. It is answered, by
    the entity or by the refusal of the path with the failure that it breaks off at, exactly if the path does not begin
    with a point and no member on the way fails but by its absence. A path that begins with a point fails as a value of
    the wrong type, which is no answer. -/
theorem importThrough_answered_iff {target : JobTarget} (hmodule : FindsModules module)
    (htarget : JobTarget.ofFunction (.text path) = .ok target) :
    (∀ e, importThrough module member path = .ok e ↔ Reached module member path e) ∧
      (Answered module member path (importThrough module member path) ↔
        path.toList.head? ≠ some '.' ∧ ∀ f, FailsAtMember module member path f → isAbsence f = true) ∧
      (path.toList.head? = some '.' → ∃ t, importThrough module member path = .error (.badType t)) := by
  obtain ⟨_, htext, hpath, -⟩ := JobTarget.ofFunction_eq_ok.mp htarget
  obtain rfl := Value.text.inj htext
  refine ⟨fun e => importThrough_eq_ok hpath, ⟨fun hanswered => ⟨fun hrelative => ?_, fun f hfails => ?_⟩, ?_⟩,
    importThrough_of_relative hpath hmodule⟩
  · obtain ⟨t, ht⟩ := importThrough_of_relative hpath hmodule hrelative
    rw [ht] at hanswered
    exact nomatch hanswered
  · by_contra habsence
    exact not_answered_of_failsAtMember hpath hfails (Bool.not_eq_true _ ▸ habsence) hanswered
  · rintro ⟨habsolute, habsences⟩
    exact answered_of_absences hpath hmodule habsolute habsences

/-- A relative path, and a path whose last name the type of the shop does not have. -/
theorem importThrough_answered_iff_shop :
    (JobTarget.ofFunction (.text ".rel:x") = .ok (.static ".rel:x") ∧
      ¬Answered Shop.catalogue.importModule Entity.member ".rel:x" (Shop.catalogue.importPath ".rel:x")) ∧
      JobTarget.ofFunction (.text "shop:Outer.missing") = .ok (.static "shop:Outer.missing") ∧
      Answered Shop.catalogue.importModule Entity.member "shop:Outer.missing"
        (Shop.catalogue.importPath "shop:Outer.missing") := by
  have hrelative : JobTarget.ofFunction (.text ".rel:x") = .ok (.static ".rel:x") := by rfl
  have hmissing : JobTarget.ofFunction (.text "shop:Outer.missing") = .ok (.static "shop:Outer.missing") := by rfl
  have hmodule := findsModules Shop.catalogue
  refine ⟨⟨hrelative, fun h => ((importThrough_answered_iff hmodule hrelative).2.1.mp h).1 (by decide)⟩, hmissing,
    (importThrough_answered_iff hmodule hmissing).2.1.mpr ⟨by decide, fun f hfails => ?_⟩⟩
  obtain ⟨_, _, _, _, _, _, -, -, -, hmember⟩ := hfails
  exact isAbsence_of_member hmember

end Catalogue
end JobScheduling
