import JobScheduling.Job.Definition
import JobScheduling.Proofs.Value.Access

/-! What reading a payload can come to. Whatever a payload holds, a target or a definition is read from it or it is
    refused as a payload, with two exceptions. The method of a service is asked whether it is an identifier before it
    is known to be a text, so a method that is something true and no text fails with the failure of asking. And a
    refusal shows the payload, or the kind of target that is unknown, so it fails where that cannot be written. -/

namespace JobScheduling

namespace Outcome
variable {α : Type} {x : Outcome α}

/-- An outcome is a value or the refusal of a payload. -/
def ReadOrRefused (x : Outcome α) : Prop := (∃ a, x = .ok a) ∨ ∃ p, x = .error (.problem p) ∧ p.kind = .serialization

theorem not_readOrRefused {f : Fault} (hf : ∀ p, f ≠ .problem p) (h : x = .error f) : ¬x.ReadOrRefused := by
  rintro (⟨a, ha⟩ | ⟨p, hp, -⟩)
  · cases h.symm.trans ha
  · exact hf p (Except.error.inj (h.symm.trans hp))

theorem readOrRefused_error {p : Problem} (hp : p.kind = .serialization) :
    ReadOrRefused (α := α) (.error (.problem p)) := Or.inr ⟨p, rfl, hp⟩

end Outcome

open Outcome

namespace JobTarget

variable {payload : Value}

/-! ### What a payload may hold -/

/-- The payload holds the parts of a target under their names. -/
inductive Holds (payload : Value) : JobTarget → Prop
  | static {path : String} (hkind : payload.entry "kind" = .ok (.text "static"))
      (hfunction : payload.entry "function" = .ok (.text path)) (hpath : isPath path = true) : Holds payload (.static path)
  | service {path method : String} (hkind : payload.entry "kind" = .ok (.text "service"))
      (hservice : payload.entry "service" = .ok (.text path)) (hpath : isPath path = true)
      (hmethod : payload.entry "method" = .ok (.text method)) (hidentifier : Text.isIdentifier method.toList = true) :
    Holds payload (.service path method)

/-- The payload gives a kind that is none of the two that are known. -/
def HasUnknownKind (payload kind : Value) : Prop :=
  payload.entry "kind" = .ok kind ∧ kind ≠ .text "static" ∧ kind ≠ .text "service"

/-- What is given for a method is true and no text. -/
def IsNoText (method : Value) : Prop := method.truthy = true ∧ ∀ s, method ≠ .text s

/-- The payload is one of a service with a path, and what it gives for the method is true and no text. -/
def MethodIsNoText (payload : Value) : Prop :=
  ∃ path method, payload.entry "kind" = .ok (.text "service") ∧ payload.entry "service" = .ok (.text path) ∧
    isPath path = true ∧ payload.entry "method" = .ok method ∧ IsNoText method

/-- What a refusal would show cannot be written: an unknown kind, or the whole of a payload that gives no unknown kind and
    holds no target. -/
def CannotBeShown (payload : Value) : Prop :=
  (∃ kind, HasUnknownKind payload kind ∧ kind.isWritable = false) ∨
    (∀ kind, ¬HasUnknownKind payload kind) ∧ (∀ t, ¬Holds payload t) ∧ payload.isWritable = false

/-! ### Paths and methods -/

theorem pathOf_eq_ok {v : Value} {path : String} : pathOf v = .ok path ↔ v = .text path ∧ isPath path = true := by
  constructor
  · intro h
    unfold pathOf at h
    split at h
    · split at h <;> cases h
      exact ⟨rfl, by assumption⟩
    · obtain ⟨_, -, h⟩ := Outcome.bind_eq_ok.mp h
      cases h
  · rintro ⟨rfl, hpath⟩
    simp only [pathOf, hpath, if_true]

theorem methodOf_eq_ok {v : Value} {method : String} :
    methodOf v = .ok method ↔ v = .text method ∧ Text.isIdentifier method.toList = true := by
  unfold methodOf
  constructor
  · intro h
    split at h
    · obtain ⟨_, -, h⟩ := Outcome.bind_eq_ok.mp h
      cases h
    · split at h
      · split at h
        · rename_i hidentifier
          cases h
          exact ⟨rfl, hidentifier⟩
        · cases h
      · cases h
  · rintro ⟨rfl, hidentifier⟩
    -- No identifier is empty, so its text counts as true.
    have htruthy : (Value.text method).truthy = true := by
      simp only [Value.truthy, bne_iff_ne]
      rintro rfl
      cases hidentifier
    simp [htruthy, hidentifier]

/-- A failure to read a part makes its payload malformed, or what was read cannot be written into the failure. -/
def IsPartial (v : Value) (f : Fault) : Prop :=
  isMalformation f = true ∨ f = Value.overlong ∧ v.isWritable = false

theorem pathOf_error {v : Value} {f : Fault} (h : pathOf v = .error f) : IsPartial v f := by
  unfold pathOf at h
  split at h
  · split at h <;> cases h
    exact Or.inl rfl
  · cases hv : v.isWritable with
    | true =>
      rw [Value.shown_of_isWritable hv] at h
      cases h
      exact Or.inl rfl
    | false =>
      rw [Value.shown_of_not hv] at h
      cases h
      exact Or.inr ⟨rfl, hv⟩

theorem methodOf_error {v : Value} {f : Fault} (h : methodOf v = .error f) : isMalformation f = true ∨ IsNoText v := by
  unfold methodOf at h
  split at h
  · rename_i hfalse
    rw [Value.shown_of_isWritable (Value.isWritable_of_not_truthy (by simpa using hfalse))] at h
    cases h
    exact Or.inl rfl
  · rename_i htruthy
    split at h
    · split at h <;> cases h
      exact Or.inl rfl
    · rename_i hno
      exact Or.inr ⟨by simpa using htruthy, hno⟩

theorem methodOf_of_isNoText {v : Value} (h : IsNoText v) : ∃ text, methodOf v = .error (.missingAttribute text) := by
  unfold methodOf
  rw [if_neg (by simp [h.1])]
  split
  · exact absurd rfl (h.2 _)
  · exact ⟨_, rfl⟩

/-! ### Functions and methods -/

theorem ofFunction_eq_ok {v : Value} {t : JobTarget} :
    ofFunction v = .ok t ↔ ∃ path, v = .text path ∧ isPath path = true ∧ t = .static path := by
  unfold ofFunction
  rw [bind_eq_ok]
  constructor
  · rintro ⟨path, hpath, h⟩
    cases h
    obtain ⟨hv, hpath⟩ := pathOf_eq_ok.mp hpath
    exact ⟨path, hv, hpath, rfl⟩
  · rintro ⟨path, hv, hpath, rfl⟩
    exact ⟨path, pathOf_eq_ok.mpr ⟨hv, hpath⟩, rfl⟩

theorem ofFunction_error {v : Value} {f : Fault} (h : ofFunction v = .error f) : IsPartial v f := by
  rcases bind_eq_error.mp h with hpath | ⟨_, -, h⟩
  · exact pathOf_error hpath
  · cases h

theorem ofMethod_eq_ok {v w : Value} {t : JobTarget} : ofMethod v w = .ok t ↔
    ∃ path method, v = .text path ∧ isPath path = true ∧ w = .text method ∧
      Text.isIdentifier method.toList = true ∧ t = .service path method := by
  unfold ofMethod
  rw [bind_eq_ok]
  constructor
  · rintro ⟨path, hpath, h⟩
    obtain ⟨method, hmethod, h⟩ := bind_eq_ok.mp h
    cases h
    obtain ⟨hv, hpath⟩ := pathOf_eq_ok.mp hpath
    obtain ⟨hw, hmethod⟩ := methodOf_eq_ok.mp hmethod
    exact ⟨path, method, hv, hpath, hw, hmethod, rfl⟩
  · rintro ⟨path, method, hv, hpath, hw, hmethod, rfl⟩
    exact ⟨path, pathOf_eq_ok.mpr ⟨hv, hpath⟩,
      bind_eq_ok.mpr ⟨method, methodOf_eq_ok.mpr ⟨hw, hmethod⟩, rfl⟩⟩

/-- The path is read first, so a method is asked only behind one that is a path. -/
theorem ofMethod_error {v w : Value} {f : Fault} (h : ofMethod v w = .error f) :
    IsPartial v f ∨ isMalformation f = true ∨ ∃ path, v = .text path ∧ isPath path = true ∧ IsNoText w := by
  rcases bind_eq_error.mp h with hpath | ⟨path, hpath, h⟩
  · exact Or.inl (pathOf_error hpath)
  obtain ⟨hv, hisPath⟩ := pathOf_eq_ok.mp hpath
  rcases bind_eq_error.mp h with hmethod | ⟨_, -, h⟩
  · exact Or.inr ((methodOf_error hmethod).imp_right fun hno => ⟨path, hv, hisPath, hno⟩)
  · cases h

/-! ### Parts -/

theorem isMalformation_of_entry {v : Value} {name : String} {f : Fault} (h : v.entry name = .error f) :
    isMalformation f = true := by
  unfold Value.entry at h
  split at h
  · split at h <;> cases h
    rfl
  · cases h
    rfl

theorem isWritable_of_entry {v : Value} {name : String} (hpayload : payload.isWritable = true)
    (hv : payload.entry name = .ok v) : v.isWritable = true :=
  Value.isWritable_of_under? hpayload (Value.entry_eq_ok.mp hv)

/-- A part that cannot be written is one of a payload that cannot be. -/
theorem IsPartial.of_entry {v : Value} {name : String} {f : Fault} (h : IsPartial v f)
    (hv : payload.entry name = .ok v) : IsPartial payload f := by
  refine h.imp_right fun hf => ⟨hf.1, ?_⟩
  cases hpayload : payload.isWritable with
  | false => rfl
  | true => exact (isWritable_of_entry hpayload hv).symm.trans hf.2

theorem parts_of_holds {t : JobTarget} (h : Holds payload t) : parts payload = .ok (.ok t) := by
  cases h with
  | static hkind hfunction hpath =>
    have hstatic : (Value.text "static").equals false (.text "static") = true := Value.equals_text_iff.1.mpr rfl
    simp only [parts, ofFunction, hkind, hfunction, pathOf_eq_ok.mpr ⟨rfl, hpath⟩, hstatic, ok_bind, if_true]
  | service hkind hservice hpath hmethod hidentifier =>
    have hstatic : (Value.text "service").equals false (.text "static") = false := by decide
    have hservice' : (Value.text "service").equals false (.text "service") = true := Value.equals_text_iff.1.mpr rfl
    simp only [parts, ofMethod, hkind, hservice, hmethod, pathOf_eq_ok.mpr ⟨rfl, hpath⟩,
      methodOf_eq_ok.mpr ⟨rfl, hidentifier⟩, hstatic, hservice', ok_bind, Bool.false_eq_true, if_false, if_true]

theorem parts_of_hasUnknownKind {kind : Value} (h : HasUnknownKind payload kind) : parts payload = .ok (.error kind) := by
  obtain ⟨hkind, hstatic, hservice⟩ := h
  simp only [parts, hkind, ok_bind, Value.equals_text_iff.1, hstatic, hservice, if_false]

theorem parts_of_methodIsNoText (h : MethodIsNoText payload) :
    ∃ text, parts payload = .error (.missingAttribute text) := by
  obtain ⟨path, method, hkind, hpath, hisPath, hmethod, hno⟩ := h
  obtain ⟨text, htext⟩ := methodOf_of_isNoText hno
  refine ⟨text, ?_⟩
  have hpathOf : pathOf (.text path) = .ok path := pathOf_eq_ok.mpr ⟨rfl, hisPath⟩
  have hstatic : (Value.text "service").equals false (.text "static") = false := by decide
  have hservice : (Value.text "service").equals false (.text "service") = true := Value.equals_text_iff.1.mpr rfl
  simp only [parts, ofMethod, hkind, hpath, hmethod, hpathOf, htext, hstatic, hservice, ok_bind, error_bind,
    Bool.false_eq_true, if_false, if_true]

/-- What is read of a payload is the target it holds, or the kind that is unknown. -/
theorem of_parts_eq_ok {found : Except Value JobTarget} (h : parts payload = .ok found) :
    (∃ t, Holds payload t) ∨ ∃ kind, HasUnknownKind payload kind := by
  obtain ⟨kind, hkind, h⟩ := bind_eq_ok.mp h
  split at h
  · rename_i hstatic
    obtain rfl := Value.equals_text_iff.1.mp hstatic
    obtain ⟨v, hv, h⟩ := bind_eq_ok.mp h
    obtain ⟨t, ht, -⟩ := bind_eq_ok.mp h
    obtain ⟨path, rfl, hisPath, -⟩ := ofFunction_eq_ok.mp ht
    exact Or.inl ⟨_, .static hkind hv hisPath⟩
  rename_i hstatic
  split at h
  · rename_i hservice
    obtain rfl := Value.equals_text_iff.1.mp hservice
    obtain ⟨v, hv, h⟩ := bind_eq_ok.mp h
    obtain ⟨w, hw, h⟩ := bind_eq_ok.mp h
    obtain ⟨t, ht, -⟩ := bind_eq_ok.mp h
    obtain ⟨path, method, rfl, hisPath, rfl, hidentifier, -⟩ := ofMethod_eq_ok.mp ht
    exact Or.inl ⟨_, .service hkind hv hisPath hw hidentifier⟩
  · rename_i hservice
    exact Or.inr ⟨kind, hkind, mt Value.equals_text_iff.1.mpr hstatic, mt Value.equals_text_iff.1.mpr hservice⟩

/-- Reading a payload fails for a part that is missing or malformed, or for a method that is no text. -/
theorem of_parts_eq_error {f : Fault} (h : parts payload = .error f) : MethodIsNoText payload ∨ IsPartial payload f := by
  rcases bind_eq_error.mp h with hentry | ⟨kind, hkind, h⟩
  · exact Or.inr (Or.inl (isMalformation_of_entry hentry))
  split at h
  · rcases bind_eq_error.mp h with hentry | ⟨v, hv, h⟩
    · exact Or.inr (Or.inl (isMalformation_of_entry hentry))
    rcases bind_eq_error.mp h with ht | ⟨_, -, h⟩
    · exact Or.inr ((ofFunction_error ht).of_entry hv)
    · cases h
  split at h
  · rename_i hservice
    obtain rfl := Value.equals_text_iff.1.mp hservice
    rcases bind_eq_error.mp h with hentry | ⟨v, hv, h⟩
    · exact Or.inr (Or.inl (isMalformation_of_entry hentry))
    rcases bind_eq_error.mp h with hentry | ⟨w, hw, h⟩
    · exact Or.inr (Or.inl (isMalformation_of_entry hentry))
    rcases bind_eq_error.mp h with ht | ⟨_, -, h⟩
    · rcases ofMethod_error ht with hpath | hmalformed | ⟨path, rfl, hisPath, hno⟩
      · exact Or.inr (hpath.of_entry hv)
      · exact Or.inr (Or.inl hmalformed)
      · exact Or.inl ⟨path, w, hkind, hv, hisPath, hw, hno⟩
    · cases h
  · cases h

/-- A payload holds a target, gives an unknown kind, has a method that is no text, or fails to be read. -/
theorem parts_cases (payload : Value) : (∃ t, Holds payload t) ∨ (∃ kind, HasUnknownKind payload kind) ∨
    MethodIsNoText payload ∨ ∃ f, parts payload = .error f ∧ IsPartial payload f := by
  cases hparts : parts payload with
  | ok found => exact (of_parts_eq_ok hparts).imp_right Or.inl
  | error f => exact Or.inr (Or.inr ((of_parts_eq_error hparts).imp_right fun hf => ⟨f, rfl, hf⟩))

/-! ### Targets -/

theorem ofValue_eq_ok_iff_holds {t : JobTarget} : ofValue payload = .ok t ↔ Holds payload t := by
  constructor
  · intro h
    unfold ofValue at h
    rcases parts_cases payload with ⟨t', ht⟩ | ⟨kind, hkind⟩ | hno | ⟨f, hf, -⟩
    · rw [parts_of_holds ht] at h
      cases h
      exact ht
    · rw [parts_of_hasUnknownKind hkind] at h
      obtain ⟨_, -, h⟩ := bind_eq_ok.mp h
      cases h
    · obtain ⟨text, htext⟩ := parts_of_methodIsNoText hno
      rw [htext] at h
      cases h
    · simp only [hf, malformed] at h
      split at h
      · obtain ⟨_, -, h⟩ := bind_eq_ok.mp h
        cases h
      · cases h
  · intro h
    simp only [ofValue, parts_of_holds h]

theorem ofValue_of_hasUnknownKind {kind : Value} (h : HasUnknownKind payload kind) :
    ofValue payload = (do .error (.problem (.payload (.unknownKind (← kind.shown)) none))) := by
  simp only [ofValue, parts_of_hasUnknownKind h]

/-- The failure of asking a value that is no text escapes from a target. -/
theorem ofValue_of_methodIsNoText (h : MethodIsNoText payload) :
    ∃ text, ofValue payload = .error (.missingAttribute text) := by
  obtain ⟨text, htext⟩ := parts_of_methodIsNoText h
  exact ⟨text, by simp [ofValue, htext, malformed, isMalformation]⟩

/-- A payload that fails to be read is refused if it can be written. -/
theorem ofValue_of_isPartial {f : Fault} (hparts : parts payload = .error f) (hf : IsPartial payload f) :
    if payload.isWritable then (ofValue payload).ReadOrRefused else ofValue payload = .error Value.overlong := by
  simp only [ofValue, hparts, malformed]
  cases hpayload : payload.isWritable with
  | true =>
    have hmalformed : isMalformation f = true := hf.resolve_right (by simp [hpayload])
    rw [if_pos rfl, if_pos hmalformed, Value.shown_of_isWritable hpayload]
    exact readOrRefused_error rfl
  | false =>
    simp only [Bool.false_eq_true, if_false, Value.shown_of_not hpayload, error_bind]
    rcases hf with hf | ⟨rfl, -⟩
    · rw [if_pos hf]
    · rfl

theorem ofValue_of_cannotBeShown (h : CannotBeShown payload) (hno : ¬MethodIsNoText payload) :
    ofValue payload = .error Value.overlong := by
  rcases h with ⟨kind, hkind, hlong⟩ | ⟨hknown, hholds, hlong⟩
  · rw [ofValue_of_hasUnknownKind hkind, Value.shown_of_not hlong, error_bind]
  · rcases parts_cases payload with ⟨t, ht⟩ | ⟨kind, hkind⟩ | hmethod | ⟨f, hparts, hf⟩
    · exact absurd ht (hholds t)
    · exact absurd hkind (hknown kind)
    · exact absurd hmethod hno
    · have hread := ofValue_of_isPartial hparts hf
      rwa [hlong, if_neg Bool.false_ne_true] at hread

theorem readOrRefused_iff :
    (ofValue payload).ReadOrRefused ↔ ¬MethodIsNoText payload ∧ ¬CannotBeShown payload := by
  constructor
  · intro hread
    have hmethod : ¬MethodIsNoText payload := by
      intro hno
      obtain ⟨text, htext⟩ := ofValue_of_methodIsNoText hno
      exact not_readOrRefused (by simp) htext hread
    refine ⟨hmethod, fun hlong => ?_⟩
    exact not_readOrRefused (by simp [Value.overlong]) (ofValue_of_cannotBeShown hlong hmethod) hread
  · rintro ⟨hmethod, hshown⟩
    rcases parts_cases payload with ⟨t, ht⟩ | ⟨kind, hkind⟩ | hno | ⟨f, hparts, hf⟩
    · exact Or.inl ⟨t, ofValue_eq_ok_iff_holds.mpr ht⟩
    · have hwritable : kind.isWritable = true :=
        Bool.of_not_eq_false fun hlong => hshown (Or.inl ⟨kind, hkind, hlong⟩)
      rw [ofValue_of_hasUnknownKind hkind, Value.shown_of_isWritable hwritable]
      exact readOrRefused_error rfl
    · exact absurd hno hmethod
    · have hwritable : payload.isWritable = true := by
        refine Bool.of_not_eq_false fun hlong => hshown (Or.inr ⟨fun kind hkind => ?_, fun t ht => ?_, hlong⟩)
        · cases hparts.symm.trans (parts_of_hasUnknownKind hkind)
        · cases hparts.symm.trans (parts_of_holds ht)
      have hread := ofValue_of_isPartial hparts hf
      rwa [if_pos hwritable] at hread

end JobTarget

/-! ### Definitions -/

namespace JobDefinition

variable {payload : Value}

/-- The payload is one of a definition: it gives a target, and the arguments are a list or left out. -/
def Gives (payload target : Value) (args : List Value) : Prop :=
  ∃ entries, payload = .dict entries ∧ Value.lookup? (.text "target") entries = some target ∧ argsOf entries = .ok args

/-- The payload is one of a definition, and the method of its target is no text. -/
def MethodIsNoText (payload : Value) : Prop := ∃ target args, Gives payload target args ∧ JobTarget.MethodIsNoText target

/-- What a refusal would show cannot be written: the payload, if it gives no target, or what a refusal of its target
    would show. -/
def CannotBeShown (payload : Value) : Prop :=
  (payload.under? (.text "target") = none ∧ payload.isWritable = false) ∨
    ∃ target args, Gives payload target args ∧ JobTarget.CannotBeShown target

theorem argsOf_readOrRefused (entries : List (Value × Value)) : (argsOf entries).ReadOrRefused := by
  unfold argsOf
  split
  · exact Or.inl ⟨_, rfl⟩
  · exact Or.inl ⟨_, rfl⟩
  · exact Or.inl ⟨_, rfl⟩
  · exact readOrRefused_error rfl

theorem ofValue_of_gives {target : Value} {args : List Value} (h : Gives payload target args) :
    ofValue payload = JobTarget.ofValue target >>= fun t => .ok ⟨t, args⟩ := by
  obtain ⟨entries, rfl, htarget, hargs⟩ := h
  simp only [ofValue, htarget, hargs, ok_bind]

/-- A payload without a target is refused if it can be written. -/
theorem ofValue_of_under?_eq_none (h : payload.under? (.text "target") = none) :
    ofValue payload = (do .error (.problem (.payload (.malformedDefinition (← payload.shown)) none))) := by
  cases payload with
  | dict entries => simp only [ofValue, show Value.lookup? (.text "target") entries = none from h]
  | _ => rfl

theorem Gives.under?_target {target : Value} {args : List Value} (h : Gives payload target args) :
    payload.under? (.text "target") = some target := by
  obtain ⟨entries, rfl, htarget, -⟩ := h
  exact htarget

theorem Gives.unique {target target' : Value} {args args' : List Value} (h : Gives payload target args)
    (h' : Gives payload target' args') : target = target' :=
  Option.some.inj (h.under?_target.symm.trans h'.under?_target)

theorem readOrRefused_of_gives {target : Value} {args : List Value} (h : Gives payload target args) :
    (ofValue payload).ReadOrRefused ↔ (JobTarget.ofValue target).ReadOrRefused := by
  rw [ofValue_of_gives h]
  cases JobTarget.ofValue target with
  | ok t => exact iff_of_true (Or.inl ⟨_, rfl⟩) (Or.inl ⟨t, rfl⟩)
  | error f => simp [ReadOrRefused]

theorem readOrRefused_of_under?_eq_none (h : payload.under? (.text "target") = none) :
    (ofValue payload).ReadOrRefused ↔ payload.isWritable = true := by
  rw [ofValue_of_under?_eq_none h]
  cases hpayload : payload.isWritable with
  | true =>
    rw [Value.shown_of_isWritable hpayload]
    exact iff_of_true (readOrRefused_error rfl) rfl
  | false =>
    rw [Value.shown_of_not hpayload]
    exact iff_of_false (not_readOrRefused (by simp [Value.overlong]) rfl) Bool.false_ne_true

/-- Arguments that are no list are refused before the target is looked at. -/
theorem readOrRefused_of_not_gives {target : Value} (htarget : payload.under? (.text "target") = some target)
    (hgives : ¬∃ target args, Gives payload target args) : (ofValue payload).ReadOrRefused := by
  cases payload with
  | dict entries =>
    have hlookup : Value.lookup? (.text "target") entries = some target := htarget
    rcases argsOf_readOrRefused entries with ⟨args, hargs⟩ | ⟨p, hp, hkind⟩
    · exact absurd ⟨target, args, entries, rfl, hlookup, hargs⟩ hgives
    · exact Or.inr ⟨p, by simp only [ofValue, hlookup, hp, error_bind], hkind⟩
  | _ => cases htarget

/-- Only a payload that gives a target with its arguments fails for the target. -/
theorem readOrRefused_iff :
    (ofValue payload).ReadOrRefused ↔ ¬MethodIsNoText payload ∧ ¬CannotBeShown payload := by
  by_cases hgives : ∃ target args, Gives payload target args
  · obtain ⟨target, args, hgives⟩ := hgives
    have hmethod : MethodIsNoText payload ↔ JobTarget.MethodIsNoText target :=
      ⟨fun ⟨_, _, h, hno⟩ => hgives.unique h ▸ hno, fun hno => ⟨target, args, hgives, hno⟩⟩
    have hshown : CannotBeShown payload ↔ JobTarget.CannotBeShown target := by
      refine ⟨?_, fun hlong => Or.inr ⟨target, args, hgives, hlong⟩⟩
      rintro (⟨hnone, -⟩ | ⟨_, _, h, hlong⟩)
      · cases hnone.symm.trans hgives.under?_target
      · exact hgives.unique h ▸ hlong
    rw [readOrRefused_of_gives hgives, JobTarget.readOrRefused_iff, hmethod, hshown]
  · have hmethod : ¬MethodIsNoText payload := fun ⟨_, _, h, _⟩ => hgives ⟨_, _, h⟩
    have hshown : CannotBeShown payload ↔ payload.under? (.text "target") = none ∧ payload.isWritable = false :=
      or_iff_left fun ⟨_, _, h, _⟩ => hgives ⟨_, _, h⟩
    rw [and_iff_right hmethod, hshown]
    cases hunder : payload.under? (.text "target") with
    | none => rw [readOrRefused_of_under?_eq_none hunder, and_iff_right rfl, Bool.not_eq_false]
    | some target => exact iff_of_true (readOrRefused_of_not_gives hunder hgives) fun h => nomatch h.1

end JobDefinition

/-- From every payload a target and a definition are read or refused as payloads, exactly if no method of a service is
    something true that is no text, and what a refusal would show can be written. -/
theorem payload_readOrRefused_iff (payload : Value) :
    ((JobTarget.ofValue payload).ReadOrRefused ↔
        ¬JobTarget.MethodIsNoText payload ∧ ¬JobTarget.CannotBeShown payload) ∧
      ((JobDefinition.ofValue payload).ReadOrRefused ↔
        ¬JobDefinition.MethodIsNoText payload ∧ ¬JobDefinition.CannotBeShown payload) :=
  ⟨JobTarget.readOrRefused_iff, JobDefinition.readOrRefused_iff⟩

/-- The payload of a definition that names the method of its service by a number. -/
def numberedMethod : Value :=
  .ofFields [("target", .ofFields [("kind", .text "service"), ("service", .text "shop:Counter"), ("method", .int 5)])]

/-- It is neither read nor refused as a payload. -/
theorem payload_readOrRefused_iff_number : ¬(JobDefinition.ofValue numberedMethod).ReadOrRefused := by
  intro hread
  refine ((payload_readOrRefused_iff numberedMethod).2.mp hread).1 ⟨_, [], ⟨_, rfl, rfl, rfl⟩, ?_⟩
  exact ⟨"shop:Counter", .int 5, rfl, rfl, by decide, rfl, rfl, fun s => nofun⟩

end JobScheduling
