import JobScheduling.Proofs.Settings.Loaded
import JobScheduling.Proofs.Text.Split

/-! The types of loaded settings. What a variable holds is converted to the type of its field if that is a text, a
    number, a truth value or a list of texts. For a list of anything and for an integer that may be absent there is no
    conversion: the text of the variable is what such a field gets, and it is of neither type. -/

namespace JobScheduling

/-- A value is of the type of a setting. -/
inductive SettingType.Admits : SettingType → Value → Prop
  | text (t : String) : Admits .text (.text t)
  | int (n : Int) : Admits .int (.int n)
  | float (x : Binary64) : Admits .float (.float x)
  | bool (b : Bool) : Admits .bool (.bool b)
  | texts (ts : List String) : Admits .texts (.list (ts.map Value.text))
  | list (vs : List Value) : Admits .list (.list vs)
  | present (n : Int) : Admits .optionalInt (.int n)
  | absent : Admits .optionalInt .null

namespace SettingsSchema

/-! ### Lists of texts -/

/-- A text lists texts: it is made of pieces with a comma between any two, and they are the pieces without the blanks
    around them, those that are blank left out. -/
def Lists (raw : String) (texts : List String) : Prop :=
  ∃ pieces : List (List Char), pieces ≠ [] ∧ (∀ p ∈ pieces, ',' ∉ p) ∧ [','].intercalate pieces = raw.toList ∧
    texts.map String.toList = (pieces.map Text.trim).filter (· ≠ [])

theorem map_toList_textsOf (raw : String) :
    (textsOf raw).map String.toList = ((Text.pieces ',' raw.toList).map Text.trim).filter (· ≠ []) := by
  have hofList : String.toList ∘ String.ofList = id := funext fun _ => String.toList_ofList
  have hempty : ∀ s : List Char, (!s.isEmpty) = decide (s ≠ []) := fun s => by cases s <;> rfl
  rw [textsOf, List.map_map, hofList, List.map_id]
  exact List.filter_congr fun s _ => hempty s

/-- A text lists certain texts and no others. -/
theorem lists_iff {raw : String} {texts : List String} : Lists raw texts ↔ texts = textsOf raw := by
  constructor
  · rintro ⟨pieces, hne, hcomma, hraw, htexts⟩
    -- The pieces of which the text is made are those at which it is cut.
    have hpieces : Text.pieces ',' raw.toList = pieces := by rw [← hraw, Text.pieces_intercalate hne hcomma]
    refine List.map_injective_iff.mpr (fun _ _ => String.toList_inj.mp) ?_
    rw [htexts, map_toList_textsOf, hpieces]
  · rintro rfl
    exact ⟨Text.pieces ',' raw.toList, Text.pieces_ne_nil ',' _, fun _ hp => Text.not_mem_of_mem_pieces hp,
      Text.intercalate_pieces ',' _, map_toList_textsOf raw⟩

/-! ### Conversion -/

section Conversion
variable {name raw : String} {type : SettingType} {v : Value}

theorem convert_verbatim (htype : type = .list ∨ type = .optionalInt) : convert name raw type = .ok (.text raw) := by
  rcases htype with rfl | rfl <;> rfl

theorem not_admits_text (htype : type = .list ∨ type = .optionalInt) (t : String) : ¬type.Admits (.text t) := by
  rcases htype with rfl | rfl <;> exact nofun

theorem admits_of_convert (h : convert name raw type = .ok v) (hlist : type ≠ .list) (hoptional : type ≠ .optionalInt) :
    type.Admits v := by
  cases type with
  | list => exact absurd rfl hlist
  | optionalInt => exact absurd rfl hoptional
  | text =>
    cases h
    exact .text raw
  | texts =>
    cases h
    exact .texts _
  | bool =>
    simp only [convert] at h
    split at h
    · cases h
      exact .bool _
    · cases h
  | int =>
    simp only [convert] at h
    split at h
    · cases h
      exact .int _
    · cases h
  | float =>
    simp only [convert] at h
    split at h
    · cases h
      exact .float _
    · cases h

/-- What a text is converted to is of the type asked for, unless this is one for which there is no conversion. -/
theorem convert_admits_iff (h : convert name raw type = .ok v) :
    type.Admits v ↔ type ≠ .list ∧ type ≠ .optionalInt := by
  refine ⟨fun hadmits => not_or.mp fun htype => ?_, fun ⟨hlist, hoptional⟩ => admits_of_convert h hlist hoptional⟩
  rw [convert_verbatim htype] at h
  cases h
  exact not_admits_text htype raw hadmits

end Conversion

/-! ### Loading -/

section Loading
variable {s : SettingsSchema} {e : Environment} {values : List (String × Value)}

theorem gives_of_load (h : s.load e = .ok values) :
    List.Forall₂ (fun f entry => entry.1 = f.name ∧ s.Gives e f entry.2) s.fields values := by
  rcases load_cases s e with ⟨others, hload, hothers⟩ | ⟨fault, hload, -⟩ | ⟨hload, -⟩
  · cases h.symm.trans hload
    exact hothers
  · cases h.symm.trans hload
  · cases h.symm.trans hload

/-- A field that is read from its variable holds a value of its type if and only if there is a conversion to it; if
    there is none it holds the text of the variable. A list of texts holds those that the variable lists. -/
theorem load_admits_iff (h : s.load e = .ok values) :
    List.Forall₂ (fun f entry => entry.1 = f.name ∧ ∀ raw, e.get? (s.variableOf f) = some raw →
      (f.type.Admits entry.2 ↔ f.type ≠ .list ∧ f.type ≠ .optionalInt) ∧
      (f.type = .list ∨ f.type = .optionalInt → entry.2 = .text raw) ∧
      (f.type = .texts → ∃ texts, entry.2 = .list (texts.map .text) ∧ Lists raw texts)) s.fields values := by
  refine (gives_of_load h).imp fun f entry hentry => ⟨hentry.1, fun raw hraw => ?_⟩
  have hconvert : convert (s.variableOf f) raw f.type = .ok entry.2 := by
    cases hentry.2 with
    | read hraw' hv =>
      cases hraw.symm.trans hraw'
      exact hv
    | default habsent => cases hraw.symm.trans habsent
  refine ⟨convert_admits_iff hconvert, fun htype => ?_, fun htype => ⟨textsOf raw, ?_, lists_iff.mpr rfl⟩⟩
  · rw [convert_verbatim htype] at hconvert
    exact (Except.ok.inj hconvert).symm
  · rw [htype] at hconvert
    exact (Except.ok.inj hconvert).symm

end Loading

/-- The settings of a shop: at most how many orders it takes, if there is a limit, its tags and whom it tells. -/
def shopSchema : SettingsSchema where
  name := "ShopSettings"
  lead := "shop"
  fields := [⟨"limit", .optionalInt, some .null⟩, ⟨"tags", .list, some (.list [])⟩, ⟨"staff", .texts, none⟩]
  check _ := .ok ()

/-- A limit that is set is no number, and tags that are set are no list. -/
theorem load_admits_iff_shop :
    shopSchema.load [("SHOP_LIMIT", "5"), ("SHOP_TAGS", "a, b"), ("SHOP_STAFF", "ann, bob,,")] =
        .ok [("limit", .text "5"), ("tags", .text "a, b"), ("staff", .list [.text "ann", .text "bob"])] ∧
      ¬SettingType.optionalInt.Admits (.text "5") ∧ ¬SettingType.list.Admits (.text "a, b") ∧
      SettingType.texts.Admits (.list [.text "ann", .text "bob"]) := by
  have hload : shopSchema.load [("SHOP_LIMIT", "5"), ("SHOP_TAGS", "a, b"), ("SHOP_STAFF", "ann, bob,,")] =
      .ok [("limit", .text "5"), ("tags", .text "a, b"), ("staff", .list [.text "ann", .text "bob"])] := rfl
  rcases load_admits_iff hload with _ | ⟨⟨-, hlimit⟩, _ | ⟨⟨-, htags⟩, _ | ⟨⟨-, hstaff⟩, _⟩⟩⟩
  refine ⟨hload, fun hadmits => ?_, fun hadmits => ?_, (hstaff _ rfl).1.mpr ⟨nofun, nofun⟩⟩
  · exact ((hlimit _ rfl).1.mp hadmits).2 rfl
  · exact ((htags _ rfl).1.mp hadmits).1 rfl

end SettingsSchema
end JobScheduling
