import JobScheduling.Proofs.Zone.Failure
import JobScheduling.Proofs.Zone.Name

/-! Names of zones that lead nowhere. A text is resolved or refused, and the machine has a zone whatever it is told,
    with two exceptions. A file of the zone database or at a path that ends too early, lacks the line end before its rule
    or the one behind it breaks reading off, with a failure that nobody translates or by never coming to an end. And a
    key that takes a module of the database for a package cannot be looked up, which is not translated either. -/

namespace JobScheduling

open Text

/-! ### Files that break off -/

namespace Compiled

/-- Reading a file breaks off: it ends too early, or it lacks the line end before its rule or the one behind it. -/
def BreaksOff (bytes : List UInt8) : Prop :=
  (∃ needed, read bytes = .error (.cutShort needed)) ∨ (∃ text, read bytes = .error (.assertion text)) ∨
    read bytes = .error .endless

/-- What a file comes to: a table, a bad value, or a failure at which reading breaks off. -/
theorem tableOfFile_cases (bytes : List UInt8) :
    (∃ t, read bytes = .ok t ∧ tableOfFile bytes = .ok (some t) ∧ ¬BreaksOff bytes) ∨
      (tableOfFile bytes = .ok none ∧ ¬BreaksOff bytes) ∨ ∃ f, tableOfFile bytes = .error f ∧ BreaksOff bytes := by
  unfold tableOfFile
  cases hread : read bytes with
  | ok t => exact Or.inl ⟨t, rfl, rfl, by simp [BreaksOff, hread]⟩
  | error f =>
    have hf := isOfFile_of_read hread
    cases f with
    | badValue text => exact Or.inr (Or.inl ⟨rfl, by simp [BreaksOff, hread]⟩)
    | cutShort needed => exact Or.inr (Or.inr ⟨_, rfl, Or.inl ⟨needed, hread⟩⟩)
    | assertion text => exact Or.inr (Or.inr ⟨_, rfl, Or.inr (Or.inl ⟨text, hread⟩)⟩)
    | endless => exact Or.inr (Or.inr ⟨_, rfl, Or.inr (Or.inr hread)⟩)
    | _ => exact hf.elim

theorem tableOfFile_eq_error_iff {bytes : List UInt8} : (∃ f, tableOfFile bytes = .error f) ↔ BreaksOff bytes := by
  rcases tableOfFile_cases bytes with ⟨t, -, hfile, hwhole⟩ | ⟨hfile, hwhole⟩ | ⟨f, hfile, hbreaks⟩
  · exact iff_of_false (fun ⟨f, hf⟩ => nomatch hfile.symm.trans hf) hwhole
  · exact iff_of_false (fun ⟨f, hf⟩ => nomatch hfile.symm.trans hf) hwhole
  · exact iff_of_true ⟨f, hfile⟩ hbreaks

end Compiled

/-- No rule begins as a path does. -/
theorem Rule.ofKey?_of_path {s : List Char} (hpath : s.head? = some '/') : ofKey? s = none := by
  obtain ⟨rest, rfl⟩ : ∃ rest, s = '/' :: rest := List.head?_eq_some_iff.mp hpath
  have hname : afterName? 3 1 ('/' :: rest) = none := by simp [afterName?, isLetter]
  simp [ofKey?, looksLikeRule, hname]

namespace Host

variable {h : Host} {name : String} {bytes : List UInt8}

/-- A name that neither spells UTC nor writes an offset is the one of a file: of a key in the zone database, or at a
    path. -/
structure Reads (h : Host) (name : String) (bytes : List UInt8) : Prop where
  key : IsKey name
  file : h.regionFile? name = some bytes ∨ h.file? name.toList = some bytes

/-- A name that neither spells UTC nor writes an offset takes a module of the zone database for a package. -/
structure Misleads (h : Host) (name : String) : Prop where
  key : IsKey name
  absent : h.regionFile? name = none
  inModule : (h.module? name).isSome = true

/-- A name is the one of a file at which reading breaks off, or takes a module for a package. -/
def BreaksAt (h : Host) (name : String) : Prop :=
  (∃ bytes, h.Reads name bytes ∧ Compiled.BreaksOff bytes) ∨ h.Misleads name

/-- Files outside the database are named by absolute paths alone. -/
theorem head?_of_file? {path : List Char} (hfile : h.file? path = some bytes) : path.head? = some '/' := by
  unfold file? at hfile
  dsimp only at hfile
  split at hfile
  · exact And.left ‹_›
  · cases hfile

theorem regionFile?_of_path (hpath : name.toList.head? = some '/') : h.regionFile? name = none := by
  simp only [regionFile?, hpath]

theorem module?_of_path (hpath : name.toList.head? = some '/') : h.module? name = none := by
  obtain ⟨rest, hrest⟩ : ∃ rest, name.toList = '/' :: rest := List.head?_eq_some_iff.mp hpath
  simp [module?, hrest, pieces]

theorem file?_of_regionFile? (hregion : h.regionFile? name = some bytes) : h.file? name.toList = none := by
  cases hfile : h.file? name.toList with
  | none => rfl
  | some _ => cases hregion.symm.trans (regionFile?_of_path (head?_of_file? hfile))

theorem isKey_of_path (hpath : name.toList.head? = some '/') : IsKey name where
  utc := ne_of_mem_of_not_mem' (mem_upper (c := '/') rfl (List.mem_of_head? hpath)) (by decide)
  offset := by
    intro k hk
    generalize name.toList = s at hpath hk
    cases hk <;> cases hpath

theorem Reads.of_file? (hfile : h.file? name.toList = some bytes) : h.Reads name bytes :=
  ⟨isKey_of_path (head?_of_file? hfile), Or.inr hfile⟩

/-- A name is read from one file at most. -/
theorem Reads.unique {other : List UInt8} (hreads : h.Reads name bytes) (hother : h.Reads name other) : other = bytes := by
  rcases hreads.file with hregion | hfile
  · rcases hother.file with hother | hother
    · exact Option.some.inj (hother.symm.trans hregion)
    · cases hother.symm.trans (file?_of_regionFile? hregion)
  · rcases hother.file with hother | hother
    · cases hother.symm.trans (regionFile?_of_path (head?_of_file? hfile))
    · exact Option.some.inj (hother.symm.trans hfile)

/-- What is read from a file is not looked for in a module. -/
theorem Reads.not_misleads (hreads : h.Reads name bytes) : ¬h.Misleads name := by
  rintro ⟨-, habsent, hmodule⟩
  rcases hreads.file with hregion | hfile
  · cases habsent.symm.trans hregion
  · rw [module?_of_path (head?_of_file? hfile)] at hmodule
    cases hmodule

theorem breaksAt_iff (hreads : h.Reads name bytes) : h.BreaksAt name ↔ Compiled.BreaksOff bytes := by
  constructor
  · rintro (⟨_, hother, hbreaks⟩ | hmisleads)
    · exact hreads.unique hother ▸ hbreaks
    · exact absurd hmisleads hreads.not_misleads
  · exact fun hbreaks => Or.inl ⟨bytes, hreads, hbreaks⟩

theorem not_breaksAt_of_not_isKey (hkey : ¬IsKey name) : ¬h.BreaksAt name := by
  rintro (⟨_, hreads, -⟩ | hmisleads)
  · exact hkey hreads.key
  · exact hkey hmisleads.key

/-- Where there is no file at a path, all turns on the database. -/
theorem breaksAt_iff_region? (hkey : IsKey name) (hfile : h.file? name.toList = none) :
    h.BreaksAt name ↔ ∃ f, h.region? name = .error f := by
  unfold region?
  cases hregion : h.regionFile? name with
  | some bytes => exact (breaksAt_iff ⟨hkey, Or.inl hregion⟩).trans Compiled.tableOfFile_eq_error_iff.symm
  | none =>
    have hreads : ¬∃ bytes, h.Reads name bytes ∧ Compiled.BreaksOff bytes := by
      rintro ⟨bytes, hreads, -⟩
      rcases hreads.file with hread | hread
      · cases hread.symm.trans hregion
      · cases hread.symm.trans hfile
    cases hmodule : h.module? name with
    | some m => exact iff_of_true (Or.inr ⟨hkey, hregion, by rw [hmodule]; rfl⟩) ⟨_, rfl⟩
    | none =>
      refine iff_of_false ?_ nofun
      rintro (hbreaks | hmisleads)
      · exact hreads hbreaks
      · exact absurd hmisleads.inModule (by simp [hmodule])

theorem file?_of_region? (hregion : h.region? name ≠ .ok none) : h.file? name.toList = none := by
  cases hfile : h.file? name.toList with
  | none => rfl
  | some bytes =>
    have hpath := head?_of_file? hfile
    exact absurd (by simp only [region?, regionFile?_of_path hpath, module?_of_path hpath]) hregion

/-- What a name is found to mean is a failure just where reading its file breaks off or it takes a module for a package. -/
theorem breaksAt_iff_found : h.BreaksAt name ↔ ∃ f, h.found name = .error f := by
  have hleads := h.found_leads name
  generalize h.found name = x at hleads
  cases hleads with
  | utc hutc => exact iff_of_false (not_breaksAt_of_not_isKey fun hkey => hkey.utc hutc) nofun
  | offset hk _ => exact iff_of_false (not_breaksAt_of_not_isKey fun hkey => hkey.offset _ hk) nofun
  | beyondDay hk _ => exact iff_of_false (not_breaksAt_of_not_isKey fun hkey => hkey.offset _ hk) nofun
  | region hkey hregion =>
    rw [breaksAt_iff_region? hkey (file?_of_region? (by rw [hregion]; nofun)), hregion]
    exact iff_of_false nofun nofun
  | regionFailed hkey hregion =>
    rw [breaksAt_iff_region? hkey (file?_of_region? (by rw [hregion]; nofun)), hregion]
    exact iff_of_true ⟨_, rfl⟩ ⟨_, rfl⟩
  | file hkey _ hfile =>
    rw [breaksAt_iff (.of_file? hfile), ← Compiled.tableOfFile_eq_error_iff]
    cases tableOfFile _ <;> simp
  | rule hkey hregion hfile _ =>
    rw [breaksAt_iff_region? hkey hfile, hregion]
    exact iff_of_false nofun nofun
  | unknown hkey hregion hfile =>
    rw [breaksAt_iff_region? hkey hfile, hregion]
    exact iff_of_false nofun nofun

theorem SameFiles.breaksAt {g : Host} (hfiles : g.SameFiles h) (name : String) : g.BreaksAt name ↔ h.BreaksAt name := by
  rw [breaksAt_iff_found, breaksAt_iff_found, hfiles.found]

theorem named_ok_iff : (∃ found, h.named name = .ok found) ↔ ¬h.BreaksAt name := by
  rw [breaksAt_iff_found]
  unfold named
  cases h.found name <;> simp

theorem named_ne_problem {p : Problem} : h.named name ≠ .error (.problem p) := fun hf =>
  List.not_mem_nil (named_failsAmong h name _ hf)

/-! ### Names that are resolved -/

/-- The name that a setting of `TZ` stands for: what is behind its colons. -/
def keyOf (tz : String) : String := String.ofList (tz.toList.dropWhile (· = ':'))

/-- The name that a text stands for: an empty one for what `TZ` is set to. -/
def meant (h : Host) (s : String) : String := if s = "" then keyOf h.tz else s

/-- A name that is no region, no path of a file that holds a zone, and no rule. -/
structure Unknown (h : Host) (name : String) : Prop where
  region : ∀ t, h.region? name ≠ .ok (some t)
  file : ∀ bytes t, h.file? name.toList = some bytes → Compiled.read bytes ≠ .ok t
  rule : Rule.ofKey? name.toList = none

theorem not_breaksAt_empty (h : Host) : ¬h.BreaksAt "" := by
  rintro (⟨bytes, hreads, -⟩ | hmisleads)
  · rcases hreads.file with hregion | hfile
    · cases hregion
    · cases head?_of_file? hfile
  · cases hmisleads.inModule

/-- Without a name the zone is the one that the system is set to, and with one it is what the name leads to, UTC where
    the name leads nowhere. -/
theorem localZone_eq (h : Host) : h.localZone =
    if keyOf h.tz = "" then .ok h.systemZone else (do .ok ((← h.named (keyOf h.tz)).getD .utc)) := by
  have hempty : (h.tz.toList.dropWhile (· = ':')).isEmpty = true ↔ keyOf h.tz = "" := by
    rw [List.isEmpty_iff, keyOf, ← String.toList_inj, String.toList_ofList, String.toList_empty]
  unfold localZone
  exact if_congr hempty rfl rfl

theorem localZone_ok_iff : (∃ z, h.localZone = .ok z) ↔ ¬h.BreaksAt (keyOf h.tz) := by
  rw [localZone_eq]
  split
  · rename_i hkey
    rw [hkey]
    exact iff_of_true ⟨_, rfl⟩ h.not_breaksAt_empty
  · rw [← named_ok_iff]
    simp only [Outcome.bind_eq_ok, Except.ok.injEq]
    constructor
    · rintro ⟨z, found, hfound, -⟩
      exact ⟨found, hfound⟩
    · rintro ⟨found, hfound⟩
      exact ⟨_, found, hfound, rfl⟩

/-- The zone of the machine is never refused with an error of this library. -/
theorem localZone_ne_problem {p : Problem} : h.localZone ≠ .error (.problem p) := by
  intro hrefused
  rw [localZone_eq] at hrefused
  split at hrefused
  · cases hrefused
  · rcases Outcome.bind_eq_error.mp hrefused with hf | ⟨_, _, hf⟩
    · exact named_ne_problem hf
    · cases hf

/-- The path of a file that holds no zone is one of the names that no zone is known by. -/
theorem unknown_of_file? (hfile : h.file? name.toList = some bytes) (hread : ∀ t, Compiled.read bytes ≠ .ok t) :
    h.Unknown name where
  region := by
    have hpath := head?_of_file? hfile
    rw [region?, regionFile?_of_path hpath, module?_of_path hpath]
    nofun
  file := by
    intro bytes' t hfile'
    cases hfile.symm.trans hfile'
    exact hread t
  rule := Rule.ofKey?_of_path (head?_of_file? hfile)

theorem ofOffset_eq_utc_iff {k : Int} : Zone.ofOffset (k * 1000000) = .utc ↔ k = 0 := by
  unfold Zone.ofOffset
  split
  · exact iff_of_true rfl (by omega)
  · exact iff_of_false nofun (by omega)

/-- The zone that is read for a name is UTC if the name leads nowhere or means UTC. -/
theorem getD_named_eq_utc_iff : (do .ok ((← h.named name).getD .utc) : Outcome Zone) = .ok .utc ↔
    h.found name = .ok none ∨ ∃ n, h.found name = .ok (some n) ∧ n.zone h.zones name = .utc := by
  unfold named
  cases h.found name with
  | error f => simp
  | ok found => cases found <;> simp

/-- A name that is no region, file or rule is read as UTC unless finding its meaning fails or it writes another offset
    below a day, as `UTC+HH:MM` in the digits of a script that rules are not written in. -/
theorem Leads.utc_iff {x : Outcome (Option NamedZone)} (hx : h.Leads name x) (hunknown : h.Unknown name) :
    (x = .ok none ∨ ∃ n, x = .ok (some n) ∧ n.zone h.zones name = .utc) ↔
      (¬∃ f, x = .error f) ∧ ∀ k, WritesOffset name.toList k → k = 0 ∨ 86400 ≤ k.natAbs := by
  cases hx with
  | utc hutc => exact iff_of_true (Or.inr ⟨_, rfl, rfl⟩) ⟨nofun, fun k hk => absurd hutc hk.upper_ne⟩
  | @offset k hk hday =>
    constructor
    · rintro (hnone | ⟨n, hn, hzone⟩)
      · cases hnone
      · cases hn
        exact ⟨nofun, fun l hl => Or.inl ((hl.unique hk).trans (ofOffset_eq_utc_iff.mp hzone))⟩
    · rintro ⟨-, hwrites⟩
      exact Or.inr ⟨_, rfl, ofOffset_eq_utc_iff.mpr ((hwrites k hk).resolve_right (by omega))⟩
  | @beyondDay k hk hday => exact iff_of_true (Or.inl rfl) ⟨nofun, fun l hl => Or.inr (hl.unique hk ▸ hday)⟩
  | region _ hregion => exact absurd hregion (hunknown.region _)
  | regionFailed _ _ => exact iff_of_false (by simp) (by simp)
  | @file bytes hkey _ hfile =>
    rcases Compiled.tableOfFile_cases bytes with ⟨t, ht, -⟩ | ⟨hnone, -⟩ | ⟨f, hf, -⟩
    · exact absurd ht (hunknown.file _ _ hfile)
    · rw [hnone]
      exact iff_of_true (Or.inl rfl) ⟨nofun, fun k hk => absurd hk (hkey.offset k)⟩
    · rw [hf]
      exact iff_of_false (by simp) (by simp)
  | rule _ _ _ hr => exact nomatch hunknown.rule.symm.trans hr
  | unknown hkey _ _ => exact iff_of_true (Or.inl rfl) ⟨nofun, fun k hk => absurd hk (hkey.offset k)⟩

/-! ### Texts that are resolved -/

/-- A text is resolved or refused unless it names a file at which reading breaks off or takes a module for a package. -/
theorem resolve_name_answers_iff (hname : name ≠ "") :
    ((∃ z, h.resolve (.text name) = .ok z) ∨ h.resolve (.text name) = .error (.problem (.input (.unknownZone name)))) ↔
      ¬h.BreaksAt name := by
  rw [resolve.eq_3 h name hname, ← named_ok_iff]
  constructor
  · rintro (⟨z, hz⟩ | hrefused)
    · obtain ⟨found, hfound, -⟩ := Outcome.bind_eq_ok.mp hz
      exact ⟨found, hfound⟩
    · rcases Outcome.bind_eq_error.mp hrefused with hf | ⟨found, hfound, -⟩
      · exact absurd hf named_ne_problem
      · exact ⟨found, hfound⟩
  · rintro ⟨found, hfound⟩
    rw [hfound]
    cases found with
    | none => exact Or.inr rfl
    | some z => exact Or.inl ⟨z, rfl⟩

/-- A machine with a file that ends in the middle of its header. -/
def cutInHeader : Host where
  tz := ""
  systemZone := .utc
  files := [("/tmp/zone", [84, 90, 105, 102, 50])]

theorem cutInHeader_file : cutInHeader.file? "/tmp/zone".toList = some [84, 90, 105, 102, 50] := by decide

theorem read_cutInHeader : Compiled.read [84, 90, 105, 102, 50] = .error (.cutShort 24) := by rfl

theorem cutInHeader_breaksAt : cutInHeader.BreaksAt "/tmp/zone" :=
  Or.inl ⟨_, .of_file? cutInHeader_file, Or.inl ⟨24, read_cutInHeader⟩⟩

theorem cutInHeader_unknown : cutInHeader.Unknown "/tmp/zone" :=
  unknown_of_file? cutInHeader_file fun _ ht => nomatch ht.symm.trans read_cutInHeader

end Host
end JobScheduling
