import JobScheduling.Text.LetterCase
import JobScheduling.Zone.Basic
import JobScheduling.Zone.Compiled
import JobScheduling.Zone.Store

/-!
From names to zones and back. A zone may be named by `UTC`, by a fixed offset such as `UTC+02:00`, by a region of
the zone database, by the path of a compiled zone file or by a yearly rule; the machine's own zone stands where no
name is given. To look up a rule or the path of a file leaves its zone with the machine, to be found again for a
while.
-/

namespace JobScheduling

open Text

/-! ### The machine -/

/-- What the machine knows of zones: the `TZ` variable, its own zone, its files, the compiled files of the zone database
    by their keys, and the zones that it has made from texts. The files of a machine do not change, so a zone that it
    keeps is the one that its file or rule still means. -/
structure Host where
  tz : String
  systemZone : Zone
  files : List (String × List UInt8)
  database : List (String × List UInt8) := []
  /-- The modules in the package of the database that are no packages themselves, by their dotted names in it. -/
  modules : List String := []
  zones : ZoneStore := default

instance : Inhabited Host := ⟨{ tz := "", systemZone := .utc, files := [] }⟩

/-- The directories that exist apart from those of files. -/
def Host.directories : List (List (List Char)) := [[], ["tmp".toList]]

/-- The steps of a path, empty ones and dots left out. -/
def pathSteps (path : List Char) : List (List Char) :=
  (pieces '/' path).filter fun s => !(s.isEmpty || s == ['.'])

/-- The steps of the file that an absolute path leads to, a double dot going back. Every step but the last
    one has to lead to a directory of `isDirectory`. -/
def walkPath (isDirectory : List (List Char) → Bool) (here : List (List Char)) :
    List (List Char) → Option (List (List Char))
  | [] => some here
  | s :: rest =>
    if isDirectory here then
      walkPath isDirectory (if s = ['.', '.'] then here.dropLast else here ++ [s]) rest
    else none

/-- The bytes of the file at an absolute path. -/
def Host.file? (h : Host) (path : List Char) : Option (List UInt8) :=
  let known := h.files.map fun f => (pathSteps f.1.toList, f.2)
  let isDirectory := fun (d : List (List Char)) =>
    directories.contains d || known.any fun f => d.length < f.1.length && f.1.take d.length == d
  let endsInDirectory := path.getLast? == some '/' || (pieces '/' path).getLast? == some ['.']
  if path.head? = some '/' ∧ !endsInDirectory then
    (walkPath isDirectory [] (pathSteps path)).bind fun steps => (known.find? fun f => f.1 == steps).map (·.2)
  else none

/-! ### Fixed offsets -/

/-- The zone of a fixed offset without a name; the offset zero is UTC. -/
def Zone.ofOffset (offset : Int) : Zone := if offset = 0 then .utc else .fixed offset none

/-- The number that two digits of any script write. -/
def pair? : List Char → Option (Nat × List Char)
  | a :: b :: s => do
    let x ← decimalDigit? a
    let y ← decimalDigit? b
    some (10 * x + y, s)
  | _ => none

/-- The offset that `UTC+02:00` or `UTC-02:00:30` writes, in seconds; a line end may follow it. -/
def utcOffset? (s : List Char) : Option Int := do
  let (negative, s) ← match s with
    | 'U' :: 'T' :: 'C' :: '+' :: s => some (false, s)
    | 'U' :: 'T' :: 'C' :: '-' :: s => some (true, s)
    | _ => none
  let (hours, s) ← pair? s
  let s ← match s with | ':' :: s => some s | _ => none
  let (minutes, s) ← pair? s
  let (seconds, s) ← match s with | ':' :: s => pair? s | s => some (0, s)
  if s = [] ∨ s = ['\n'] then
    let total := Int.ofNat (hours * 3600 + minutes * 60 + seconds)
    some (if negative then -total else total)
  else none

/-- The text of an offset as a name of a zone, what is below a second left out. -/
def offsetName (offset : Int) : String :=
  let s := offset.natAbs / 1000000
  String.ofList ("UTC".toList ++ (if offset < 0 then '-' else '+') :: Calendar.padded 2 (s / 3600) ++
    ':' :: Calendar.padded 2 (s / 60 % 60) ++ (if s % 60 = 0 then [] else ':' :: Calendar.padded 2 (s % 60)))

/-! ### From a name to a zone -/

/-- What a name is found to mean: a zone that is always there, or a table whose zone is made and kept. -/
inductive NamedZone where
  | fixed (z : Zone)
  | kept (place : ZonePlace) (t : OffsetTable)

/-- The table of a file, if it holds one. -/
def tableOfFile (bytes : List UInt8) : Outcome (Option OffsetTable) :=
  match Compiled.read bytes with
  | .ok t => .ok (some t)
  | .error (.badValue _) => .ok none
  | .error f => .error f

/-- The file of a key in the zone database. Neither an empty text nor an absolute path is a key. -/
def Host.regionFile? (h : Host) (key : String) : Option (List UInt8) :=
  match key.toList.head? with
  | none | some '/' => none
  | some _ => h.database.lookup key

/-- The module of the zone database that a key takes for a package of files. A text with an empty step or a dot is no
    key. -/
def Host.module? (h : Host) (key : String) : Option String :=
  let steps := pieces '/' key.toList
  if steps.any fun s => s.isEmpty || s == ['.'] || s == ['.', '.'] then none
  else h.modules.find? fun m => m.toList == List.intercalate ['.'] steps.dropLast

/-- The table of a key in the zone database. A key that is not there and takes a module for a package cannot be looked
    up. -/
def Host.region? (h : Host) (key : String) : Outcome (Option OffsetTable) :=
  match h.regionFile? key with
  | some bytes => tableOfFile bytes
  | none =>
    match h.module? key with
    | some m => .error (.badType (Text.quoted ("tzdata.zoneinfo." ++ m) ++ " is not a package"))
    | none => .ok none

/-- The table that a rule gives for all times. -/
def OffsetTable.ofRule (r : Rule) : OffsetTable :=
  { before := r.standard, initial := r.standard, transitions := #[], after := r }

/-- What a name is found to mean, if anything. -/
def Host.found (h : Host) (key : String) : Outcome (Option NamedZone) :=
  let s := key.toList
  if upper s = ['U', 'T', 'C'] then .ok (some (.fixed .utc))
  else
    match utcOffset? s with
    | some seconds =>
      .ok (if seconds.natAbs < 86400 then some (.fixed (Zone.ofOffset (seconds * 1000000))) else none)
    | none => do
      match ← h.region? key with
      | some t => .ok (some (.fixed (.table 0 key t)))
      | none =>
        match h.file? s with
        | some bytes => do .ok ((← tableOfFile bytes).map (.kept .file))
        | none => .ok ((Rule.ofKey? s).map fun r => .kept .rule (.ofRule r))

/-- The zone that a name is found to mean; one that is made has the number that is kept for its name, or the next. -/
def NamedZone.zone (zones : ZoneStore) (key : String) : NamedZone → Zone
  | fixed z => z
  | kept place t => .table (zones.numberOf place key) key t

/-- The zone of a name, if there is one. -/
def Host.named (h : Host) (key : String) : Outcome (Option Zone) := do
  .ok ((← h.found key).map (·.zone h.zones key))

/-- Where the zone of a name is kept, if it is one that is made. -/
def Host.place? (h : Host) (key : String) : Option ZonePlace :=
  match h.found key with
  | .ok (some (.kept place _)) => some place
  | _ => none

/-- The machine after a name was looked up. -/
def Host.look (h : Host) (key : String) : Host :=
  match h.place? key with
  | some place => { h with zones := h.zones.ask place key }
  | none => h

/-- The zone of the machine: the one that `TZ` names, and UTC if it names none; without `TZ` the one that the
    system is set to. -/
def Host.localZone (h : Host) : Outcome Zone :=
  let key := h.tz.toList.dropWhile (· = ':')
  if key.isEmpty then .ok h.systemZone
  else do .ok ((← h.named (String.ofList key)).getD .utc)

/-- What a caller says about a zone. -/
inductive ZoneHint where
  | unsaid
  | text (name : String)
  | zone (z : Zone)
  | value (v : Value)
deriving Inhabited

/-- Whether a hint says nothing. -/
def ZoneHint.isUnsaid : ZoneHint → Bool
  | unsaid => true
  | _ => false

/-- A value as a hint. -/
def ZoneHint.ofValue : Value → ZoneHint
  | .null => unsaid
  | .text s => text s
  | v => value v

/-- The zone that a hint means; without one the zone of the machine. -/
def Host.resolve (h : Host) : ZoneHint → Outcome Zone
  | .unsaid => h.localZone
  | .text "" => h.localZone
  | .text name => do
    match ← h.named name with
    | some z => .ok z
    | none => .error (.problem (.input (.unknownZone name)))
  | .zone z => .ok z
  | .value v => .error (.problem (.input (.unsupportedZone v.typeName)))

/-! ### From a zone to a name -/

/-- The identifier that a zone of a caller carries, if it is one of a zone. -/
def Host.carriedId (h : Host) : Zone → Outcome (Option String)
  | .keyed _ .key (.text s) _ | .keyed _ .zone (.text s) _ =>
    if s = "" then .ok none else do .ok ((← h.found s).map fun _ => s)
  | _ => .ok none

/-- The name of a zone, which resolves to an equivalent zone. -/
def Host.zoneId (h : Host) (z : Zone) : Outcome String :=
  match z with
  | .utc => .ok "UTC"
  | .table _ key _ => .ok key
  | .fixed offset _ => .ok (offsetName offset)
  | z => do
    match ← h.carriedId z with
    | some id => .ok id
    | none =>
      match z.constantOffset? with
      | some offset => .ok (offsetName offset)
      | none => .error (.problem (.input (.anonymousZone z.shown)))

end JobScheduling
