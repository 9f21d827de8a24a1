import Mathlib
import JobScheduling.Proofs.Outcome
import JobScheduling.Proofs.Text.LetterCase
import JobScheduling.Zone.Resolve

/-! Zones and their names. A zone that a name leads to has an identifier, on any machine the same, and a machine with
    the same files is led by it to the same zone but for its number: to UTC, to the offset that is written out again, or
    to the table that is known by the name. -/

namespace JobScheduling

open Text

/-! ### How offsets are written -/

/-- Two digits of any script write a number. -/
def WritesPair (s : List Char) (n : Nat) : Prop :=
  ∃ a b x y, s = [a, b] ∧ decimalDigit? a = some x ∧ decimalDigit? b = some y ∧ n = 10 * x + y

/-- Behind the minutes nothing may stand, or a colon and the seconds. -/
inductive WritesSeconds : List Char → Nat → Prop
  | unsaid : WritesSeconds [] 0
  | said {s : List Char} {n : Nat} (hs : WritesPair s n) : WritesSeconds (':' :: s) n

/-- Hours, minutes and perhaps seconds write a number of seconds; a line end may follow them. -/
def WritesClock (s : List Char) (n : Nat) : Prop :=
  ∃ hh mm ss rest hours minutes seconds, s = hh ++ ':' :: (mm ++ (ss ++ rest)) ∧ WritesPair hh hours ∧
    WritesPair mm minutes ∧ WritesSeconds ss seconds ∧ (rest = [] ∨ rest = ['\n']) ∧
    n = hours * 3600 + minutes * 60 + seconds

/-- The forms `UTC+HH:MM`, `UTC+HH:MM:SS` and the same with a minus write an offset in seconds. -/
inductive WritesOffset : List Char → Int → Prop
  | plus {s : List Char} {n : Nat} (hs : WritesClock s n) : WritesOffset ('U' :: 'T' :: 'C' :: '+' :: s) (Int.ofNat n)
  | minus {s : List Char} {n : Nat} (hs : WritesClock s n) : WritesOffset ('U' :: 'T' :: 'C' :: '-' :: s) (-Int.ofNat n)

theorem pair?_append {s : List Char} {n : Nat} (hs : WritesPair s n) (rest : List Char) :
    pair? (s ++ rest) = some (n, rest) := by
  obtain ⟨a, b, x, y, rfl, hx, hy, rfl⟩ := hs
  simp only [List.cons_append, List.nil_append, pair?, hx, hy, Option.bind_eq_bind, Option.bind_some]

theorem pair?_eq_some {s rest : List Char} {n : Nat} (h : pair? s = some (n, rest)) :
    ∃ t, WritesPair t n ∧ s = t ++ rest := by
  unfold pair? at h
  split at h
  · rename_i a b s
    obtain ⟨x, hx, h⟩ := Option.bind_eq_some_iff.mp h
    obtain ⟨y, hy, h⟩ := Option.bind_eq_some_iff.mp h
    cases h
    exact ⟨[a, b], ⟨a, b, x, y, rfl, hx, hy, rfl⟩, rfl⟩
  · cases h

/-! ### How offsets are read -/

/-- What the hours, minutes and seconds behind a sign come to. -/
def ofClock? (signed : Nat → Int) (s : List Char) : Option Int := do
  let (hours, s) ← pair? s
  let s ← match s with | ':' :: s => some s | _ => none
  let (minutes, s) ← pair? s
  let (seconds, s) ← match s with | ':' :: s => pair? s | s => some (0, s)
  if s = [] ∨ s = ['\n'] then some (signed (hours * 3600 + minutes * 60 + seconds)) else none

theorem utcOffset?_plus (s : List Char) : utcOffset? ('U' :: 'T' :: 'C' :: '+' :: s) = ofClock? Int.ofNat s := rfl

theorem utcOffset?_minus (s : List Char) :
    utcOffset? ('U' :: 'T' :: 'C' :: '-' :: s) = ofClock? (fun n => -Int.ofNat n) s := rfl

theorem ofClock?_eq_some_iff {signed : Nat → Int} {s : List Char} {k : Int} :
    ofClock? signed s = some k ↔ ∃ n, WritesClock s n ∧ k = signed n := by
  unfold ofClock?
  constructor
  · intro hread
    obtain ⟨⟨hours, t⟩, hhours, hread⟩ := Option.bind_eq_some_iff.mp hread
    dsimp only [Option.bind_eq_bind, Option.bind_some] at hread
    split at hread
    · obtain ⟨⟨minutes, u⟩, hminutes, hread⟩ := Option.bind_eq_some_iff.mp hread
      dsimp only at hread
      -- The seconds are read behind a second colon, and are zero without one.
      split at hread
      · obtain ⟨⟨seconds, rest⟩, hseconds, hread⟩ := Option.bind_eq_some_iff.mp hread
        split at hread
        · rename_i hrest
          cases hread
          obtain ⟨ss, hss, rfl⟩ := pair?_eq_some hseconds
          obtain ⟨mm, hmm, rfl⟩ := pair?_eq_some hminutes
          obtain ⟨hh, hhh, rfl⟩ := pair?_eq_some hhours
          exact ⟨_, ⟨hh, mm, ':' :: ss, rest, hours, minutes, seconds, rfl, hhh, hmm, .said hss, hrest, rfl⟩, rfl⟩
        · cases hread
      · split at hread
        · rename_i hrest
          cases hread
          obtain ⟨mm, hmm, rfl⟩ := pair?_eq_some hminutes
          obtain ⟨hh, hhh, rfl⟩ := pair?_eq_some hhours
          exact ⟨_, ⟨hh, mm, [], _, hours, minutes, 0, rfl, hhh, hmm, .unsaid, hrest, rfl⟩, rfl⟩
        · cases hread
    · cases hread
  · rintro ⟨n, ⟨hh, mm, ss, rest, hours, minutes, seconds, rfl, hhh, hmm, hss, hrest, rfl⟩, rfl⟩
    simp only [pair?_append hhh, pair?_append hmm, Option.bind_eq_bind, Option.bind_some]
    cases hss with
    | unsaid =>
      rcases hrest with rfl | rfl
      · rfl
      · rfl
    | said hs => simp only [List.cons_append, pair?_append hs, Option.bind_some, if_pos hrest]

/-- An offset is read from exactly the forms in which it is written. -/
theorem utcOffset?_eq_some_iff {s : List Char} {k : Int} : utcOffset? s = some k ↔ WritesOffset s k := by
  constructor
  · intro h
    unfold utcOffset? at h
    split at h
    · obtain ⟨n, hn, rfl⟩ := ofClock?_eq_some_iff.mp ((utcOffset?_plus _).symm.trans h)
      exact .plus hn
    · obtain ⟨n, hn, rfl⟩ := ofClock?_eq_some_iff.mp ((utcOffset?_minus _).symm.trans h)
      exact .minus hn
    · cases h
  · intro h
    cases h with
    | plus hs => exact (utcOffset?_plus _).trans (ofClock?_eq_some_iff.mpr ⟨_, hs, rfl⟩)
    | minus hs => exact (utcOffset?_minus _).trans (ofClock?_eq_some_iff.mpr ⟨_, hs, rfl⟩)

/-- No text writes two offsets. -/
theorem WritesOffset.unique {s : List Char} {k l : Int} (hk : WritesOffset s k) (hl : WritesOffset s l) : k = l :=
  Option.some.inj ((utcOffset?_eq_some_iff.mpr hk).symm.trans (utcOffset?_eq_some_iff.mpr hl))

/-! ### What is written for an offset -/

theorem padded_two : ∀ n < 100, Calendar.padded 2 n = [Nat.digitChar (n / 10), Nat.digitChar (n % 10)] := by decide

theorem decimalDigit?_digitChar : ∀ n < 10, decimalDigit? (Nat.digitChar n) = some n := by decide

theorem writesPair_padded {n : Nat} (hn : n < 100) : WritesPair (Calendar.padded 2 n) n :=
  ⟨_, _, n / 10, n % 10, padded_two n hn, decimalDigit?_digitChar _ (by omega), decimalDigit?_digitChar _ (by omega),
    (Nat.div_add_mod n 10).symm⟩

/-- The seconds behind the minutes, which are left out where there are none. -/
def secondsText (n : Nat) : List Char := if n = 0 then [] else ':' :: Calendar.padded 2 n

theorem writesSeconds_secondsText {n : Nat} (hn : n < 100) : WritesSeconds (secondsText n) n := by
  unfold secondsText
  split
  · rename_i hzero
    rw [hzero]
    exact .unsaid
  · exact .said (writesPair_padded hn)

/-- What is written for an offset of so many seconds with a sign. -/
def offsetChars (sign : Char) (n : Nat) : List Char :=
  'U' :: 'T' :: 'C' :: sign ::
    (Calendar.padded 2 (n / 3600) ++ ':' :: (Calendar.padded 2 (n / 60 % 60) ++ secondsText (n % 60)))

theorem offsetName_toList (offset : Int) :
    (offsetName offset).toList = offsetChars (if offset < 0 then '-' else '+') (offset.natAbs / 1000000) := by
  unfold offsetName offsetChars secondsText
  rw [String.toList_ofList]
  simp only [List.append_assoc, List.cons_append]
  rfl

theorem writesClock_padded {n : Nat} (hn : n < 86400) : WritesClock
    (Calendar.padded 2 (n / 3600) ++ ':' :: (Calendar.padded 2 (n / 60 % 60) ++ secondsText (n % 60))) n := by
  have hh : n / 3600 < 100 := by omega
  have hm : n / 60 % 60 < 100 := by omega
  have hs : n % 60 < 100 := by omega
  refine ⟨_, _, _, [], _, _, _, ?_, writesPair_padded hh, writesPair_padded hm, writesSeconds_secondsText hs,
    Or.inl rfl, ?_⟩
  · rw [List.append_nil]
  · omega

/-- What is written for an offset below a day writes the whole seconds of it. -/
theorem writesOffset_offsetName {offset : Int} (hday : offset.natAbs < 86400000000) :
    WritesOffset (offsetName offset).toList (offset.tdiv 1000000) := by
  have hn : offset.natAbs / 1000000 < 86400 := by omega
  rw [offsetName_toList]
  by_cases hnegative : offset < 0
  · have hseconds : offset.tdiv 1000000 = -Int.ofNat (offset.natAbs / 1000000) := by
      rw [← neg_neg offset, Int.neg_tdiv, Int.tdiv_eq_ediv_of_nonneg (by omega), Int.natAbs_neg, Int.ofNat_eq_natCast]
      omega
    rw [if_pos hnegative, hseconds]
    exact .minus (writesClock_padded hn)
  · have hseconds : offset.tdiv 1000000 = Int.ofNat (offset.natAbs / 1000000) := by
      rw [Int.tdiv_eq_ediv_of_nonneg (not_lt.mp hnegative), Int.ofNat_eq_natCast]
      omega
    rw [if_neg hnegative, hseconds]
    exact .plus (writesClock_padded hn)

/-- What writes an offset is no way to write UTC: its sign stays in the capitals. -/
theorem WritesOffset.upper_ne {s : List Char} {k : Int} (h : WritesOffset s k) : upper s ≠ ['U', 'T', 'C'] := by
  cases h with
  | plus _ => exact ne_of_mem_of_not_mem' (mem_upper (c := '+') rfl (by simp)) (by decide)
  | minus _ => exact ne_of_mem_of_not_mem' (mem_upper (c := '-') rfl (by simp)) (by decide)

theorem offsetName_ne_empty (offset : Int) : offsetName offset ≠ "" := by
  intro h
  have hlist := offsetName_toList offset
  rw [h] at hlist
  cases hlist

/-! ### Zones that are named -/

/-- A text that neither spells UTC nor writes an offset. -/
structure IsKey (name : String) : Prop where
  utc : upper name.toList ≠ ['U', 'T', 'C']
  offset : ∀ k, ¬WritesOffset name.toList k

/-! ### Numbers of zones -/

/-- The zone without its number. -/
def Zone.unnumbered : Zone → Zone
  | table _ key t => table 0 key t
  | seasonal _ => seasonal 0
  | keyed _ under id offset => keyed 0 under id offset
  | unaware _ => unaware 0
  | z => z

namespace Zone

@[simp] theorem offsets_unnumbered (z : Zone) : z.unnumbered.offsets = z.offsets := by
  cases z <;> rfl

@[simp] theorem zoneId_unnumbered (h : Host) (z : Zone) : h.zoneId z.unnumbered = h.zoneId z := by
  cases z with
  | keyed _ under id _ => cases under <;> cases id <;> rfl
  | _ => rfl

theorem offsets_of_unnumbered {y z : Zone} (hyz : y.unnumbered = z.unnumbered) : y.offsets = z.offsets := by
  rw [← y.offsets_unnumbered, hyz, z.offsets_unnumbered]

theorem zoneId_of_unnumbered {y z : Zone} (hyz : y.unnumbered = z.unnumbered) (h : Host) : h.zoneId y = h.zoneId z := by
  rw [← zoneId_unnumbered h y, hyz, zoneId_unnumbered h z]

end Zone

/-- Whatever zones are kept, a name is found to mean zones that differ in their numbers alone. -/
theorem NamedZone.unnumbered_zone (n : NamedZone) (a b : ZoneStore) (name : String) :
    (n.zone a name).unnumbered = (n.zone b name).unnumbered := by
  cases n <;> rfl

/-! ### Machines -/

/-- Two machines have the same files and the same zone database. -/
structure Host.SameFiles (g h : Host) : Prop where
  files : g.files = h.files
  database : g.database = h.database
  modules : g.modules = h.modules

namespace Host

variable {g h : Host} {name : String} {z : Zone}

theorem SameFiles.rfl : h.SameFiles h := ⟨Eq.refl _, Eq.refl _, Eq.refl _⟩

theorem SameFiles.trans {f : Host} (hfg : f.SameFiles g) (hgh : g.SameFiles h) : f.SameFiles h :=
  ⟨hfg.files.trans hgh.files, hfg.database.trans hgh.database, hfg.modules.trans hgh.modules⟩

/-- What a name is found to mean depends on the files alone. -/
theorem SameFiles.found (hfiles : g.SameFiles h) (name : String) : g.found name = h.found name := by
  unfold Host.found region? regionFile? module? file?
  rw [hfiles.files, hfiles.database, hfiles.modules]

theorem look_sameFiles (h : Host) (name : String) : (h.look name).SameFiles h := by
  unfold look
  split
  · exact ⟨Eq.refl _, Eq.refl _, Eq.refl _⟩
  · exact .rfl

/-! ### What names mean -/

theorem named_eq_ok_iff : h.named name = .ok (some z) ↔ ∃ n, h.found name = .ok (some n) ∧ n.zone h.zones name = z := by
  unfold named
  cases h.found name with
  | error f => simp
  | ok found => cases found <;> simp

/-- A text that writes an offset below a day means that offset. -/
theorem found_of_writesOffset {k : Int} (hk : WritesOffset name.toList k) (hday : k.natAbs < 86400) :
    h.found name = .ok (some (.fixed (Zone.ofOffset (k * 1000000)))) := by
  simp only [found, if_neg hk.upper_ne, utcOffset?_eq_some_iff.mpr hk, if_pos hday]

theorem named_of_writesOffset {k : Int} (hk : WritesOffset name.toList k) (hday : k.natAbs < 86400) :
    h.named name = .ok (some (Zone.ofOffset (k * 1000000))) :=
  named_eq_ok_iff.mpr ⟨_, found_of_writesOffset hk hday, rfl⟩

/-- What is written for an offset below a day names the offset of its whole seconds. -/
theorem named_wholeSeconds (h : Host) {offset : Int} (hday : offset.natAbs < 86400000000) :
    h.named (offsetName offset) = .ok (some (Zone.ofOffset (offset.tdiv 1000000 * 1000000))) := by
  have hseconds : (offset.tdiv 1000000).natAbs < 86400 := by
    rw [Int.natAbs_tdiv]
    exact Nat.div_lt_of_lt_mul hday
  exact named_of_writesOffset (writesOffset_offsetName hday) hseconds

/-- What a name is found to mean, by the first of the ways to read it that applies: it spells UTC, writes an offset, is
    a key of the database, is the path of a file, or writes a rule. -/
inductive Leads (h : Host) (name : String) : Outcome (Option NamedZone) → Prop
  | utc (hutc : upper name.toList = ['U', 'T', 'C']) : Leads h name (.ok (some (.fixed .utc)))
  | offset {k : Int} (hk : WritesOffset name.toList k) (hday : k.natAbs < 86400) :
    Leads h name (.ok (some (.fixed (Zone.ofOffset (k * 1000000)))))
  | beyondDay {k : Int} (hk : WritesOffset name.toList k) (hday : 86400 ≤ k.natAbs) : Leads h name (.ok none)
  | region {t : OffsetTable} (hkey : IsKey name) (hregion : h.region? name = .ok (some t)) :
    Leads h name (.ok (some (.fixed (.table 0 name t))))
  | regionFailed {f : Fault} (hkey : IsKey name) (hregion : h.region? name = .error f) : Leads h name (.error f)
  | file {bytes : List UInt8} (hkey : IsKey name) (hregion : h.region? name = .ok none)
      (hfile : h.file? name.toList = some bytes) :
    Leads h name (do .ok ((← tableOfFile bytes).map (.kept .file)))
  | rule {r : Rule} (hkey : IsKey name) (hregion : h.region? name = .ok none) (hfile : h.file? name.toList = none)
      (hr : Rule.ofKey? name.toList = some r) : Leads h name (.ok (some (.kept .rule (.ofRule r))))
  | unknown (hkey : IsKey name) (hregion : h.region? name = .ok none) (hfile : h.file? name.toList = none) :
    Leads h name (.ok none)

theorem found_leads (h : Host) (name : String) : h.Leads name (h.found name) := by
  unfold found
  dsimp only
  split
  · exact .utc ‹_›
  rename_i hutc
  split
  · rename_i k hk
    have hk := utcOffset?_eq_some_iff.mp hk
    split
    · exact .offset hk ‹_›
    · exact .beyondDay hk (not_lt.mp ‹_›)
  rename_i hoffset
  have hkey : IsKey name := ⟨hutc, fun k hk => nomatch hoffset.symm.trans (utcOffset?_eq_some_iff.mpr hk)⟩
  cases hregion : h.region? name with
  | error f => exact .regionFailed hkey hregion
  | ok region =>
    rw [Outcome.ok_bind]
    cases region with
    | some t => exact .region hkey hregion
    | none =>
      dsimp only
      split
      · exact .file hkey hregion ‹_›
      · rename_i hfile
        cases hrule : Rule.ofKey? name.toList with
        | none => exact .unknown hkey hregion hfile
        | some r => exact .rule hkey hregion hfile hrule

/-- A name means UTC if it spells it, the offset that it writes if that is below a day, and else only a table that is
    known by it. -/
theorem Leads.meaning {x : Outcome (Option NamedZone)} {n : NamedZone} (hx : h.Leads name x) (hn : x = .ok (some n)) :
    upper name.toList = ['U', 'T', 'C'] ∧ n = .fixed .utc ∨
      (∃ k, WritesOffset name.toList k ∧ k.natAbs < 86400 ∧ n = .fixed (Zone.ofOffset (k * 1000000))) ∨
      IsKey name ∧ ((∃ t, n = .fixed (.table 0 name t)) ∨ ∃ place t, n = .kept place t) := by
  cases hx with
  | utc hutc =>
    cases hn
    exact Or.inl ⟨hutc, rfl⟩
  | offset hk hday =>
    cases hn
    exact Or.inr (Or.inl ⟨_, hk, hday, rfl⟩)
  | region hkey _ =>
    cases hn
    exact Or.inr (Or.inr ⟨hkey, Or.inl ⟨_, rfl⟩⟩)
  | rule hkey _ _ _ =>
    cases hn
    exact Or.inr (Or.inr ⟨hkey, Or.inr ⟨_, _, rfl⟩⟩)
  | file hkey _ _ =>
    obtain ⟨t?, -, hn⟩ := Outcome.bind_eq_ok.mp hn
    obtain ⟨t, -, rfl⟩ := Option.map_eq_some_iff.mp (Except.ok.inj hn)
    exact Or.inr (Or.inr ⟨hkey, Or.inr ⟨_, _, rfl⟩⟩)
  | regionFailed _ _ | beyondDay _ _ | unknown _ _ _ => cases hn

/-- A zone that a name means has an identifier that means the same, whatever zones are kept; it is the name itself
    unless that spells UTC or writes an offset. -/
theorem exists_identifier_of_found {n : NamedZone} (hname : name ≠ "") (hn : h.found name = .ok (some n)) :
    ∃ id, id ≠ "" ∧ (IsKey name → id = name) ∧ (∀ (g : Host) (s : ZoneStore), g.zoneId (n.zone s name) = .ok id) ∧
      h.found id = .ok (some n) ∧ ∀ s : ZoneStore, n.zone s id = n.zone s name := by
  rcases (h.found_leads name).meaning hn with ⟨hutc, rfl⟩ | ⟨seconds, hk, hday, rfl⟩ | ⟨-, ⟨t, rfl⟩ | ⟨place, t, rfl⟩⟩
  · exact ⟨"UTC", by decide, fun hkey => absurd hutc hkey.utc, fun _ _ => rfl, rfl, fun _ => rfl⟩
  · have hoffset (hkey : IsKey name) : False := hkey.offset seconds hk
    by_cases hzero : seconds * 1000000 = 0
    · have hutc : Zone.ofOffset (seconds * 1000000) = .utc := if_pos hzero
      rw [hutc]
      exact ⟨"UTC", by decide, fun hkey => (hoffset hkey).elim, fun _ _ => rfl, rfl, fun _ => rfl⟩
    · have hfixed : Zone.ofOffset (seconds * 1000000) = .fixed (seconds * 1000000) none := if_neg hzero
      refine ⟨offsetName (seconds * 1000000), offsetName_ne_empty _, fun hkey => (hoffset hkey).elim,
        fun g s => by rw [hfixed]; rfl, ?_, fun _ => rfl⟩
      have hbelow : (seconds * 1000000).natAbs < 86400000000 := by omega
      have hwrites := writesOffset_offsetName hbelow
      rw [Int.mul_tdiv_cancel seconds (by decide)] at hwrites
      exact found_of_writesOffset hwrites hday
  · exact ⟨name, hname, fun _ => rfl, fun _ _ => rfl, hn, fun _ => rfl⟩
  · exact ⟨name, hname, fun _ => rfl, fun _ _ => rfl, hn, fun _ => rfl⟩

/-! ### Zones that are resolved -/

theorem resolve_text_eq_ok_iff (hname : name ≠ "") : h.resolve (.text name) = .ok z ↔ h.named name = .ok (some z) := by
  rw [resolve.eq_3 h name hname, Outcome.bind_eq_ok]
  constructor
  · rintro ⟨found, hfound, hz⟩
    cases found with
    | none => cases hz
    | some found =>
      cases hz
      exact hfound
  · exact fun hz => ⟨some z, hz, rfl⟩

theorem resolve_of_found {n : NamedZone} (hname : name ≠ "") (hn : h.found name = .ok (some n)) :
    h.resolve (.text name) = .ok (n.zone h.zones name) :=
  (resolve_text_eq_ok_iff hname).mpr (named_eq_ok_iff.mpr ⟨n, hn, rfl⟩)

theorem found_of_resolve (hname : name ≠ "") (hz : h.resolve (.text name) = .ok z) :
    ∃ n, h.found name = .ok (some n) ∧ n.zone h.zones name = z :=
  named_eq_ok_iff.mp ((resolve_text_eq_ok_iff hname).mp hz)

/-- The identifier of a zone that a text is resolved to is resolved to the zone again, but for its number, wherever the
    files are the same. -/
theorem exists_identifier_of_resolve (hname : name ≠ "") (hz : h.resolve (.text name) = .ok z) :
    ∃ id, id ≠ "" ∧ (IsKey name → id = name) ∧ (∀ g : Host, g.zoneId z = .ok id) ∧ ∀ g : Host, g.SameFiles h →
      ∃ again, g.resolve (.text id) = .ok again ∧ again.unnumbered = z.unnumbered := by
  obtain ⟨n, hn, rfl⟩ := found_of_resolve hname hz
  obtain ⟨id, hid, hkey, hzone, hagain, hnumber⟩ := exists_identifier_of_found hname hn
  refine ⟨id, hid, hkey, fun g => hzone g h.zones, fun g hfiles => ?_⟩
  have hfound := (hfiles.found id).trans hagain
  exact ⟨_, resolve_of_found hid hfound, by rw [hnumber, n.unnumbered_zone g.zones h.zones]⟩

/-- A zone that a name means counts as equal to itself. -/
theorem same_of_found {n : NamedZone} (hn : h.found name = .ok (some n)) (s : ZoneStore) :
    (n.zone s name).same (n.zone s name) = true := by
  rcases (h.found_leads name).meaning hn with ⟨-, rfl⟩ | ⟨seconds, -, -, rfl⟩ | ⟨-, ⟨t, rfl⟩ | ⟨place, t, rfl⟩⟩
  · rfl
  · dsimp only [NamedZone.zone]
    unfold Zone.ofOffset
    split
    · rfl
    · exact beq_self_eq_true _
  · simp [NamedZone.zone, Zone.same, Zone.shares]
  · simp [NamedZone.zone, Zone.same, Zone.shares]

end Host
end JobScheduling
