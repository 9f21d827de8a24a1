import JobScheduling.Text.Trim
import JobScheduling.Zone.Rule

/-!
Reading yearly rules, as `CET-1CEST,M3.5.0,M10.5.0/3`: a name with its distance to UTC, west being positive,
and where summer time is kept a second name, an optional distance and the two changes of the year. A part that
is read leaves the rest of the text.
-/

namespace JobScheduling
namespace Rule

open Text

/-! ### Pieces -/

/-- An ASCII letter. -/
def isLetter (c : Char) : Bool := ('a' ≤ c && c ≤ 'z') || ('A' ≤ c && c ≤ 'Z')

/-- A character of a name between angle brackets. -/
def isBracketed (c : Char) : Bool := isLetter c || isAsciiDigit c || c == '+' || c == '-'

/-- A name of at least `least` letters, or of at least `enclosed` characters between angle brackets; gives the
    rest. -/
def afterName? (least enclosed : Nat) : List Char → Option (List Char)
  | '<' :: s =>
    match s.dropWhile isBracketed with
    | '>' :: rest => if enclosed + rest.length < s.length then some rest else none
    | _ => none
  | s =>
    let rest := s.dropWhile isLetter
    if least ≤ s.length - rest.length then some rest else none

/-- A number of one to `most` digits. -/
def number? (most : Nat) (s : List Char) : Option (Nat × List Char) :=
  let ds := (s.take most).takeWhile isAsciiDigit
  if ds.isEmpty then none
  else some (ds.foldl (fun n c => 10 * n + (c.toNat - 48)) 0, s.drop ds.length)

/-- A colon and exactly two digits, or nothing; whether something was read is told first. -/
def colonPair? : List Char → Option (Bool × Nat × List Char)
  | ':' :: a :: b :: s =>
    if isAsciiDigit a && isAsciiDigit b then some (true, 10 * (a.toNat - 48) + (b.toNat - 48), s) else none
  | ':' :: _ => none
  | s => some (false, 0, s)

/-- Hours of at most `digits` digits and at most `most`, then optional minutes and seconds; in seconds. -/
def clockTime? (digits most : Nat) (s : List Char) : Option (Int × List Char) := do
  let (negative, s) := match s with
    | '-' :: s => (true, s)
    | '+' :: s => (false, s)
    | s => (false, s)
  let (hours, s) ← number? digits s
  if most < hours then none
  let (more, minutes, s) ← colonPair? s
  let (_, seconds, s) ← if more then colonPair? s else some (false, 0, s)
  let total := Int.ofNat (hours * 3600 + minutes * 60 + seconds)
  some (if negative then -total else total, s)

/-- A distance to UTC, as the offset that it means: west is positive in the text. -/
def distance? (s : List Char) : Option (Int × List Char) :=
  (clockTime? 2 24 s).map fun r => (-r.1, r.2)

/-! ### Changes -/

/-- The day of a change. -/
def day? : List Char → Option (YearDay × List Char)
  | 'M' :: s => do
    let (month, s) ← number? 2 s
    let s ← match s with | '.' :: s => some s | _ => none
    let (week, s) ← number? 1 s
    let s ← match s with | '.' :: s => some s | _ => none
    let (dayOfWeek, s) ← number? 1 s
    if 1 ≤ month ∧ month ≤ 12 ∧ 1 ≤ week ∧ week ≤ 5 ∧ dayOfWeek ≤ 6 then
      some (.ofWeek month week dayOfWeek, s)
    else none
  | 'J' :: s => do
    let (n, s) ← number? 3 s
    if 1 ≤ n ∧ n ≤ 365 then some (.withoutLeapDay n, s) else none
  | s => do
    let (n, s) ← number? 3 s
    if n ≤ 365 then some (.counted n, s) else none

/-- A change: a comma, the day and an optional time, two o'clock where there is none. -/
def changeover? : List Char → Option (Changeover × List Char)
  | ',' :: s => do
    let (day, s) ← day? s
    match s with
    | '/' :: s =>
      let (time, s) ← clockTime? 3 167 s
      some (⟨day, time⟩, s)
    | s => some (⟨day, 7200⟩, s)
  | _ => none

/-! ### Rules -/

/-- The rule that a text writes. The name of summer time may be empty between its brackets. -/
def parse? (s : List Char) : Option Rule := do
  let s ← afterName? 1 1 s
  let (standard, s) ← distance? s
  if s.isEmpty then some ⟨standard, none⟩
  else
    let s ← afterName? 1 0 s
    let (offset, s) ← if s.head? = some ',' then some (standard + 3600, s) else distance? s
    let (start, s) ← changeover? s
    let (finish, s) ← changeover? s
    if s.isEmpty then some ⟨standard, some ⟨offset, start, finish⟩⟩ else none

/-- Whether a text begins as a rule does that stands for a zone: a name of three letters or more, or one
    between angle brackets, then a digit of any script, which a sign may precede. -/
def looksLikeRule (s : List Char) : Bool :=
  match afterName? 3 1 s with
  | some ('+' :: c :: _) | some ('-' :: c :: _) | some (c :: _) => (decimalDigit? c).isSome
  | _ => false

/-- The rule that a zone is named by: ASCII text, whose first line is the rule. -/
def ofKey? (s : List Char) : Option Rule :=
  if looksLikeRule s && isAscii s then parse? (cut '\n' s).1 else none

end Rule
end JobScheduling
