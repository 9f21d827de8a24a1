import JobScheduling.Cron.Schedule
import JobScheduling.Error.Fault
import JobScheduling.Text.LetterCase
import JobScheduling.Value.Access

/-!
Reading cron expressions. An expression is an alias or has five or six fields, five standing for a schedule
that fires at second zero. A field is a list of parts separated by commas, and each part denotes an arithmetic
progression: `*` and `?` the whole range, `a` a single value, `a-b` a range, and any of them but `?` may be
followed by `/` and a step.
-/

namespace JobScheduling
namespace Cron

open Text

/-! ### Progressions -/

/-- The values from `first` to `last` at distance `step`. -/
structure Progression where
  first : Nat
  last : Nat
  step : Nat
deriving DecidableEq, Repr

/-- Whether a value belongs to a progression. -/
def Progression.holds (p : Progression) (n : Nat) : Bool :=
  p.first ≤ n && n ≤ p.last && (n - p.first) % p.step == 0

/-- The values of a field that a list of progressions denotes, in ascending order. -/
def Field.union (f : Field) (ps : List Progression) : List Nat :=
  f.range.filter fun n => ps.any (·.holds n)

theorem Field.mem_union {f : Field} {ps : List Progression} {n : Nat} :
    n ∈ f.union ps ↔ (f.low ≤ n ∧ n ≤ f.high) ∧ ∃ p ∈ ps, p.holds n = true := by
  simp [union, Field.mem_range]

/-! ### Values -/

/-- The error about a field of the expression `written`. -/
def flawed {α : Type} (written : String) (f : Field) (flaw : ExpressionFlaw) : Outcome α :=
  .error (.problem (.expression written flaw (some f)))

/-- The most digits that a numeral may have. -/
def maxNumeralDigits : Nat := 4300

/-- The number that ASCII digits write. -/
def ofAsciiDigits (s : List Char) : Nat := s.foldl (fun n c => 10 * n + (c.toNat - 48)) 0

/-- The number that a numeral of ASCII digits writes. -/
def numeral (written : String) (f : Field) (s : List Char) : Outcome Nat :=
  if s.isEmpty || !s.all isAsciiDigit then flawed written f (.unrecognized (String.ofList s))
  else if maxNumeralDigits < s.length then
    .error (.badValue "Exceeds the limit (4300 digits) for integer string conversion")
  else .ok (ofAsciiDigits s)

/-- The value that a name of the field stands for, in upper or lower case. -/
def Field.named? (f : Field) (s : List Char) : Option Nat :=
  (f.names.findIdx? fun name => name.toList == upper s).map (f.low + ·)

/-- The value of the field that a name or a numeral writes. -/
def fieldValue (written : String) (f : Field) (s : List Char) : Outcome Nat := do
  let n ← match f.named? s with
    | some n => .ok n
    | none => numeral written f s
  if f.low ≤ n ∧ n ≤ f.high then .ok n else flawed written f (.outOfRange f n)

/-! ### Parts, lists and fields -/

/-- The step that follows a part, one where there is none. -/
def stepOf (written : String) (f : Field) : Option (List Char) → Outcome Nat
  | none => .ok 1
  | some s => do
    let n ← numeral written f s
    if n < 1 then flawed written f (.stepNotPositive (String.ofList s)) else .ok n

/-- The progression that one part of a list denotes. -/
def part (written : String) (f : Field) (s : List Char) : Outcome Progression := do
  let (base, stepText) := cut '/' s
  let step ← stepOf written f stepText
  if base = ['?'] then
    if !f.allowsOpen || stepText.isSome then flawed written f .misplacedOpen
    else .ok ⟨f.low, f.high, 1⟩
  else if base = ['*'] then .ok ⟨f.low, f.high, step⟩
  else
    match cut '-' base with
    | (a, some b) => do
      let first ← fieldValue written f a
      let last ← fieldValue written f b
      if last < first then flawed written f (.descendingRange (String.ofList base))
      else .ok ⟨first, last, step⟩
    | (_, none) => do
      let first ← fieldValue written f base
      .ok ⟨first, if stepText.isSome then f.high else first, step⟩

/-- The progressions that the parts of a list denote. -/
def parts (written : String) (f : Field) : List (List Char) → Outcome (List Progression)
  | [] => .ok []
  | s :: rest => do
    let p ← if s.isEmpty then flawed written f .emptyElement else part written f s
    let ps ← parts written f rest
    .ok (p :: ps)

/-- The values that a field of an expression allows. -/
def fieldValues (written : String) (f : Field) (s : List Char) : Outcome (List Nat) := do
  .ok (f.union (← parts written f (pieces ',' s)))

/-! ### Expressions -/

/-- What each alias stands for. -/
def aliases : List (String × String) :=
  [("@yearly", "0 0 1 1 *"), ("@annually", "0 0 1 1 *"), ("@monthly", "0 0 1 * *"), ("@weekly", "0 0 * * 0"),
    ("@daily", "0 0 * * *"), ("@midnight", "0 0 * * *"), ("@hourly", "0 * * * *")]

/-- The expression that an alias stands for, in upper or lower case. -/
def expansion? (s : List Char) : Option String :=
  (aliases.find? fun a => a.1.toList == lower s).map (·.2)

/-- A day field is restricted unless it begins with a star or a question mark. -/
def isRestricted (s : List Char) : Bool := !(s.head? == some '*' || s.head? == some '?')

/-- The schedule of six fields. -/
def ofFields (written : String) (expression sec min hour dom month dow : List Char) : Outcome Schedule := do
  let seconds ← fieldValues written .second sec
  let minutes ← fieldValues written .minute min
  let hours ← fieldValues written .hour hour
  let daysOfMonth ← fieldValues written .dayOfMonth dom
  let months ← fieldValues written .month month
  let daysOfWeek ← fieldValues written .dayOfWeek dow
  .ok
    { expression := String.ofList expression
      seconds, minutes, hours, daysOfMonth, months, daysOfWeek
      dayOfMonthRestricted := isRestricted dom
      dayOfWeekRestricted := isRestricted dow }

/-- The fields of a trimmed expression, an alias standing for those of its expansion. -/
def fieldsOf (written : String) (s : List Char) : Outcome (List (List Char)) :=
  if s.head? = some '@' then
    match expansion? s with
    | some e => .ok (words e.toList)
    | none => .error (.problem (.expression written (.unknownAlias (String.ofList s)) none))
  else .ok (words s)

/-- The schedule that an expression writes. -/
def parse (written : String) : Outcome Schedule := do
  let s := trim written.toList
  match ← fieldsOf written s with
  | [min, hour, dom, month, dow] => ofFields written s ['0'] min hour dom month dow
  | [sec, min, hour, dom, month, dow] => ofFields written s sec min hour dom month dow
  | fields => .error (.problem (.expression written (.fieldCount fields.length) none))

/-- The schedule that a value writes: only a text can be an expression, and any other value is written into the
    error, if it can be. -/
def parseValue : Value → Outcome Schedule
  | .text s => parse s
  | v => do .error (.problem (.expression (← v.shown) .notText none))

end Cron
end JobScheduling
