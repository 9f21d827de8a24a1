import JobScheduling.Log.Record
import JobScheduling.Text.Lines

/-!
Console text of log records: the level, the event and the name of the logger in columns, the other fields behind
them in the order of their names, and what tells of a stack or of an exception on lines of its own. A record is one
line as a rule; line ends in what it shows as it stands make it several. The time in front is left to the console.
-/

namespace JobScheduling
namespace Logger

/-! ### Fields -/

/-- The characters that make a text be shown in quotes. -/
def consoleMarks : List Char := [' ', '\t', '=', '\r', '\n', '"', '\'']

/-- A value on the console: a text as it is unless it holds one of the marks, anything else as in descriptions. -/
def consoleValue : Value → List Char
  | .text s => if s.toList.any consoleMarks.contains then Text.quote s.toList else s.toList
  | v => v.notationChars

/-- The width that events are filled up to. -/
def eventWidth : Nat := 30

/-- A text filled up with spaces. -/
def fill (width : Nat) (s : List Char) : List Char := s ++ List.replicate (width - s.length) ' '

/-- The columns in front of the fields, those that there are. -/
def columns (fields : Fields) : List (List Char) :=
  let column := fun (name : String) (show' : List Char → List Char) =>
    ((fields.lookup name).map fun v => show' v.plain.toList).toList
  column "level" (fun s => '[' :: fill 8 s ++ [']']) ++ column "event" (fill eventWidth) ++
    column "logger" (fun s => '[' :: s ++ [']']) ++ column "logger_name" (fun s => '[' :: s ++ [']'])

/-- The names that have a place of their own. -/
def placed : List String := ["timestamp", "level", "event", "logger", "logger_name", "stack", "exception"]

/-- The fields behind the columns. -/
def assignments (fields : Fields) : List (List Char) :=
  let others := (fields.filter fun f => !placed.contains f.1).mergeSort fun a b => !(b.1 < a.1)
  others.map fun f => f.1.toList ++ '=' :: consoleValue f.2

/-! ### Text -/

/-- A field that has lines of its own: nothing if it is null, and no text at all if it holds no text. -/
def paragraph? (fields : Fields) (name : String) : Option (Option (List Char)) :=
  match fields.lookup name with
  | none | some .null => some none
  | some (.text s) => some (some s.toList)
  | some _ => none

/-- The line that parts a stack from an exception. -/
def rule : List Char := List.replicate 79 '='

/-- The console text of a call, if there is one: all of its values have to be written. The time stands in front of
    it. -/
def consoleText? (l : Logger) (c : LogCall) : Option (List Char) := do
  let fields ← some (l.fields c) |>.filter fun fields => fields.all (·.2.isWritable)
  let stack ← paragraph? fields "stack"
  let failure ← paragraph? fields "exception"
  let first := Text.join [' '] ("time".toList :: columns fields ++ assignments fields)
  let first := (first.reverse.dropWhile (· == ' ')).reverse
  let stack := match stack with
    | some s => '\n' :: s ++ if failure.isSome then '\n' :: '\n' :: rule ++ ['\n'] else []
    | none => []
  some (first ++ stack ++ (failure.map ('\n' :: ·)).getD [])

/-- The lines that calls leave on the console. -/
def consoleLines (l : Logger) (calls : List LogCall) : List (List Char) :=
  Text.lines ((calls.filterMap l.consoleText?).flatMap (· ++ ['\n']))

end Logger
end JobScheduling
