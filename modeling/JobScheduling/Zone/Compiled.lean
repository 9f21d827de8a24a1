import JobScheduling.Zone.Rule.Parser
import JobScheduling.Zone.Table

/-!
Reading compiled zone files. A file holds a header with counts, the instants of the changes, for each the
number of its type, the types with their offsets, and the names of the types; from version 2 on all of that is
there twice, with instants of 32 and of 64 bits, and a line with the rule after the last change follows. What
is no such file is a bad value, and a file that ends too early says how many bytes it lacks; only in the last line,
reading goes on at the end of the file for ever.
-/

namespace JobScheduling
namespace Compiled

open Text

/-! ### Numbers -/

/-- The number that bytes write, the most significant byte first. -/
def unsigned (bs : List UInt8) : Nat := bs.foldl (fun n b => 256 * n + b.toNat) 0

/-- The number that bytes write in two's complement. -/
def signed (bs : List UInt8) : Int :=
  let n := unsigned bs
  if 2 * n < 256 ^ bs.length then Int.ofNat n else Int.ofNat n - 256 ^ bs.length

/-- The bytes in groups of `size`. -/
def groups (size : Nat) : Nat → List UInt8 → List (List UInt8)
  | 0, _ => []
  | count + 1, bs => bs.take size :: groups size count (bs.drop size)

/-! ### Cursor -/

/-- The bytes of a file and the place where reading goes on. -/
structure Cursor where
  bytes : List UInt8
  place : Nat

/-- A reading of a file. -/
abbrev Reader (α : Type) : Type := StateT Cursor (Except Fault) α

/-- At most `count` bytes; all that are left if the count is minus one, which is the least that can be asked for. -/
def upTo (count : Int) : Reader (List UInt8) := do
  if count < -1 then throw (.badValue "read length must be non-negative or -1")
  let c ← get
  let rest := c.bytes.drop c.place
  let taken := if count < 0 then rest else rest.take count.toNat
  set { c with place := c.place + taken.length }
  pure taken

/-- Exactly `count` bytes. -/
def exactly (count : Int) : Reader (List UInt8) := do
  let bs ← upTo count
  if Int.ofNat bs.length = count then pure bs else throw (.cutShort count.toNat)

/-- Goes on `count` bytes further, or back if the count is negative. -/
def skip (count : Int) : Reader Unit := do
  let c ← get
  let place := Int.ofNat c.place + count
  if place < 0 then throw (.badValue "Invalid argument") else set { c with place := place.toNat }

/-! ### Header -/

/-- The version of a file and the counts of its parts. -/
structure Header where
  version : Nat
  utIndicators : Int
  standardIndicators : Int
  leapSeconds : Int
  transitions : Int
  types : Int
  nameBytes : Int

/-- The header of a part of a file. -/
def header : Reader Header := do
  if (← upTo 4) ≠ [0x54, 0x5A, 0x69, 0x66] then throw (.badValue "Invalid TZif file: magic not found")
  let version ← match ← upTo 1 with
    | [0] => pure 1
    | [b] =>
      if 48 ≤ b.toNat ∧ b.toNat ≤ 57 then pure (b.toNat - 48) else throw (.badValue "no version number")
    | _ => throw (.badValue "no version number")
  let _ ← upTo 15
  match groups 4 6 (← exactly 24) with
  | [a, b, c, d, e, f] =>
    pure ⟨version, signed a, signed b, signed c, signed d, signed e, signed f⟩
  | _ => throw (.cutShort 24)

/-- The bytes of a part with instants of 32 bits, its header aside. -/
def Header.shortSize (h : Header) : Int :=
  h.transitions * 5 + h.types * 6 + h.nameBytes + h.leapSeconds * 8 + h.standardIndicators + h.utIndicators

/-! ### Types -/

/-- A type of local time: its offset in seconds, whether it is summer time, and where its name begins. -/
structure LocalType where
  offset : Int
  summer : Bool
  name : Int
deriving Repr

/-- `count` types. -/
def localTypes : Nat → Reader (List LocalType)
  | 0 => pure []
  | count + 1 => do
    let bs ← exactly 6
    let t : LocalType := ⟨signed (bs.take 4), signed ((bs.drop 4).take 1) ≠ 0, signed (bs.drop 5)⟩
    pure (t :: (← localTypes count))

/-- The bytes of the name that begins at `start`, up to the next zero byte. A place before the beginning counts
    from the end; without a zero byte, the last byte is left out. -/
def nameAt (names : List UInt8) (start : Int) : List UInt8 :=
  let first := if start < 0 then (Int.ofNat names.length + start).toNat else start.toNat
  match (names.drop first).findIdx? (· == 0) with
  | some n => (names.drop first).take n
  | none => (names.take (names.length - 1)).drop first

/-! ### Files -/

/-- The bytes before the next line end; where none comes, it is looked for without an end. -/
def line : Reader (List UInt8) := do
  let c ← get
  let rest := c.bytes.drop c.place
  match rest.findIdx? (· == 10) with
  | some n =>
    set { c with place := c.place + n + 1 }
    pure (rest.take n)
  | none => throw .endless

/-- The line that ends a file from version 2 on: the rule after the last change, empty if there is none. -/
def footer (h : Header) : Reader (List UInt8) := do
  if h.version < 2 then pure []
  else
    skip (h.utIndicators + h.standardIndicators + h.leapSeconds * 12)
    if (← upTo 1) ≠ [10] then throw (.assertion "line end expected")
    line

/-- The table of the changes, which are instants with the number of their type, and the rule's text. -/
def table (changes : List (Int × Nat)) (types : List LocalType) (rule : List UInt8) : Outcome OffsetTable := do
  let offsetOf (i : Nat) : Option Int := (types[i]?).map (·.offset)
  let transitions ← changes.mapM fun c =>
    match offsetOf c.2 with
    | some offset => Except.ok ({ second := c.1 + Calendar.epoch / Calendar.second, offset } : Transition)
    | none => .error (.badValue "Invalid transition index found while reading TZif")
  let first := (types.head?.map (·.offset)).getD 0
  let before := ((types.find? fun t => !t.summer).map (·.offset) <|> transitions.head?.map (·.offset)).getD first
  let last := if changes.isEmpty then types.getLast?.map (·.offset) else transitions.getLast?.map (·.offset)
  let after ←
    if rule.isEmpty then
      match last with
      | some offset => .ok { standard := offset, summer := none }
      | none => .error (.badValue "No time zone information found.")
    else
      match Rule.parse? (rule.map fun b => Char.ofNat b.toNat) with
      | some r => .ok r
      | none => .error (.badValue "Malformed transition rule in TZ string")
  .ok { before, initial := first, transitions := transitions.toArray, after }

/-- The table that a file holds. -/
def file : Reader OffsetTable := do
  let first ← header
  let h ← if first.version = 1 then pure first else do
    skip first.shortSize
    header
  let size : Nat := if first.version = 1 then 4 else 8
  let seconds ← if h.transitions = 0 then pure [] else exactly (h.transitions * size)
  let indices ← if h.transitions = 0 then pure [] else exactly h.transitions
  if h.types < 0 then throw (.badValue "not enough values to unpack")
  let types ← localTypes h.types.toNat
  let names ← upTo h.nameBytes
  for t in types do
    if String.fromUTF8? ⟨(nameAt names t.name).toArray⟩ |>.isNone then throw (.badValue "invalid name")
  let rule ← footer h
  let changes := (groups size h.transitions.toNat seconds).map signed |>.zip (indices.map (·.toNat))
  match table changes types rule with
  | .ok t => pure t
  | .error f => throw f

/-- The table that the bytes of a file hold. -/
def read (bytes : List UInt8) : Outcome OffsetTable := do
  .ok (← file.run ⟨bytes, 0⟩).1

end Compiled
end JobScheduling
