import JobScheduling.Text.Search
import JobScheduling.Text.Shape
import JobScheduling.Value.Access
import JobScheduling.Value.Arithmetic

/-!
What texts and byte strings can do alike: finding parts, splitting, replacing, trimming and filling up. The two are
read as sequences of items, and each result is written back as the kind of value it came from.
-/

namespace JobScheduling
namespace Value

/-- A method: what it gives for the arguments of a call. -/
abbrev Method : Type := List Value → Outcome Value

/-- A kind of sequence: how a value is read as one, and how one is written as a value. -/
structure SequenceKind (α : Type) where
  read? : Value → Option (List α)
  write : List α → Value
  /-- Whether an item is a blank. -/
  blank : α → Bool
  /-- The item that fills up a sequence unless another is given. -/
  space : α
  /-- Whether a number alone may stand for a sequence of one item. -/
  item? : Value → Option α

namespace SequenceKind

variable {α : Type} [BEq α] (k : SequenceKind α)

/-! ### Arguments -/

/-- An argument that has to be a sequence. -/
def part (v : Value) : Outcome (List α) :=
  match k.read? v with
  | some s => .ok s
  | none => .error (.badType "must be a sequence of the same kind")

/-- An argument that has to be a sequence or an item. -/
def partOrItem (v : Value) : Outcome (List α) :=
  match k.item? v with
  | some c => .ok [c]
  | none => k.part v

/-- A place among the arguments; null stands for the one that is meant without it. -/
def place : Value → Outcome (Option Int)
  | null => .ok none
  | v => do .ok (some (← v.index))

/-- The places where a search starts and stops. -/
def places : List Value → Outcome (Int × Option Int)
  | [] => .ok (0, none)
  | [start] => do .ok ((← place start).getD 0, none)
  | [start, stop] => do
    let a ← place start
    .ok (a.getD 0, ← place stop)
  | _ => wrongArguments

/-- A limit on a number of times; a negative one is none. -/
def limitOf (n : Int) (s : List α) : Nat := if n < 0 then s.length + 1 else n.toNat

/-! ### Finding -/

/-- The place of the first or the last occurrence of a part in a stretch. -/
def find? (last : Bool) (s : List α) : List Value → Outcome (Option Nat)
  | v :: rest => do
    let part ← k.partOrItem v
    let (start, stop) ← places rest
    .ok ((Text.stretch? s start stop).bind fun r =>
      (if last then Text.lastPlace? part r.2 else Text.place? part r.2).map (r.1 + ·))
  | [] => wrongArguments

/-- Whether a stretch of a sequence begins or ends with a part, or one of some parts. -/
def meets (ends : Bool) (s : List α) : List Value → Outcome Value
  | v :: rest => do
    let parts ← match v with
      | tuple vs => vs.mapM k.part
      | v => do .ok [← k.part v]
    let (start, stop) ← places rest
    .ok (bool ((Text.stretch? s start stop).any fun r =>
      parts.any fun p => if ends then p.isSuffixOf r.2 else p.isPrefixOf r.2))
  | [] => wrongArguments

/-! ### Splitting -/

/-- The pieces of a sequence. -/
def split (last : Bool) (s : List α) (args : List Value) : Outcome Value := do
  let (sep, limit) ← match args with
    | [] => .ok (null, (-1 : Int))
    | [sep] => .ok (sep, -1)
    | [sep, limit] => do .ok (sep, ← limit.index)
    | _ => wrongArguments
  let limit := limitOf limit s
  match sep with
  | null =>
    let pieces := if last then ((Text.wordsWithin k.blank limit s.reverse).map List.reverse).reverse
      else Text.wordsWithin k.blank limit s
    .ok (list (pieces.map k.write))
  | sep =>
    let sep ← k.part sep
    if sep.isEmpty then .error (.badValue "empty separator")
    else .ok (list ((if last then Text.splitAtLast sep limit s else Text.splitAt sep limit s).map k.write))

/-- A sequence before, at and after a separator; all of it stands on one side if there is none. -/
def partition (last : Bool) (s : List α) : List Value → Outcome Value
  | [sep] => do
    let part ← k.part sep
    if part.isEmpty then .error (.badValue "empty separator")
    else
      match if last then Text.cutAtLast? part s else Text.cutAt? part s with
      | some (a, b) => .ok (tuple [k.write a, k.write part, k.write b])
      | none =>
        .ok (tuple (if last then [k.write [], k.write [], k.write s] else [k.write s, k.write [], k.write []]))
  | _ => wrongArguments

/-! ### Changing -/

/-- A sequence without the blanks, or the given items, at its ends. -/
def strip (front back : Bool) (s : List α) (args : List Value) : Outcome Value := do
  let p ← match args with
    | [] | [null] => .ok k.blank
    | [v] => do
      let items ← k.part v
      .ok fun c => items.contains c
    | _ => wrongArguments
  let s := if front then s.dropWhile p else s
  .ok (k.write (if back then (s.reverse.dropWhile p).reverse else s))

/-- A sequence with another part in place of some part. -/
def replace (s : List α) (args : List Value) : Outcome Value := do
  let (part, new, limit) ← match args with
    | [part, new] => .ok (part, new, (-1 : Int))
    | [part, new, limit] => do .ok (part, new, ← limit.index)
    | _ => wrongArguments
  let part ← k.part part
  .ok (k.write (Text.replace part (← k.part new) (limitOf limit s) s))

/-- Sequences with one between each two of them. -/
def joined (s : List α) : List Value → Outcome Value
  | [v] => do .ok (k.write (s.intercalate (← (← v.items).mapM k.part)))
  | _ => wrongArguments

/-- A sequence filled up to a width. -/
def filled (fill : Nat → α → List α → List α) (s : List α) : List Value → Outcome Value
  | [width] => do .ok (k.write (fill (← width.index).toNat k.space s))
  | [width, item] => do
    let n ← width.index
    match ← k.part item with
    | [c] => .ok (k.write (fill n.toNat c s))
    | _ => .error (.badType "The fill character must be exactly one character long")
  | _ => wrongArguments

/-- The methods that texts and byte strings have in common. -/
def methods : List (String × (List α → Method)) :=
  [("find", fun s args => do .ok (int (((← k.find? false s args).map Int.ofNat).getD (-1)))),
   ("rfind", fun s args => do .ok (int (((← k.find? true s args).map Int.ofNat).getD (-1)))),
   ("index", fun s args => do
      match ← k.find? false s args with
      | some n => .ok (int (Int.ofNat n))
      | none => .error (.badValue "substring not found")),
   ("rindex", fun s args => do
      match ← k.find? true s args with
      | some n => .ok (int (Int.ofNat n))
      | none => .error (.badValue "substring not found")),
   ("count", fun s args => do
      match args with
      | v :: rest =>
        let part ← k.partOrItem v
        let (start, stop) ← places rest
        .ok (int (Int.ofNat (((Text.stretch? s start stop).map fun r => Text.occurrences part r.2).getD 0)))
      | [] => wrongArguments),
   ("startswith", k.meets false), ("endswith", k.meets true),
   ("split", k.split false), ("rsplit", k.split true),
   ("partition", k.partition false), ("rpartition", k.partition true),
   ("strip", k.strip true true), ("lstrip", k.strip true false), ("rstrip", k.strip false true),
   ("replace", k.replace), ("join", k.joined),
   ("removeprefix", fun s args => do
      match args with
      | [v] =>
        let part ← k.part v
        .ok (k.write (if part.isPrefixOf s then s.drop part.length else s))
      | _ => wrongArguments),
   ("removesuffix", fun s args => do
      match args with
      | [v] =>
        let part ← k.part v
        .ok (k.write (if part.isSuffixOf s then s.take (s.length - part.length) else s))
      | _ => wrongArguments),
   ("center", k.filled Text.center),
   ("ljust", k.filled fun width c s => Text.pad 0 (width - s.length) c s),
   ("rjust", k.filled fun width c s => Text.pad (width - s.length) 0 c s)]

end SequenceKind
end Value
end JobScheduling
