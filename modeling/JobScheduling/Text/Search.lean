import JobScheduling.Text.Trim

/-!
Searching and splitting. A part occurs in a text where the text goes on with it; a text is split at the occurrences
of a separator, from the front or from the back, up to a number of times. The items may be characters or bytes.
-/

namespace JobScheduling
namespace Text

variable {α : Type} [BEq α]

/-! ### Occurrences -/

/-- The number of items before the first occurrence of a part. -/
def place? (part : List α) : List α → Option Nat
  | [] => if part.isEmpty then some 0 else none
  | c :: s => if part.isPrefixOf (c :: s) then some 0 else (place? part s).map (· + 1)

/-- The number of items before the last occurrence of a part. -/
def lastPlace? (part s : List α) : Option Nat :=
  (place? part.reverse s.reverse).map fun n => s.length - n - part.length

/-- What stands before and after the first occurrence of a part. -/
def cutAt? (part s : List α) : Option (List α × List α) :=
  (place? part s).map fun n => (s.take n, s.drop (n + part.length))

/-- What stands before and after the last occurrence of a part. -/
def cutAtLast? (part s : List α) : Option (List α × List α) :=
  (lastPlace? part s).map fun n => (s.take n, s.drop (n + part.length))

/-! ### Splitting -/

/-- The pieces between the first `limit` occurrences of a separator. -/
def splitAt (sep : List α) : Nat → List α → List (List α)
  | 0, s => [s]
  | limit + 1, s =>
    match cutAt? sep s with
    | some (a, b) => a :: splitAt sep limit b
    | none => [s]

/-- The pieces between the last `limit` occurrences of a separator. -/
def splitAtLast (sep : List α) (limit : Nat) (s : List α) : List (List α) :=
  ((splitAt sep.reverse limit s.reverse).map List.reverse).reverse

/-- How often a part occurs; occurrences do not overlap, and the empty part is everywhere. -/
def occurrences (part s : List α) : Nat :=
  if part.isEmpty then s.length + 1 else (splitAt part s.length s).length - 1

/-- A text before each of the first `limit` items, the end counting as one. -/
def interleave (new : List α) : Nat → List α → List α
  | 0, s => s
  | _ + 1, [] => new
  | limit + 1, c :: s => new ++ c :: interleave new limit s

/-- A text with another part in place of the first `limit` occurrences of a part. -/
def replace (part new : List α) (limit : Nat) (s : List α) : List α :=
  if part.isEmpty then interleave new limit s else new.intercalate (splitAt part limit s)

omit [BEq α] in
/-- The words of a text, the last of them with all that follows once there are `limit` before it. -/
def wordsWithin (blank : α → Bool) : Nat → List α → List (List α)
  | limit, s =>
    match s.dropWhile blank, limit with
    | [], _ => []
    | t, 0 => [t]
    | t, limit + 1 => t.takeWhile (!blank ·) :: wordsWithin blank limit (t.dropWhile (!blank ·))

/-! ### Stretches -/

/-- The place that a number means in a text: a negative one counts from the end. -/
def placeOf (length : Nat) (n : Int) : Nat :=
  if n < 0 then (n + Int.ofNat length).toNat else n.toNat

/-- The stretch of a text between two places, and where it begins; nothing if it begins behind the text or its
    end. -/
def stretch? (s : List α) (start : Int) (stop : Option Int) : Option (Nat × List α) :=
  let a := placeOf s.length start
  let b := min ((stop.map (placeOf s.length)).getD s.length) s.length
  if s.length < a || b < a then none else some (a, (s.take b).drop a)

end Text
end JobScheduling
