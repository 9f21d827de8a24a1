import JobScheduling.Text.Category
import JobScheduling.Text.Lines

/-!
The shape of texts: large and small letters, what kinds of characters a text is made of, and the filling up of a
text to a width.
-/

namespace JobScheduling
namespace Text

/-! ### Letters -/

/-- A text with a large letter at its beginning and small ones after it. -/
def capitalize (s : List Char) : List Char :=
  mapBetween (fun before c after => if before.isEmpty then titleChar c else lowerBetween before c after) [] s

/-- A text with a large letter at the beginning of each word and small ones after it. -/
def titleText (s : List Char) : List Char :=
  mapBetween (fun before c after =>
    if (before.head?).any isCased then lowerBetween before c after else titleChar c) [] s

/-- A text with small letters for large ones, and large ones for small ones. -/
def swapCase (s : List Char) : List Char :=
  mapBetween (fun before c after =>
    if isUpper c then lowerBetween before c after else if isLower c then upperChar c else [c]) [] s

/-- A character without its case, so that characters that differ in case alone become one. -/
def foldChar (c : Char) : List Char :=
  let n := c.toNat
  if n = 0x131 then [c]
  else if n = 0x1E9E then ['s', 's']
  else if 0x13A0 ≤ n ∧ n ≤ 0x13F5 then [c]
  else if 0x13F8 ≤ n ∧ n ≤ 0x13FD then [Char.ofNat (n - 8)]
  else if 0xAB70 ≤ n ∧ n ≤ 0xABBF then [Char.ofNat (n - 0xAB70 + 0x13A0)]
  else lower (upperChar c)

/-- A text without its case. -/
def foldCase (s : List Char) : List Char := s.flatMap foldChar

/-! ### Kinds of texts -/

/-- Whether a text has characters, all of them of one kind. -/
def isAll (p : Char → Bool) (s : List Char) : Bool := !s.isEmpty && s.all p

/-- Whether a text has letters of the one case and none of the others. -/
def isCasedAs (own : Char → Bool) (other : Char → Bool) (s : List Char) : Bool :=
  s.any own && !s.any fun c => other c || isTitle c

/-- Whether each large letter of a text begins a word and each small one does not. -/
def isTitleFrom (afterCased seen : Bool) : List Char → Bool
  | [] => seen
  | c :: s =>
    if isUpper c || isTitle c then !afterCased && isTitleFrom true true s
    else if isLower c then afterCased && isTitleFrom true true s
    else isTitleFrom false seen s

/-! ### Width -/

/-- A text with a character repeated before and after it. -/
def pad {α : Type} (before after : Nat) (fill : α) (s : List α) : List α :=
  List.replicate before fill ++ s ++ List.replicate after fill

/-- A text in the middle of a width. Of two middles the right one is taken if the width is odd. -/
def center {α : Type} (width : Nat) (fill : α) (s : List α) : List α :=
  let room := width - s.length
  let before := room / 2 + (if room % 2 = 1 ∧ width % 2 = 1 then 1 else 0)
  pad before (room - before) fill s

/-- A numeral with zeros between its sign and its digits up to a width. -/
def zeroFill (width : Nat) (s : List Char) : List Char :=
  let zeros := List.replicate (width - s.length) '0'
  match s with
  | '-' :: t => '-' :: zeros ++ t
  | '+' :: t => '+' :: zeros ++ t
  | s => zeros ++ s

/-- A text with blanks for its tabs, up to the next multiple of a width; `column` is where the text begins. -/
def expandTabs (width column : Nat) : List Char → List Char
  | [] => []
  | c :: s =>
    if c = '\t' then
      let count := if width = 0 then 0 else width - column % width
      List.replicate count ' ' ++ expandTabs width (column + count) s
    else if c = '\n' || c = '\r' then c :: expandTabs width 0 s
    else c :: expandTabs width (column + 1) s

end Text
end JobScheduling
