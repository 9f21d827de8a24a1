import JobScheduling.Text.Character

/-!
Lines. A line ends at one of the characters that move on to a new line, the two of `\r\n` counting as one end. A
text that ends with a line end has no further line behind it.
-/

namespace JobScheduling
namespace Text

/-- The characters that end a line: line feed to carriage return, three of the information separators, and the
    line and paragraph separators beyond ASCII. -/
def isLineEnd (c : Char) : Bool :=
  let n := c.toNat
  (10 ≤ n && n ≤ 13) || (28 ≤ n && n ≤ 30) || n == 0x85 || n == 0x2028 || n == 0x2029

/-- The lines of a text, which end at certain characters, `cur` being the part of the current line that was read.
    Each line keeps its end if `keep` says so. -/
def linesFrom (isEnd : Char → Bool) (keep : Bool) (cur : List Char) : List Char → List (List Char)
  | [] => if cur.isEmpty then [] else [cur]
  | '\r' :: '\n' :: s => (if keep then cur ++ ['\r', '\n'] else cur) :: linesFrom isEnd keep [] s
  | c :: s =>
    if isEnd c then (if keep then cur ++ [c] else cur) :: linesFrom isEnd keep [] s
    else linesFrom isEnd keep (cur ++ [c]) s

/-- The lines of a text, without their ends. -/
def lines (s : List Char) : List (List Char) := linesFrom isLineEnd false [] s

end Text
end JobScheduling
