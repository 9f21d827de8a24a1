import JobScheduling.Function.Basic

/-!
The functions of paths. A path is a text, its parts separated by slashes.
-/

namespace JobScheduling
namespace Function

open Value

/-- A path split behind its last slash; slashes before the last part are dropped, unless there is nothing else. -/
def splitPath (s : List Char) : List Char × List Char :=
  let tail := (s.reverse.takeWhile (· != '/')).reverse
  let head := s.take (s.length - tail.length)
  (if head.all (· = '/') then head else (head.reverse.dropWhile (· = '/')).reverse, tail)

/-- Two paths one after the other; an absolute one stands alone. -/
def joinPaths (a b : List Char) : List Char :=
  if b.head? == some '/' then b
  else if a.isEmpty || a.getLast? == some '/' then a ++ b
  else a ++ '/' :: b

/-- The functions of paths. -/
def paths : List (String × Method) :=
  [("basename", ofText fun s => ofChars (splitPath s).2), ("dirname", ofText fun s => ofChars (splitPath s).1),
   ("split", ofText fun s => tuple [ofChars (splitPath s).1, ofChars (splitPath s).2]),
   ("isabs", ofText fun s => bool (s.head? == some '/')),
   ("join", fun args => do
      match ← args.mapM textKind.part with
      | [] => wrongArguments
      | s :: rest => .ok (ofChars (rest.foldl joinPaths s)))]

end Function
end JobScheduling
