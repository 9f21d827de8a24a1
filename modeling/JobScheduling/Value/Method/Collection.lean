import JobScheduling.Value.Method.Sequence

/-!
What lists, tuples and dictionaries can do. A value is never changed in place: what a method would change is the
object of the call alone, of which nothing remains but the result.
-/

namespace JobScheduling
namespace Value

/-! ### Lists and tuples -/

/-- How often a value is an item. -/
def countItem (items : List Value) : Method
  | [v] => .ok (int (Int.ofNat (items.countP (equals false v))))
  | _ => wrongArguments

/-- The place of the first item that is equal to a value, in a stretch. -/
def indexItem (items : List Value) : Method
  | v :: rest => do
    let (start, stop) ← SequenceKind.places rest
    match (Text.stretch? items start stop).bind fun r => (r.2.findIdx? (equals false v)).map (r.1 + ·) with
    | some n => .ok (int (Int.ofNat n))
    | none => .error (.badValue "value is not there")
  | [] => wrongArguments

/-- The item that is taken out at an index, the last one unless an index is given. -/
def popItem (items : List Value) (args : List Value) : Outcome Value := do
  let n ← match args with
    | [] => .ok (-1 : Int)
    | [n] => n.index
    | _ => wrongArguments
  match (placeOfIndex? items.length n).bind (items[·]?) with
  | some v => .ok v
  | none => .error .missingIndex

/-- The methods of tuples. -/
def tupleMethods : List (String × (List Value → Method)) := [("count", countItem), ("index", indexItem)]

/-- A method that takes so many arguments and gives nothing. -/
def silently (count : Nat) (check : List Value → List Value → Outcome Unit) (items : List Value) : Method :=
  fun args => if args.length = count then (do
    check items args
    .ok null) else wrongArguments

/-- The methods of lists. -/
def listMethods : List (String × (List Value → Method)) :=
  tupleMethods ++
  [("append", silently 1 fun _ _ => .ok ()), ("clear", silently 0 fun _ _ => .ok ()),
   ("reverse", silently 0 fun _ _ => .ok ()),
   ("sort", silently 0 fun items _ => do
      let _ ← sorted items
      .ok ()),
   ("extend", silently 1 fun _ args => do
      let _ ← args.mapM Value.items
      .ok ()),
   ("insert", silently 2 fun _ args => do
      let _ ← (args.take 1).mapM Value.index
      .ok ()),
   ("remove", silently 1 fun items args => do
      let _ ← indexItem items args
      .ok ()),
   ("copy", fun items args =>
      match args with
      | [] => .ok (list items)
      | _ => wrongArguments),
   ("pop", popItem)]

/-! ### Dictionaries -/

/-- A key and the value that stands for a missing one. -/
def keyAndDefault : List Value → Outcome (Value × Option Value)
  | [k] => do .ok (← k.key, none)
  | [k, d] => do .ok (← k.key, some d)
  | _ => wrongArguments

/-- The entries that a value writes: those of a dictionary, or the pairs among the items of another value. -/
def entriesOf : Value → Outcome (List (Value × Value))
  | dict entries => .ok entries
  | v => do
    (← v.items).mapM fun w => do
      match ← w.items with
      | [k, x] => .ok (← k.key, x)
      | _ => .error (.badValue "dictionary update sequence element has a wrong length; 2 is required")

/-! ### Changes -/

/-- The place of an index that something is written to. -/
def placeOfChange (items : List Value) (i : Value) : Outcome Unit := do
  if (placeOfIndex? items.length (← i.index)).isSome then .ok () else .error .missingIndex

/-- The operations that change a value, of which nothing remains. -/
def changes : List (String × (Value → List Value → Outcome Unit)) :=
  [("setitem", fun v args =>
      match v, args with
      | list vs, [i, _] => placeOfChange vs i
      | dict _, [k, _] => do
        let _ ← k.key
        .ok ()
      | _, _ => wrongArguments),
   ("delitem", fun v args =>
      match v, args with
      | list vs, [i] => placeOfChange vs i
      | dict _, [k] => do
        let _ ← v.item k
        .ok ()
      | _, _ => wrongArguments)]

/-- To make a collection anew of some arguments, of which nothing remains. Other values stay as they were made. -/
def remade (v : Value) (args : List Value) : Outcome Value := do
  match v, args with
  | list _, [] | dict _, [] => .ok null
  | list _, [w] => do
    let _ ← w.items
    .ok null
  | dict _, [w] => do
    let _ ← entriesOf w
    .ok null
  | list _, _ | dict _, _ => wrongArguments
  | _, _ => .ok null

/-- What stands for a value when it is made again. -/
def madeFrom : Value → Value
  | bool b => tuple [int (if b then 1 else 0)]
  | v => tuple [v]

/-- A value with another joined to it: a list takes any items, a dictionary any entries. -/
def joinedWith (a b : Value) : Outcome Value :=
  match a with
  | list xs => do .ok (list (xs ++ (← b.items)))
  | dict xs => do .ok (dict ((← entriesOf b).foldl (fun es e => insert e.1 e.2 es) xs))
  | a => a.add b

/-- The methods of dictionaries. -/
def dictMethods : List (String × (List (Value × Value) → Method)) :=
  [("get", fun entries args => do
      let (k, d) ← keyAndDefault args
      .ok ((lookup? k entries).getD (d.getD null))),
   ("setdefault", fun entries args => do
      let (k, d) ← keyAndDefault args
      .ok ((lookup? k entries).getD (d.getD null))),
   ("pop", fun entries args => do
      let (k, d) ← keyAndDefault args
      match lookup? k entries, d with
      | some v, _ | none, some v => .ok v
      | none, none => .error (.missingKey k)),
   ("popitem", fun entries args =>
      match args, entries.getLast? with
      | [], some e => .ok (tuple [e.1, e.2])
      | [], none => .error (.missingKey (text "popitem(): dictionary is empty"))
      | _, _ => wrongArguments),
   ("copy", fun entries args =>
      match args with
      | [] => .ok (dict entries)
      | _ => wrongArguments),
   ("clear", fun _ args =>
      match args with
      | [] => .ok null
      | _ => wrongArguments),
   ("update", fun _ args =>
      match args with
      | [] => .ok null
      | [v] => do
        let _ ← entriesOf v
        .ok null
      | _ => wrongArguments)]

/-- The dictionary with the items of a value as its keys, all of them with one value. -/
def fromKeys : Method
  | [v] => do .ok (ofEntries (← (← v.items).mapM fun k => do .ok (← k.key, null)))
  | [v, w] => do .ok (ofEntries (← (← v.items).mapM fun k => do .ok (← k.key, w)))
  | _ => wrongArguments

end Value
end JobScheduling
