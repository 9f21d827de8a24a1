import JobScheduling.Function.Basic
import JobScheduling.Value.Method.Number
import JobScheduling.Value.Operation

/-!
The functions of the language itself: numerals and characters, what is foremost, the sum and the order of some values,
and what can be told of any value.
-/

namespace JobScheduling
namespace Function

open Value

/-! ### Numbers and characters -/

/-- A whole number in the digits of a base, with the mark of the base in front. -/
def numeralIn (base : Nat) (mark : String) (v : Value) : Outcome Value := do
  let n ← v.index
  let sign := if n < 0 then "-" else ""
  .ok (text (sign ++ mark ++ String.ofList (Nat.toDigits base n.natAbs)))

/-- The character of a number. -/
def characterOf (v : Value) : Outcome Value := do
  let n ← v.index
  if 0 ≤ n ∧ n < 0x110000 then .ok (text (String.singleton (Char.ofNat n.toNat)))
  else .error (.badValue "chr() arg not in range(0x110000)")

/-- The number of a character. -/
def numberOfCharacter (v : Value) : Outcome Value :=
  match v with
  | text s =>
    match s.toList with
    | [c] => .ok (int (Int.ofNat c.toNat))
    | _ => wrongArguments
  | bytes [b] => .ok (int (Int.ofNat b.toNat))
  | _ => wrongArguments

/-- A value in the notation of descriptions, in ASCII alone. -/
def asciiText (v : Value) : Outcome Value := do
  .ok (text (String.ofList ((← v.shown).toList.flatMap fun c =>
    let n := c.toNat
    if n < 128 then [c]
    else if n < 0x100 then '\\' :: 'x' :: Text.hexDigits 2 n
    else if n < 0x10000 then '\\' :: 'u' :: Text.hexDigits 4 n
    else '\\' :: 'U' :: Text.hexDigits 8 n)))

/-! ### Several values -/

/-- The foremost of the arguments, or of the items of a single argument. -/
def foremostOf (before : Value → Value → Outcome Bool) (args : List Value) : Outcome Value := do
  let vs ← match args with
    | [v] => v.items
    | vs => .ok vs
  match args, vs with
  | [], _ => wrongArguments
  | _, [] => .error (.badValue "arg is an empty sequence")
  | _, v :: rest => foremost before v rest

/-- The power of a whole number modulo another, by squaring. -/
def powerModulo (modulus : Nat) : Nat → Nat → Nat → Nat
  | 0, _, _ => 1 % modulus
  | digits + 1, base, n =>
    let half := powerModulo modulus digits (base * base % modulus) (n / 2)
    if n % 2 = 1 then base * half % modulus else half

/-- The power of two numbers, modulo a third if there is one. -/
def power : Method
  | [a, b] => Value.pow a b
  | [a, b, m] => do
    let x ← a.index
    let n ← b.index
    let k ← m.index
    if k = 0 then .error (.badValue "pow() 3rd argument cannot be 0")
    else if n < 0 then .error (.badValue "base is not invertible for the given modulus")
    else
      let r := Int.ofNat (powerModulo k.natAbs (bitLength n.toNat) (x % Int.ofNat k.natAbs).toNat n.toNat)
      .ok (int (if k < 0 ∧ r ≠ 0 then r + k else r))
  | _ => wrongArguments

/-! ### By name -/

/-- The functions of the language itself. -/
def language : List (String × Method) :=
  [("abs", of1 Value.abs), ("ascii", of1 asciiText),
   ("all", of1 fun v => do .ok (bool ((← v.items).all truthy))),
   ("any", of1 fun v => do .ok (bool ((← v.items).any truthy))),
   ("bin", of1 (numeralIn 2 "0b")), ("oct", of1 (numeralIn 8 "0o")), ("hex", of1 (numeralIn 16 "0x")),
   ("callable", of1 fun _ => .ok (bool false)), ("chr", of1 characterOf), ("ord", of1 numberOfCharacter),
   ("divmod", of2 fun a b => do
      let r ← divMod a b
      .ok (tuple [r.1, r.2])),
   ("format", fun args =>
      match args with
      | [v] | [v, text ""] => do .ok (text (← v.printed))
      | _ => wrongArguments),
   ("hash", of1 Value.hash), ("len", of1 Value.length),
   ("max", foremostOf fun a b => less b a), ("min", foremostOf less),
   ("pow", power),
   ("print", fun args => do
      let _ ← args.mapM Value.printed
      .ok null),
   ("repr", of1 fun v => do .ok (text (← v.shown))),
   ("round", fun args =>
      match args with
      | [v] | [v, null] => v.round none
      | [v, places] => do v.round (some (← places.index))
      | _ => wrongArguments),
   ("sorted", of1 fun v => do .ok (list (← sorted (← v.items)))),
   ("sum", fun args =>
      match args with
      | [v] => do Value.sum (← v.items) (int 0)
      | [v, text _] | [v, bytes _] => do
        let _ ← v.items
        wrongArguments
      | [v, start] => do Value.sum (← v.items) start
      | _ => wrongArguments)]

end Function
end JobScheduling
