import JobScheduling.Value.Basic

/-! Every value is equal to itself, where what is no number counts as equal to itself for being the same part. -/

namespace JobScheduling

namespace Binary64

theorem compareFraction?_self (negative : Bool) (m : Nat) (e : Int) :
    (finite negative m e).compareFraction? (if negative then -Int.ofNat (magnitude m e).1 else Int.ofNat (magnitude m e).1)
      (magnitude m e).2 = some .eq := by
  simp only [compareFraction?, Option.some.injEq]
  exact Std.ReflCmp.compare_self

theorem compare?_self : ∀ {x : Binary64}, x ≠ nan → x.compare? x = some .eq
  | nan, h => absurd rfl h
  | infinite negative, _ => by cases negative <;> rfl
  | finite negative m e, _ => compareFraction?_self negative m e

end Binary64

namespace Value

theorem equals_float_self (x : Binary64) : (float x).equals true (float x) = true := by
  rw [equals]
  by_cases hx : x = .nan
  · rw [hx]
    rfl
  · rw [Binary64.compare?_self hx]
    rfl

mutual

/-- A value is equal to itself. -/
theorem equals_self : ∀ v : Value, v.equals true v = true
  | null => rfl
  | bool _ | int _ | text _ | bytes _ => by rw [equals, beq_self_eq_true]
  | float x => equals_float_self x
  | list items | tuple items => by rw [equals, equalsList_self items]
  | dict entries => by rw [equals, beq_self_eq_true, Bool.true_and, entriesAmong_of_subset entries fun _ h => h]

theorem equalsList_self : ∀ vs : List Value, equalsList true vs vs = true
  | [] => rfl
  | v :: vs => by rw [equalsList, equals_self v, equalsList_self vs, Bool.true_and]

theorem entriesAmong_of_subset : ∀ (entries : List (Value × Value)) {others : List (Value × Value)},
    (∀ e ∈ entries, e ∈ others) → entriesAmong true entries others = true
  | [], _, _ => rfl
  | (key, value) :: entries, others, h => by
    rw [entriesAmong, Bool.and_eq_true, List.any_eq_true]
    refine ⟨⟨(key, value), h _ List.mem_cons_self, ?_⟩, entriesAmong_of_subset entries fun e he =>
      h e (List.mem_cons_of_mem _ he)⟩
    rw [equals_self key, equals_self value, Bool.true_and]

end

end Value
end JobScheduling
