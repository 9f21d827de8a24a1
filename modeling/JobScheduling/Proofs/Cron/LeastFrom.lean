import JobScheduling.Cron.Search
import Mathlib.Order.Bounds.Basic

/-! Searches for the least number from a start on. A list that ascends is searched from its head; where a number is
    made of a coarse and a fine part, the searches for the two parts make one for the number: it keeps the coarse
    part of the start as long as it can, and begins the fine part anew where it cannot. -/

namespace JobScheduling
namespace Cron

/-! ### Least numbers -/

/-- The answer to a search for the least number of `P` from `a` on. -/
def LeastFrom (P : Nat → Prop) (a : Nat) : Option Nat → Prop
  | none => ∀ x, P x → x < a
  | some m => P m ∧ a ≤ m ∧ ∀ x, P x → a ≤ x → m ≤ x

/-- The first element that a search finds in a list that ascends is the least one. -/
theorem isLeast_find? {α : Type} [Preorder α] {l : List α} {p : α → Bool} {m : α} (hl : l.Pairwise (· < ·))
    (h : l.find? p = some m) : IsLeast {x | x ∈ l ∧ p x = true} m := by
  obtain ⟨hm, before, rest, rfl, hbefore⟩ := List.find?_eq_some_iff_append.mp h
  refine ⟨⟨List.mem_append_right _ List.mem_cons_self, hm⟩, ?_⟩
  rintro x ⟨hx, hp⟩
  rcases List.mem_append.mp hx with hx | hx
  · have := hbefore x hx
    rw [hp] at this
    cases this
  · rcases List.mem_cons.mp hx with rfl | hx
    · exact le_refl _
    · exact ((List.pairwise_cons.mp (List.pairwise_append.mp hl).2.1).1 x hx).le

theorem LeastFrom.congr {P Q : Nat → Prop} {a : Nat} {o : Option Nat} (h : LeastFrom P a o) (hPQ : ∀ x, P x ↔ Q x) :
    LeastFrom Q a o := by
  have : P = Q := funext fun x => propext (hPQ x)
  exact this ▸ h

theorem LeastFrom.getD_le {P : Nat → Prop} {o : Option Nat} (h : LeastFrom P 0 o) {x : Nat} (d : Nat) (hx : P x) :
    o.getD d ≤ x := by
  cases o with
  | none => exact absurd (h x hx) (Nat.not_lt_zero x)
  | some m => exact h.2.2 x hx (Nat.zero_le x)

theorem LeastFrom.getD_or {P : Nat → Prop} {a : Nat} {o : Option Nat} (h : LeastFrom P a o) (d : Nat) :
    P (o.getD d) ∨ o.getD d = d := by
  cases o with
  | none => exact Or.inr rfl
  | some m => exact Or.inl h.1

theorem leastFrom_find? {l : List Nat} (hl : l.Pairwise (· < ·)) (a : Nat) :
    LeastFrom (· ∈ l) a (l.find? (a ≤ ·)) := by
  cases hfind : l.find? (a ≤ ·) with
  | none => exact fun x hx => by simpa using List.find?_eq_none.mp hfind x hx
  | some m =>
    obtain ⟨⟨hm, ham⟩, hmin⟩ := isLeast_find? hl hfind
    exact ⟨hm, of_decide_eq_true ham, fun x hx hax => hmin ⟨hx, decide_eq_true hax⟩⟩

theorem leastFrom_find?_lt {l : List Nat} (hl : l.Pairwise (· < ·)) (a : Nat) :
    LeastFrom (· ∈ l) (a + 1) (l.find? (a < ·)) := leastFrom_find? hl (a + 1)

/-- Where a number is not in a list that ascends, the list has a next one, the least from the number on, or ends
    below it. -/
theorem next_cases {l : List Nat} (hl : l.Pairwise (· < ·)) {a : Nat} (ha : a ∉ l) :
    (∃ m, l.find? (a < ·) = some m ∧ m ∈ l ∧ a < m ∧ ∀ x ∈ l, a ≤ x → m ≤ x) ∨
      l.find? (a < ·) = none ∧ ∀ x ∈ l, x < a := by
  have hnext := leastFrom_find?_lt hl a
  have hlt : ∀ x ∈ l, a ≤ x → a < x := fun x hx hle => Nat.lt_of_le_of_ne hle fun h => ha (h ▸ hx)
  cases hfind : l.find? (a < ·) with
  | none =>
    rw [hfind] at hnext
    exact Or.inr ⟨rfl, fun x hx => Nat.lt_of_not_le fun hle => absurd (hnext x hx) (Nat.not_lt.mpr (hlt x hx hle))⟩
  | some m =>
    rw [hfind] at hnext
    exact Or.inl ⟨m, rfl, hnext.1, hnext.2.1, fun x hx hle => hnext.2.2 x hx (hlt x hx hle)⟩

theorem leastFrom_head? {l : List Nat} (hl : l.Pairwise (· < ·)) : LeastFrom (· ∈ l) 0 l.head? := by
  have := leastFrom_find? hl 0
  cases l with
  | nil => exact this
  | cons y l => rwa [List.find?_cons_of_pos (by simp)] at this

/-! ### Coarse and fine parts -/

section Parts
variable {H : List Nat} {Q : Nat → Prop} {b : Nat}

/-- A number of parts from `H` and `Q`: a multiple of `b` and what is left below `b`. -/
def Composed (H : List Nat) (Q : Nat → Prop) (b x : Nat) : Prop := x / b ∈ H ∧ Q (x % b)

theorem mul_add_le_iff {m v x : Nat} (hv : v < b) :
    m * b + v ≤ x ↔ m < x / b ∨ m = x / b ∧ v ≤ x % b := by
  have hx := Nat.div_add_mod' x b
  have hlt := Nat.mod_lt x (Nat.lt_of_le_of_lt (Nat.zero_le v) hv)
  constructor
  · intro h
    have hle : m ≤ x / b := by
      rw [Nat.le_div_iff_mul_le (by omega)]
      omega
    rcases Nat.lt_or_eq_of_le hle with h' | h'
    · exact Or.inl h'
    · refine Or.inr ⟨h', ?_⟩
      rw [← h'] at hx
      omega
  · rintro (h | ⟨h, hle⟩)
    · have := Nat.mul_le_mul_right b (Nat.succ_le_of_lt h)
      rw [Nat.succ_mul] at this
      omega
    · rw [← h] at hx
      omega

theorem mul_add_div {m v : Nat} (hv : v < b) : (m * b + v) / b = m := by
  rw [Nat.mul_comm, Nat.mul_add_div (by omega), Nat.div_eq_of_lt hv, Nat.add_zero]

theorem mul_add_mod {m v : Nat} (hv : v < b) : (m * b + v) % b = v := by
  rw [Nat.mul_comm, Nat.mul_add_mod, Nat.mod_eq_of_lt hv]

theorem composed_mul_add {m v : Nat} (hm : m ∈ H) (hv : Q v) (hlt : v < b) : Composed H Q b (m * b + v) := by
  rw [Composed, mul_add_div hlt, mul_add_mod hlt]
  exact ⟨hm, hv⟩

theorem leastFrom_first (hQ : ∀ v, Q v → v < b) {coarse fine : Option Nat} {a : Nat}
    (hH : LeastFrom (· ∈ H) a coarse) (hfine : LeastFrom Q 0 fine) :
    LeastFrom (fun x => Composed H Q b x ∧ a ≤ x / b) 0 (coarse.bind fun m => fine.map (m * b + ·)) := by
  cases coarse with
  | none => exact fun x hx => absurd (hH _ hx.1.1) (by omega)
  | some m =>
    obtain ⟨hm, ham, hmin⟩ := hH
    cases fine with
    | none => exact fun x hx => absurd (hfine _ hx.1.2) (Nat.not_lt_zero _)
    | some v =>
      obtain ⟨hv, -, hvmin⟩ := hfine
      have hlt := hQ v hv
      refine ⟨⟨composed_mul_add hm hv hlt, ?_⟩, Nat.zero_le _, fun x hx _ => ?_⟩
      · rw [mul_add_div hlt]
        exact ham
      · show m * b + v ≤ x
        rw [mul_add_le_iff hlt]
        rcases Nat.lt_or_eq_of_le (hmin _ hx.1.1 hx.2) with h | h
        · exact Or.inl h
        · exact Or.inr ⟨h, hvmin _ hx.1.2 (Nat.zero_le _)⟩

/-- A search that keeps the coarse part of its start as long as it can finds the least number of both parts. -/
theorem leastFrom_refine (hl : H.Pairwise (· < ·)) (hQ : ∀ v, Q v → v < b) {t : Nat} {within fine : Option Nat}
    (hwithin : LeastFrom Q (t % b) within) (hfine : LeastFrom Q 0 fine) :
    LeastFrom (Composed H Q b) t
      (Schedule.refine H (t / b) (within.map (t / b * b + ·)) fun m => fine.map (m * b + ·)) := by
  have hnext := leastFrom_first hQ (leastFrom_find?_lt hl (t / b)) hfine
  -- Beyond the coarse part of the start, the answer is the least one with a greater coarse part.
  have hlater : (∀ x, Composed H Q b x → t ≤ x → t / b < x / b) → LeastFrom (Composed H Q b) t
      ((H.find? (t / b < ·)).bind fun m => fine.map (m * b + ·)) := by
    intro hgt
    cases hfind : (H.find? (t / b < ·)).bind fun m => fine.map (m * b + ·) with
    | none =>
      rw [hfind] at hnext
      intro x hx
      by_cases htx : t ≤ x
      · exact absurd (hnext x ⟨hx, hgt x hx htx⟩) (Nat.not_lt_zero _)
      · omega
    | some m =>
      rw [hfind] at hnext
      obtain ⟨⟨hm, htm⟩, -, hmin⟩ := hnext
      refine ⟨hm, ?_, fun x hx htx => hmin x ⟨hx, hgt x hx htx⟩ (Nat.zero_le _)⟩
      by_contra hlt
      exact absurd (Nat.div_le_div_right (c := b) (show m ≤ t by omega)) (by omega)
  unfold Schedule.refine
  by_cases hmem : H.contains (t / b) = true
  · rw [if_pos hmem]
    cases within with
    | none =>
      refine hlater fun x hx htx => Nat.lt_of_le_of_ne (Nat.div_le_div_right htx) fun heq => ?_
      have hlt := hwithin _ hx.2
      have hx' := Nat.div_add_mod' x b
      have ht' := Nat.div_add_mod' t b
      rw [← heq] at hx'
      omega
    | some v =>
      obtain ⟨hv, htv, hvmin⟩ := hwithin
      have hlt := hQ v hv
      refine ⟨composed_mul_add (List.contains_iff_mem.mp hmem) hv hlt, ?_, fun x hx htx => ?_⟩
      · show t ≤ t / b * b + v
        have := Nat.div_add_mod' t b
        omega
      · show t / b * b + v ≤ x
        rw [mul_add_le_iff hlt]
        rcases Nat.lt_or_eq_of_le (Nat.div_le_div_right (c := b) htx) with h | h
        · exact Or.inl h
        · refine Or.inr ⟨h, hvmin _ hx.2 ?_⟩
          have hx' := Nat.div_add_mod' x b
          have ht' := Nat.div_add_mod' t b
          rw [← h] at hx'
          omega
  · rw [if_neg hmem]
    refine hlater fun x hx htx => Nat.lt_of_le_of_ne (Nat.div_le_div_right htx) fun heq => ?_
    exact hmem (List.contains_iff_mem.mpr (heq ▸ hx.1))

end Parts

end Cron
end JobScheduling
