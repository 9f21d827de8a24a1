import JobScheduling.Proofs.Outcome
import JobScheduling.Value.Access

/-! What values are read for, and whether they can be written. A value cannot be written for a whole number within it whose
    numeral would be too long; a number that is small can be, and so can whatever counts as false. -/

namespace JobScheduling
namespace Value

/-! ### Names -/

/-- Only a text is equal to a text. -/
theorem equals_text_iff {v : Value} {s : String} :
    (v.equals false (.text s) = true ↔ v = .text s) ∧ ((text s).equals false v = true ↔ v = .text s) := by
  cases v with
  | text t => simp only [equals, beq_iff_eq, text.injEq, eq_comm (a := s), and_self]
  | _ => simp only [equals, Bool.false_eq_true, reduceCtorEq, and_self]

/-- What a dictionary holds under a key. Another value holds nothing. -/
def under? (v key : Value) : Option Value :=
  match v with
  | dict entries => lookup? key entries
  | _ => none

theorem entry_eq_ok {v w : Value} {name : String} : v.entry name = .ok w ↔ v.under? (.text name) = some w := by
  cases v with
  | dict entries => cases hlookup : lookup? (.text name) entries <;> simp [entry, under?, hlookup]
  | _ => simp [entry, under?]

/-- Named values hold nothing under a key that is none of the names. -/
theorem under?_ofFields_of_forall {fields : List (String × Value)} {key : Value}
    (hkey : ∀ name ∈ fields.map (·.1), key ≠ .text name) : (ofFields fields).under? key = none := by
  simp only [ofFields, under?, lookup?, Option.map_eq_none_iff, List.find?_eq_none, List.mem_map]
  rintro _ ⟨f, hf, rfl⟩ hequal
  exact hkey f.1 (List.mem_map_of_mem hf) (equals_text_iff.2.mp hequal)

/-! ### What can be written -/

theorem isWritable_int_iff {n : Int} : (int n).isWritable = true ↔ n.natAbs < 10 ^ Numeral.maxDigits := by
  rw [isWritable, decide_eq_true_iff]

/-- A number of a few digits can be written. -/
theorem isWritable_int_of_lt {n : Int} (hlow : -10000 < n) (hhigh : n < 10000) : (int n).isWritable = true := by
  have hdigits : 10 ^ 4 ≤ 10 ^ Numeral.maxDigits := Nat.pow_le_pow_right (by decide) (by decide)
  refine isWritable_int_iff.mpr (Nat.lt_of_lt_of_le ?_ hdigits)
  omega

theorem isWritable_of_not_truthy {v : Value} (h : v.truthy = false) : v.isWritable = true := by
  cases v with
  | int n =>
    have hzero : n = 0 := by simpa [truthy] using h
    exact hzero ▸ isWritable_int_of_lt (by decide) (by decide)
  | list items | tuple items | dict entries =>
    simp only [truthy, Bool.not_eq_false', List.isEmpty_iff] at h
    subst h
    rfl
  | _ => rfl

theorem areWritableEntries_iff {entries : List (Value × Value)} :
    areWritableEntries entries = true ↔ ∀ e ∈ entries, e.1.isWritable = true ∧ e.2.isWritable = true := by
  induction entries with
  | nil => exact iff_of_true rfl nofun
  | cons e entries ih => rw [areWritableEntries, Bool.and_eq_true, Bool.and_eq_true, ih, List.forall_mem_cons]

/-- What stands under a key of a value that can be written can be written itself. -/
theorem isWritable_of_under? {v key w : Value} (hv : v.isWritable = true) (hw : v.under? key = some w) :
    w.isWritable = true := by
  cases v with
  | dict entries =>
    obtain ⟨e, he, rfl⟩ := Option.map_eq_some_iff.mp hw
    exact (areWritableEntries_iff.mp hv e (List.mem_of_find?_eq_some he)).2
  | _ => cases hw

/-! ### Texts -/

section Texts
variable {v : Value}

theorem writable_of_isWritable (h : v.isWritable = true) : v.writable = .ok v := if_pos h

theorem writable_of_not (h : v.isWritable = false) : v.writable = .error overlong := if_neg (Bool.eq_false_iff.mp h)

theorem shown_of_isWritable (h : v.isWritable = true) : v.shown = .ok v.described := by
  rw [shown, writable_of_isWritable h, Outcome.ok_bind]

theorem shown_of_not (h : v.isWritable = false) : v.shown = .error overlong := by
  rw [shown, writable_of_not h, Outcome.error_bind]

theorem printed_of_isWritable (h : v.isWritable = true) : v.printed = .ok v.plain := by
  rw [printed, writable_of_isWritable h, Outcome.ok_bind]

theorem printed_of_not (h : v.isWritable = false) : v.printed = .error overlong := by
  rw [printed, writable_of_not h, Outcome.error_bind]

/-- A list of values is shown if all of them can be written. -/
theorem mapM_shown (vs : List Value) :
    vs.mapM shown = if areWritable vs then .ok (vs.map described) else .error overlong := by
  induction vs with
  | nil => rfl
  | cons v vs ih =>
    rw [List.mapM_cons, ih, areWritable]
    cases hv : v.isWritable with
    | false => rw [shown_of_not hv]; rfl
    | true =>
      rw [shown_of_isWritable hv]
      cases areWritable vs <;> rfl

open Outcome

theorem writable_failsAs (v : Value) : v.writable.FailsAs (· = overlong) := by
  unfold writable
  split
  · exact failsAs_ok v
  · exact failsAs_error.mpr rfl

/-- The failure to write a value is none of the errors of this library. -/
theorem writable_failsAmong (v : Value) (kinds : List ErrorKind) : v.writable.FailsAmong kinds := by
  intro f hf
  rw [writable_failsAs v f hf]
  trivial

theorem shown_failsAmong (v : Value) (kinds : List ErrorKind) : v.shown.FailsAmong kinds :=
  FailsAmong.bind (v.writable_failsAmong kinds) fun _ => failsAmong_ok _

theorem printed_failsAmong (v : Value) (kinds : List ErrorKind) : v.printed.FailsAmong kinds :=
  FailsAmong.bind (v.writable_failsAmong kinds) fun _ => failsAmong_ok _

end Texts

end Value
end JobScheduling
