import Mathlib
import JobScheduling.Cron.Parser
import JobScheduling.Proofs.Text.LetterCase

/-! The grammar of cron expressions, stated without the parser: which texts are values, parts, lists and expressions,
    and what each of them denotes. -/

namespace JobScheduling
namespace Cron

open Text

/-! ### Values -/

/-- A text of ASCII digits writes a number in base ten. -/
def Numeral (s : List Char) (n : Nat) : Prop :=
  s ≠ [] ∧ (∀ c ∈ s, isAsciiDigit c = true) ∧ n = Nat.ofDigits 10 (s.reverse.map fun c => c.toNat - '0'.toNat)

/-- A positive numeral is a step. -/
def Step (s : List Char) (n : Nat) : Prop := Numeral s n ∧ 1 ≤ n

namespace Field

/-- A text is the name of a value in some letter case. -/
def Names (f : Field) (s : List Char) (n : Nat) : Prop :=
  ∃ i name, f.names[i]? = some name ∧ upper s = name.toList ∧ n = f.low + i

/-- A text writes a value of the field, by its name or as a numeral. -/
def Writes (f : Field) (s : List Char) (n : Nat) : Prop := (f.Names s n ∨ Numeral s n) ∧ f.low ≤ n ∧ n ≤ f.high

/-! ### Parts and lists -/

/-- The parts of a list, and the progressions that they denote. -/
inductive Part (f : Field) : List Char → Progression → Prop
  /-- The form `*`. -/
  | all : Part f ['*'] ⟨f.low, f.high, 1⟩
  /-- The form `?`, of day fields only. -/
  | unsaid (hopen : f.allowsOpen = true) : Part f ['?'] ⟨f.low, f.high, 1⟩
  /-- The form `*/n`. -/
  | allBy {t : List Char} {n : Nat} (ht : Step t n) : Part f ('*' :: '/' :: t) ⟨f.low, f.high, n⟩
  /-- The form `v`. -/
  | value {s : List Char} {v : Nat} (hs : f.Writes s v) : Part f s ⟨v, v, 1⟩
  /-- The form `v/n`. -/
  | valueBy {s t : List Char} {v n : Nat} (hs : f.Writes s v) (ht : Step t n) :
    Part f (s ++ '/' :: t) ⟨v, f.high, n⟩
  /-- The form `a-b`. -/
  | range {s t : List Char} {a b : Nat} (hs : f.Writes s a) (ht : f.Writes t b) (hab : a ≤ b) :
    Part f (s ++ '-' :: t) ⟨a, b, 1⟩
  /-- The form `a-b/n`. -/
  | rangeBy {s t u : List Char} {a b n : Nat} (hs : f.Writes s a) (ht : f.Writes t b) (hab : a ≤ b) (hu : Step u n) :
    Part f ((s ++ '-' :: t) ++ '/' :: u) ⟨a, b, n⟩

/-- A field is a list of parts, separated by commas. -/
def Lists (f : Field) (s : List Char) (ps : List Progression) : Prop :=
  ∃ texts, texts ≠ [] ∧ s = [','].intercalate texts ∧ List.Forall₂ f.Part texts ps

end Field

/-- The numbers of a progression. -/
def Progression.Has (p : Progression) (n : Nat) : Prop := ∃ k, n = p.first + k * p.step ∧ n ≤ p.last

/-! ### Expressions -/

/-- The fields in the order in which they are written. -/
def Field.inOrder : List Field := [.second, .minute, .hour, .dayOfMonth, .month, .dayOfWeek]

/-- What stands for each field, of six things in order. -/
def Field.pick {α : Type} (sec min hour dom month dow : α) : Field → α
  | second => sec
  | minute => min
  | .hour => hour
  | dayOfMonth => dom
  | .month => month
  | dayOfWeek => dow

/-- The words of an expression: those of its expansion if it is an alias, in some letter case. -/
def Worded (s : List Char) (ws : List (List Char)) : Prop :=
  (∃ a ∈ aliases, lowerText s = a.1.toList ∧ ws = words a.2.toList) ∨ (s.head? ≠ some '@' ∧ ws = words s)

/-- The words of an expression are its fields; that of the seconds may be left out. -/
def Layout (s : List Char) (fields : Field → List Char) : Prop :=
  ∃ ws, Worded s ws ∧ (ws = Field.inOrder.map fields ∨ ['0'] :: ws = Field.inOrder.map fields)

/-- No numeral in a text has more digits than a numeral may have. -/
def ShortNumerals (s : List Char) : Prop :=
  ∀ t, t <:+: s → (∀ c ∈ t, isAsciiDigit c = true) → t.length ≤ maxNumeralDigits

/-! ### Characters of values -/

/-- The characters that make up the forms of parts and lists. -/
def marks : List Char := [',', '/', '-', '*', '?']

theorem isAsciiDigit_of_mem_marks : ∀ c ∈ marks, isAsciiDigit c = false := by simp [marks, isAsciiDigit]

theorem upperChar_of_mem_marks : ∀ c ∈ marks, upperChar c = [c] := by simp [marks, upperChar]

namespace Field

variable {f : Field} {s : List Char} {n : Nat}

theorem names_letters (f : Field) : ∀ name ∈ f.names, ∀ c ∈ name.toList, c ∉ marks ∧ isAsciiDigit c = false := by
  cases f <;> simp [names, monthNames, dayNames, marks, isAsciiDigit]

theorem names_ne_empty (f : Field) : ∀ name ∈ f.names, name.toList ≠ [] := by
  cases f <;> simp [names, monthNames, dayNames]

theorem not_mem_of_writes (h : f.Writes s n) {c : Char} (hc : c ∈ marks) : c ∉ s := by
  intro hmem
  rcases h.1 with ⟨i, name, hname, hupper, -⟩ | ⟨-, hdigits, -⟩
  · have hcname := mem_upper (upperChar_of_mem_marks c hc) hmem
    rw [hupper] at hcname
    exact (f.names_letters name (List.mem_of_getElem? hname) c hcname).1 hc
  · exact Bool.false_ne_true ((isAsciiDigit_of_mem_marks c hc).symm.trans (hdigits c hmem))

theorem ne_nil_of_writes (h : f.Writes s n) : s ≠ [] := by
  rcases h.1 with ⟨i, name, hname, hupper, -⟩ | ⟨hne, -⟩
  · rintro rfl
    exact f.names_ne_empty name (List.mem_of_getElem? hname) hupper.symm
  · exact hne

end Field

theorem not_mem_of_numeral {s : List Char} {n : Nat} (h : Numeral s n) {c : Char} (hc : c ∈ marks) : c ∉ s :=
  fun hmem => Bool.false_ne_true ((isAsciiDigit_of_mem_marks c hc).symm.trans (h.2.1 c hmem))

/-! ### Parts -/

namespace Field

variable {f : Field} {s : List Char} {p : Progression}

theorem Part.ne_nil (h : f.Part s p) : s ≠ [] := by
  cases h with
  | value hs => exact ne_nil_of_writes hs
  | _ => simp

theorem Part.not_mem_comma (h : f.Part s p) : ',' ∉ s := by
  cases h with
  | all => decide
  | unsaid _ => decide
  | allBy ht => simpa using not_mem_of_numeral ht.1 (by decide)
  | value hs => exact not_mem_of_writes hs (by decide)
  | valueBy hs ht => simpa using ⟨not_mem_of_writes hs (by decide), not_mem_of_numeral ht.1 (by decide)⟩
  | range hs ht _ => simpa using ⟨not_mem_of_writes hs (by decide), not_mem_of_writes ht (by decide)⟩
  | rangeBy hs ht _ hu =>
    simpa using ⟨not_mem_of_writes hs (by decide), not_mem_of_writes ht (by decide),
      not_mem_of_numeral hu.1 (by decide)⟩

/-- What a part denotes begins and ends within the range of the field, in this order. -/
theorem Part.bounds (h : f.Part s p) : f.low ≤ p.first ∧ p.first ≤ p.last ∧ p.last ≤ f.high := by
  cases h with
  | all => exact ⟨le_rfl, f.low_le_high, le_rfl⟩
  | unsaid _ => exact ⟨le_rfl, f.low_le_high, le_rfl⟩
  | allBy _ => exact ⟨le_rfl, f.low_le_high, le_rfl⟩
  | value hs => exact ⟨hs.2.1, le_rfl, hs.2.2⟩
  | valueBy hs _ => exact ⟨hs.2.1, hs.2.2, le_rfl⟩
  | range hs ht hab => exact ⟨hs.2.1, hab, ht.2.2⟩
  | rangeBy hs ht hab _ => exact ⟨hs.2.1, hab, ht.2.2⟩

end Field

theorem Progression.holds_iff {p : Progression} {n : Nat} : p.holds n = true ↔ p.Has n := by
  simp only [holds, Bool.and_eq_true, decide_eq_true_eq, beq_iff_eq]
  constructor
  · rintro ⟨⟨hfirst, hlast⟩, hmod⟩
    refine ⟨(n - p.first) / p.step, ?_, hlast⟩
    rw [Nat.div_mul_cancel (Nat.dvd_of_mod_eq_zero hmod), Nat.add_sub_cancel' hfirst]
  · rintro ⟨k, rfl, hlast⟩
    exact ⟨⟨Nat.le_add_right _ _, hlast⟩, by rw [Nat.add_sub_cancel_left, Nat.mul_mod_left]⟩

theorem Progression.has_first {p : Progression} (h : p.first ≤ p.last) : p.Has p.first :=
  ⟨0, by rw [Nat.zero_mul, Nat.add_zero], h⟩

end Cron
end JobScheduling
