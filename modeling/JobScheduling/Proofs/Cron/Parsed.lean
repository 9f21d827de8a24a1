import JobScheduling.Cron.Parser
import JobScheduling.Proofs.Outcome

/-! What holds of every schedule that is read from an expression: the allowed values of a field ascend and lie in
    the range of the field. -/

namespace JobScheduling
namespace Cron

open Text

namespace Schedule

/-- The allowed values of each field ascend within the range of the field. -/
def Ordered (s : Schedule) : Prop :=
  ∀ f : Field, (s.allowed f).Pairwise (· < ·) ∧ ∀ n ∈ s.allowed f, f.low ≤ n ∧ n ≤ f.high

end Schedule

theorem Field.range_ascending (f : Field) : f.range.Pairwise (· < ·) := List.pairwise_lt_range' ..

theorem Field.union_ordered (f : Field) (ps : List Progression) :
    (f.union ps).Pairwise (· < ·) ∧ ∀ n ∈ f.union ps, f.low ≤ n ∧ n ≤ f.high :=
  ⟨f.range_ascending.filter _, fun _ hn => (Field.mem_union.mp hn).1⟩

theorem fieldValues_eq_ok {written : String} {f : Field} {s : List Char} {vs : List Nat}
    (h : fieldValues written f s = .ok vs) : ∃ ps, parts written f (pieces ',' s) = .ok ps ∧ vs = f.union ps := by
  obtain ⟨ps, hps, h⟩ := Outcome.bind_eq_ok.mp h
  cases h
  exact ⟨ps, hps, rfl⟩

theorem ofFields_ordered {written : String} {expression sec min hour dom month dow : List Char} {s : Schedule}
    (h : ofFields written expression sec min hour dom month dow = .ok s) : s.Ordered := by
  obtain ⟨seconds, h1, h⟩ := Outcome.bind_eq_ok.mp h
  obtain ⟨minutes, h2, h⟩ := Outcome.bind_eq_ok.mp h
  obtain ⟨hours, h3, h⟩ := Outcome.bind_eq_ok.mp h
  obtain ⟨daysOfMonth, h4, h⟩ := Outcome.bind_eq_ok.mp h
  obtain ⟨months, h5, h⟩ := Outcome.bind_eq_ok.mp h
  obtain ⟨daysOfWeek, h6, h⟩ := Outcome.bind_eq_ok.mp h
  cases h
  obtain ⟨_, -, rfl⟩ := fieldValues_eq_ok h1
  obtain ⟨_, -, rfl⟩ := fieldValues_eq_ok h2
  obtain ⟨_, -, rfl⟩ := fieldValues_eq_ok h3
  obtain ⟨_, -, rfl⟩ := fieldValues_eq_ok h4
  obtain ⟨_, -, rfl⟩ := fieldValues_eq_ok h5
  obtain ⟨_, -, rfl⟩ := fieldValues_eq_ok h6
  intro f
  cases f <;> exact Field.union_ordered _ _

/-- Every schedule that an expression writes is ordered. -/
theorem parse_ordered {written : String} {s : Schedule} (h : parse written = .ok s) : s.Ordered := by
  obtain ⟨fields, -, h⟩ := Outcome.bind_eq_ok.mp h
  split at h
  · exact ofFields_ordered h
  · exact ofFields_ordered h
  · cases h

theorem parseValue_ordered {v : Value} {s : Schedule} (h : parseValue v = .ok s) : s.Ordered := by
  cases v with
  | text written => exact parse_ordered h
  | _ =>
    obtain ⟨_, -, h⟩ := Outcome.bind_eq_ok.mp h
    cases h

end Cron
end JobScheduling
