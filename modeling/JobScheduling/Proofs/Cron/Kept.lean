import Mathlib
import JobScheduling.Proofs.Cron.Reading

/-! The text that a schedule keeps. It is the expression without the blanks around it, and the same schedule is read
    from it: what an expression is called matters only for the failure to read it. -/

namespace JobScheduling

namespace Text

theorem trimWhile_eq_rdropWhile (p : Char → Bool) (s : List Char) :
    trimWhile p s = (s.dropWhile p).rdropWhile p := rfl

/-- A text that does not begin with what is dropped does not begin with it once its end is cut off. -/
theorem dropWhile_of_prefix {p : Char → Bool} {s t : List Char} (hs : s.dropWhile p = s) (ht : t <+: s) :
    t.dropWhile p = t := by
  obtain ⟨u, rfl⟩ := ht
  cases t with
  | nil => rfl
  | cons c t =>
    rw [List.cons_append, List.dropWhile_eq_self_iff] at hs
    exact List.dropWhile_cons_of_neg (hs (Nat.succ_pos _))

/-- What was trimmed has nothing to trim. -/
theorem trimWhile_trimWhile (p : Char → Bool) (s : List Char) : trimWhile p (trimWhile p s) = trimWhile p s := by
  have hstart : ((s.dropWhile p).rdropWhile p).dropWhile p = (s.dropWhile p).rdropWhile p :=
    dropWhile_of_prefix (List.dropWhile_idempotent p s) (List.rdropWhile_prefix p _)
  rw [trimWhile_eq_rdropWhile, trimWhile_eq_rdropWhile, hstart, List.rdropWhile_idempotent]

end Text

namespace Cron

open Text

/-! ### The kept text -/

/-- What a field allows does not turn on what the expression is called. -/
theorem fieldValues_renamed {written : String} (renamed : String) {f : Field} {s : List Char} {vs : List Nat}
    (h : fieldValues written f s = .ok vs) : fieldValues renamed f s = .ok vs := by
  have hshort := shortNumerals_of_fieldValues h
  exact (fieldValues_eq_ok_iff hshort).mpr ((fieldValues_eq_ok_iff hshort).mp h)

/-- From the text that a schedule keeps the schedule is read again. -/
theorem parse_expression {written : String} {s : Schedule} (h : parse written = .ok s) : parse s.expression = .ok s := by
  obtain ⟨fields, hlayout, hexpression, hvalues, hmonth, hweek⟩ := parse_eq_ok_iff.mp h
  have htrim : trim s.expression.toList = trim written.toList := by
    rw [hexpression, String.toList_ofList]
    exact trimWhile_trimWhile isBlank written.toList
  refine parse_eq_ok_iff.mpr ⟨fields, ?_, ?_, fun f => fieldValues_renamed _ (hvalues f), hmonth, hweek⟩
  · rw [htrim]
    exact hlayout
  · rw [htrim]
    exact hexpression

end Cron
end JobScheduling
