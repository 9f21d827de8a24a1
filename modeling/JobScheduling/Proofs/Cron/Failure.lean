import JobScheduling.Cron.Occurrence
import JobScheduling.Cron.Parser
import JobScheduling.Proofs.Value.Access
import JobScheduling.Proofs.Zone.Failure

/-! How schedules can fail. Whatever is wrong with an expression is an error that carries the expression, but for a
    number with too many digits to be converted. To look for an occurrence fails with an error of this library only if
    the schedule is unreachable. -/

namespace JobScheduling
namespace Cron

open Outcome

/-! ### Reading expressions -/

/-- A failure to read what is written: an error that carries it, or a number with more digits than are converted. -/
inductive Refusal (written : String) : Fault → Prop
  | flawed (flaw : ExpressionFlaw) (field : Option Field) :
    Refusal written (.problem (.expression written flaw field))
  | overlong (text : String) : Refusal written (.badValue text)

theorem Refusal.among {written : String} {f : Fault} (h : Refusal written f) : f.Among [.scheduleExpression] := by
  cases h with
  | flawed _ _ => exact List.mem_singleton_self _
  | overlong _ => trivial

section Reading
variable (written : String) (f : Field)

theorem flawed_refuses {α : Type} (flaw : ExpressionFlaw) :
    (flawed written f flaw : Outcome α).FailsAs (Refusal written) :=
  failsAs_error.mpr (.flawed flaw (some f))

theorem numeral_refuses (s : List Char) : (numeral written f s).FailsAs (Refusal written) := by
  unfold numeral
  split
  · exact flawed_refuses written f _
  · split
    · exact failsAs_error.mpr (.overlong _)
    · exact failsAs_ok _

theorem fieldValue_refuses (s : List Char) : (fieldValue written f s).FailsAs (Refusal written) := by
  unfold fieldValue
  extract_lets -underBinder inRange
  have hrange : ∀ n, (inRange n).FailsAs (Refusal written) := by
    intro n
    dsimp only [inRange]
    split
    · exact failsAs_ok n
    · exact flawed_refuses written f _
  split
  · exact FailsAs.bind (failsAs_ok _) hrange
  · exact FailsAs.bind (numeral_refuses written f s) hrange

theorem stepOf_refuses (s : Option (List Char)) : (stepOf written f s).FailsAs (Refusal written) := by
  unfold stepOf
  split
  · exact failsAs_ok 1
  · refine FailsAs.bind (numeral_refuses written f _) fun n => ?_
    split
    · exact flawed_refuses written f _
    · exact failsAs_ok n

theorem part_refuses (s : List Char) : (part written f s).FailsAs (Refusal written) := by
  unfold part
  dsimp only
  refine FailsAs.bind (stepOf_refuses written f _) fun step => ?_
  split
  · split
    · exact flawed_refuses written f _
    · exact failsAs_ok _
  · split
    · exact failsAs_ok _
    · split
      · refine FailsAs.bind (fieldValue_refuses written f _) fun first =>
          FailsAs.bind (fieldValue_refuses written f _) fun last => ?_
        split
        · exact flawed_refuses written f _
        · exact failsAs_ok _
      · exact FailsAs.bind (fieldValue_refuses written f _) fun _ => failsAs_ok _

theorem parts_refuses (texts : List (List Char)) : (parts written f texts).FailsAs (Refusal written) := by
  induction texts with
  | nil => exact failsAs_ok []
  | cons s rest ih =>
    unfold parts
    extract_lets -underBinder others
    have hothers : ∀ p, (others p).FailsAs (Refusal written) := fun _ => FailsAs.bind ih fun _ => failsAs_ok _
    split
    · exact FailsAs.bind (flawed_refuses written f _) hothers
    · exact FailsAs.bind (part_refuses written f s) hothers

theorem fieldValues_refuses (s : List Char) : (fieldValues written f s).FailsAs (Refusal written) :=
  FailsAs.bind (parts_refuses written f _) fun _ => failsAs_ok _

end Reading

theorem ofFields_refuses (written : String) (expression sec min hour dom month dow : List Char) :
    (ofFields written expression sec min hour dom month dow).FailsAs (Refusal written) :=
  FailsAs.bind (fieldValues_refuses written .second sec) fun _ =>
  FailsAs.bind (fieldValues_refuses written .minute min) fun _ =>
  FailsAs.bind (fieldValues_refuses written .hour hour) fun _ =>
  FailsAs.bind (fieldValues_refuses written .dayOfMonth dom) fun _ =>
  FailsAs.bind (fieldValues_refuses written .month month) fun _ =>
  FailsAs.bind (fieldValues_refuses written .dayOfWeek dow) fun _ => failsAs_ok _

theorem fieldsOf_refuses (written : String) (s : List Char) : (fieldsOf written s).FailsAs (Refusal written) := by
  unfold fieldsOf
  split
  · split
    · exact failsAs_ok _
    · exact failsAs_error.mpr (.flawed _ none)
  · exact failsAs_ok _

theorem parse_refuses (written : String) : (parse written).FailsAs (Refusal written) := by
  unfold parse
  refine FailsAs.bind (fieldsOf_refuses written _) fun fields => ?_
  split
  · exact ofFields_refuses written _ _ _ _ _ _ _
  · exact ofFields_refuses written _ _ _ _ _ _ _
  · exact failsAs_error.mpr (.flawed _ none)

/-- A value that is no text is refused with an error that carries its notation, if that can be written. -/
theorem parseValue_of_not_text {v : Value} (hv : ∀ s, v ≠ .text s) : parseValue v =
    if v.isWritable then .error (.problem (.expression v.plain .notText none))
    else .error (.badValue "Exceeds the limit for integer string conversion") := by
  have hread : parseValue v = (do .error (.problem (.expression (← v.shown) .notText none))) := by
    cases v with
    | text s => exact absurd rfl (hv s)
    | _ => rfl
  have hplain : v.plain = v.described := by
    cases v with
    | text s => exact absurd rfl (hv s)
    | _ => rfl
  rw [hread, hplain]
  split
  · rw [Value.shown_of_isWritable ‹_›, ok_bind]
  · rw [Value.shown_of_not (Bool.eq_false_iff.mpr ‹_›), error_bind]
    rfl

theorem parseValue_refuses (v : Value) : (parseValue v).FailsAs (Refusal v.plain) := by
  by_cases hv : ∃ s, v = .text s
  · obtain ⟨s, rfl⟩ := hv
    exact parse_refuses s
  · rw [parseValue_of_not_text (not_exists.mp hv)]
    split
    · exact failsAs_error.mpr (.flawed _ none)
    · exact failsAs_error.mpr (.overlong _)

/-- What cannot be read as a schedule is refused with an error about the expression. -/
theorem parseValue_failsAmong (v : Value) : (parseValue v).FailsAmong [.scheduleExpression] :=
  fun f hf => (parseValue_refuses v f hf).among

/-! ### Looking for occurrences -/

theorem lastYear_failsAmong (year : Nat) (lookahead : Value) : (lastYear year lookahead).FailsAmong [] := by
  unfold lastYear
  split
  · exact failsAmong_ok _
  · split
    · exact failsAmong_ok _
    · exact failsAmong_error.mpr trivial

theorem firings_failsAmong (z : Offsets) (r : Int) : (firings z r).FailsAmong [] := by
  refine FailsAmong.bind (z.instantsOf_failsAmong r) fun us => ?_
  cases us with
  | nil => exact FailsAmong.bind (z.afterGap_failsAmong r) fun _ => failsAmong_ok _
  | cons u us => exact failsAmong_ok _

namespace Schedule

variable (s : Schedule)

theorem nextMatch_failsAmong (start lastYear : Int) : (s.nextMatch start lastYear).FailsAmong [] := by
  unfold nextMatch
  split
  · exact failsAmong_ok none
  · split
    · exact failsAmong_ok _
    · split
      · exact failsAmong_ok none
      · split <;> exact failsAmong_error.mpr trivial

/-- The search goes on behind a match that is over, and fails as it does there. -/
theorem occurrenceFrom_failsAmong (z : Offsets) (lookahead : Value) (after last start : Int) :
    (s.occurrenceFrom z lookahead after last start).FailsAmong [.scheduleUnreachable] := by
  induction start using occurrenceFrom.induct with
  | case1 start ih =>
    rw [occurrenceFrom]
    refine FailsAmong.bind ((s.nextMatch_failsAmong start last).mono (List.nil_subset _)) fun found => ?_
    cases found with
    | none =>
      exact FailsAmong.bind (lookahead.writable_failsAmong _) fun _ => by simp [Fault.Among, Problem.kind]
    | some r =>
      refine FailsAmong.bind ((firings_failsAmong z r).mono (List.nil_subset _)) fun us => ?_
      split
      · exact failsAmong_ok _
      · refine FailsAmong.bind ((Calendar.checked_failsAmong _).mono (List.nil_subset _)) fun next => ?_
        split
        · rename_i h
          exact ih next h
        · exact failsAmong_error.mpr trivial

theorem next_failsAmong (z : Offsets) (after : Int) (lookahead : Value) :
    (s.next z after lookahead).FailsAmong [.scheduleUnreachable] :=
  FailsAmong.bind ((z.readingOf_failsAmong after).mono (List.nil_subset _)) fun _ =>
  FailsAmong.bind ((Calendar.checked_failsAmong _).mono (List.nil_subset _)) fun start =>
  FailsAmong.bind ((lastYear_failsAmong _ lookahead).mono (List.nil_subset _)) fun last =>
    s.occurrenceFrom_failsAmong z lookahead after last start

end Schedule

/-- No occurrence is found if the time or the zone is refused, or the schedule is unreachable. -/
theorem nextOccurrence_failsAmong (h : Host) (s : Schedule) (after : TimeValue) (hint : ZoneHint) (lookahead : Value) :
    (nextOccurrence h s after hint lookahead).FailsAmong [.validation, .scheduleUnreachable] :=
  FailsAmong.bind ((h.resolve_failsAmong hint).mono (by simp)) fun z =>
  FailsAmong.bind ((h.toInstant_failsAmong after (.zone z)).mono (by simp)) fun u =>
    (s.next_failsAmong z.offsets u lookahead).mono (by simp)

end Cron
end JobScheduling
