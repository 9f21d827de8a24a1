import Mathlib
import JobScheduling.Proofs.Cron.Failure
import JobScheduling.Proofs.Cron.Reading

/-! Numerals that are too long to be read. Whatever a value holds, a schedule is read from it or it is refused with an
    error that carries it, with one exception: a number with more digits than are converted fails with the failure of
    converting it. An expression fails so exactly if such a numeral is the first thing in it that cannot be read. -/

namespace JobScheduling
namespace Cron

open Text

/-! ### Going through a list -/

section ComesTo
variable {α : Type} {passed met : α → Prop}

/-- Who goes through a list gets past some of it and then meets what was looked for. -/
def ComesTo (passed met : α → Prop) (as : List α) : Prop :=
  ∃ before a after, as = before ++ a :: after ∧ (∀ b ∈ before, passed b) ∧ met a

theorem not_comesTo_nil : ¬ComesTo passed met [] := by
  rintro ⟨before, a, after, hsplit, -⟩
  exact List.append_ne_nil_of_right_ne_nil before (List.cons_ne_nil a after) hsplit.symm

theorem comesTo_cons {a : α} {as : List α} :
    ComesTo passed met (a :: as) ↔ met a ∨ passed a ∧ ComesTo passed met as := by
  constructor
  · rintro ⟨before, b, after, hsplit, hbefore, hb⟩
    cases before with
    | nil =>
      cases hsplit
      exact Or.inl hb
    | cons c before =>
      cases hsplit
      exact Or.inr ⟨hbefore a List.mem_cons_self, before, b, after, rfl,
        fun d hd => hbefore d (List.mem_cons_of_mem a hd), hb⟩
  · rintro (ha | ⟨ha, before, b, after, rfl, hbefore, hb⟩)
    · exact ⟨[], a, as, rfl, nofun, ha⟩
    · exact ⟨a :: before, b, after, rfl, List.forall_mem_cons.mpr ⟨ha, hbefore⟩, hb⟩

end ComesTo

/-! ### Expressions that hold an overlong numeral -/

/-- A text of ASCII digits, more of them than a numeral may have. -/
def Overlong (s : List Char) : Prop := (∀ c ∈ s, isAsciiDigit c = true) ∧ maxNumeralDigits < s.length

namespace Field

/-- An overlong numeral is reached in what stands before a slash, or without one: all of it, the first bound of a range,
    or the last bound behind a first one that is read. -/
inductive BaseStumbles (f : Field) : List Char → Prop
  | value {s : List Char} (hs : Overlong s) : BaseStumbles f s
  | first {s : List Char} (hs : Overlong s) (t : List Char) : BaseStumbles f (s ++ '-' :: t)
  | last {s t : List Char} {a : Nat} (hs : f.Writes s a) (hshort : ShortNumerals s) (ht : Overlong t) :
    BaseStumbles f (s ++ '-' :: t)

/-- An overlong numeral is reached in a part: the step, which is read first, or one before it. -/
inductive PartStumbles (f : Field) : List Char → Prop
  | step {s t : List Char} (hs : '/' ∉ s) (ht : Overlong t) : PartStumbles f (s ++ '/' :: t)
  | stepped {s t : List Char} {n : Nat} (hs : '/' ∉ s) (ht : Step t n) (hshort : ShortNumerals t)
    (hbase : f.BaseStumbles s) : PartStumbles f (s ++ '/' :: t)
  | bare {s : List Char} (hs : '/' ∉ s) (hbase : f.BaseStumbles s) : PartStumbles f s

/-- An overlong numeral is reached in a list, behind parts that are read. -/
def ListStumbles (f : Field) (s : List Char) : Prop :=
  ComesTo (fun t => (∃ p, f.Part t p) ∧ ShortNumerals t) f.PartStumbles (pieces ',' s)

end Field

/-- An overlong numeral is reached in one of the fields of an expression, behind fields that are read. -/
def FieldStumbles (fields : Field → List Char) : Prop :=
  ComesTo (fun f => (∃ ps, f.Lists (fields f) ps) ∧ ShortNumerals (fields f)) (fun f => f.ListStumbles (fields f))
    Field.inOrder

/-- Reading a value as an expression comes to a number with too many digits: in a text an overlong numeral is reached,
    and any other value cannot be written into the error about it. -/
def Stumbles : Value → Prop
  | .text written => ∃ fields, Layout (trim written.toList) fields ∧ FieldStumbles fields
  | v => v.isWritable = false

/-! ### Failures to convert a number -/

/-- An outcome is the failure to convert a number. -/
def Unconverted {α : Type} (x : Outcome α) : Prop := ∃ text, x = .error (.badValue text)

section Unconverted
variable {α β : Type} {x : Outcome α} {k : α → Outcome β}

@[simp] theorem not_unconverted_ok (a : α) : ¬Unconverted (.ok a) := nofun

@[simp] theorem not_unconverted_problem (p : Problem) : ¬Unconverted (.error (.problem p) : Outcome α) := nofun

@[simp] theorem not_unconverted_flawed (written : String) (f : Field) (flaw : ExpressionFlaw) :
    ¬Unconverted (flawed written f flaw : Outcome α) := nofun

theorem unconverted_bind : Unconverted (x >>= k) ↔ Unconverted x ∨ ∃ a, x = .ok a ∧ Unconverted (k a) := by
  cases x with
  | ok a => simp
  | error f => simp [Unconverted]

/-- Where what follows does not turn on the value of a step, neither does whether it fails to convert a number. -/
theorem unconverted_bind_of {c : Prop} (hk : ∀ a, Unconverted (k a) ↔ c) :
    Unconverted (x >>= k) ↔ Unconverted x ∨ (∃ a, x = .ok a) ∧ c := by
  simp only [unconverted_bind, hk, exists_and_right]

end Unconverted

/-! ### What is read -/

/-- What is read exactly if it is one of the grammar, as long as no numeral is too long, is read exactly if it is and no
    numeral is. -/
theorem reads_iff {α : Type} {x : Outcome α} {p : α → Prop} {s : List Char} (hshort : ∀ a, x = .ok a → ShortNumerals s)
    (hread : ShortNumerals s → ∀ a, x = .ok a ↔ p a) : (∃ a, x = .ok a) ↔ (∃ a, p a) ∧ ShortNumerals s := by
  constructor
  · rintro ⟨a, ha⟩
    exact ⟨⟨a, (hread (hshort a ha) a).mp ha⟩, hshort a ha⟩
  · rintro ⟨⟨a, ha⟩, hs⟩
    exact ⟨a, (hread hs a).mpr ha⟩

theorem Overlong.not_mem {s : List Char} (h : Overlong s) {c : Char} (hc : c ∈ marks) : c ∉ s :=
  fun hmem => Bool.false_ne_true ((isAsciiDigit_of_mem_marks c hc).symm.trans (h.1 c hmem))

theorem Overlong.ne_nil {s : List Char} (h : Overlong s) : s ≠ [] :=
  List.ne_nil_of_length_pos ((Nat.zero_le _).trans_lt h.2)

/-! ### Values and steps -/

section Field
variable (written : String) (f : Field) (s : List Char)

theorem numeral_unconverted_iff : Unconverted (numeral written f s) ↔ Overlong s := by
  unfold numeral Overlong
  split
  · rename_i hdigits
    refine iff_of_false (not_unconverted_flawed _ _ _) fun ⟨hall, hlong⟩ => ?_
    have hne : s ≠ [] := Overlong.ne_nil ⟨hall, hlong⟩
    simp [hne, List.all_eq_true.mpr hall] at hdigits
  · rename_i hdigits
    rw [Bool.or_eq_true, not_or, Bool.not_eq_true', Bool.not_eq_false, List.all_eq_true] at hdigits
    rw [and_iff_right hdigits.2]
    split
    · exact iff_of_true ⟨_, rfl⟩ ‹_›
    · exact iff_of_false (not_unconverted_ok _) ‹_›

theorem fieldValue_unconverted_iff : Unconverted (fieldValue written f s) ↔ Overlong s := by
  have hrange : ∀ n, Unconverted (if f.low ≤ n ∧ n ≤ f.high then .ok n else flawed written f (.outOfRange f n)) ↔
      False := by
    intro n
    split <;> simp
  unfold fieldValue
  split
  · rename_i n hn
    refine iff_of_false ((hrange n).mp) fun hlong => ?_
    have hnumeral : Numeral s _ := ⟨hlong.ne_nil, hlong.1, rfl⟩
    exact nomatch hn.symm.trans (Field.named?_eq_none_of_numeral hnumeral)
  · rw [unconverted_bind_of hrange, and_false, or_false, numeral_unconverted_iff]

theorem fieldValue_reads_iff : (∃ n, fieldValue written f s = .ok n) ↔ (∃ n, f.Writes s n) ∧ ShortNumerals s :=
  reads_iff (fun _ => shortNumerals_of_fieldValue) fun hs _ => fieldValue_eq_ok_iff hs

theorem stepOf_unconverted_iff : Unconverted (stepOf written f (some s)) ↔ Overlong s := by
  have hpositive : ∀ n, Unconverted (if n < 1 then flawed written f (.stepNotPositive (String.ofList s)) else .ok n) ↔
      False := by
    intro n
    split <;> simp
  unfold stepOf
  rw [unconverted_bind_of hpositive, and_false, or_false, numeral_unconverted_iff]

theorem stepOf_reads_iff : (∃ n, stepOf written f (some s) = .ok n) ↔ (∃ n, Step s n) ∧ ShortNumerals s :=
  reads_iff (fun _ => shortNumerals_of_stepOf) fun hs _ => stepOf_eq_ok_iff hs

end Field

/-! ### Parts -/

namespace Field

variable {f : Field} {s : List Char}

theorem BaseStumbles.long (h : f.BaseStumbles s) : maxNumeralDigits < s.length := by
  cases h with
  | value hs => exact hs.2
  | first hs t =>
    rw [List.length_append]
    exact hs.2.trans_le (Nat.le_add_right _ _)
  | last _ _ ht =>
    rw [List.length_append, List.length_cons]
    exact ht.2.trans_le ((Nat.le_succ _).trans (Nat.le_add_left _ _))

theorem PartStumbles.ne_nil (h : f.PartStumbles s) : s ≠ [] := by
  cases h with
  | bare _ hbase => exact List.ne_nil_of_length_pos ((Nat.zero_le _).trans_lt hbase.long)
  | _ => simp

end Field

section Field
variable (written : String) (f : Field)

/-- Whether an overlong numeral is reached before a slash does not turn on the step behind it. -/
theorem beforeSlash_unconverted_iff (base : List Char) (stepped : Bool) (step : Nat) :
    Unconverted (beforeSlash written f base stepped step) ↔ f.BaseStumbles base := by
  constructor
  · intro h
    unfold beforeSlash at h
    split at h
    · split at h <;> simp at h
    · split at h
      · simp at h
      · split at h
        · rename_i a b hcut
          obtain ⟨rfl, -⟩ := cut_eq_some hcut
          rcases unconverted_bind.mp h with hfirst | ⟨first, hfirst, h⟩
          · exact .first ((fieldValue_unconverted_iff written f a).mp hfirst) b
          · obtain ⟨⟨n, hn⟩, hshort⟩ := (fieldValue_reads_iff written f a).mp ⟨first, hfirst⟩
            rcases unconverted_bind.mp h with hlast | ⟨last, -, h⟩
            · exact .last hn hshort ((fieldValue_unconverted_iff written f b).mp hlast)
            · split at h <;> simp at h
        · rcases unconverted_bind.mp h with hvalue | ⟨_, -, h⟩
          · exact .value ((fieldValue_unconverted_iff written f base).mp hvalue)
          · simp at h
  · intro h
    have hopen : base ≠ ['?'] := fun heq => absurd (heq ▸ h.long) (by decide)
    have hall : base ≠ ['*'] := fun heq => absurd (heq ▸ h.long) (by decide)
    unfold beforeSlash
    rw [if_neg hopen, if_neg hall]
    cases h with
    | value hs =>
      rw [cut_of_not_mem (hs.not_mem (by decide))]
      exact unconverted_bind.mpr (Or.inl ((fieldValue_unconverted_iff written f _).mpr hs))
    | first hs t =>
      rw [cut_append t (hs.not_mem (by decide))]
      exact unconverted_bind.mpr (Or.inl ((fieldValue_unconverted_iff written f _).mpr hs))
    | last hs hshort ht =>
      rw [cut_append _ (Field.not_mem_of_writes hs (by decide))]
      dsimp only
      rw [(fieldValue_eq_ok_iff hshort).mpr hs, Outcome.ok_bind]
      exact unconverted_bind.mpr (Or.inl ((fieldValue_unconverted_iff written f _).mpr ht))

theorem part_unconverted_iff (s : List Char) : Unconverted (part written f s) ↔ f.PartStumbles s := by
  rw [part_eq, unconverted_bind_of (beforeSlash_unconverted_iff written f (cut '/' s).1 (cut '/' s).2.isSome)]
  constructor
  · intro h
    cases hcut : cut '/' s with
    | mk base stepText =>
      rw [hcut] at h
      cases stepText with
      | none =>
        obtain ⟨rfl, hslash⟩ := cut_eq_none hcut
        exact .bare hslash (h.resolve_left (not_unconverted_ok 1)).2
      | some t =>
        obtain ⟨rfl, hslash⟩ := cut_eq_some hcut
        rcases h with hstep | ⟨hstep, hbase⟩
        · exact .step hslash ((stepOf_unconverted_iff written f t).mp hstep)
        · obtain ⟨⟨n, hn⟩, hshort⟩ := (stepOf_reads_iff written f t).mp hstep
          exact .stepped hslash hn hshort hbase
  · intro h
    cases h with
    | @step s t hslash ht =>
      rw [cut_append t hslash]
      exact Or.inl ((stepOf_unconverted_iff written f t).mpr ht)
    | @stepped s t n hslash ht hshort hbase =>
      rw [cut_append t hslash]
      exact Or.inr ⟨(stepOf_reads_iff written f t).mpr ⟨⟨n, ht⟩, hshort⟩, hbase⟩
    | bare hslash hbase =>
      rw [cut_of_not_mem hslash]
      exact Or.inr ⟨⟨1, rfl⟩, hbase⟩

theorem part_reads_iff (s : List Char) : (∃ p, part written f s = .ok p) ↔ (∃ p, f.Part s p) ∧ ShortNumerals s :=
  reads_iff (fun _ => shortNumerals_of_part) fun hs _ => part_eq_ok_iff hs

/-! ### Lists -/

theorem parts_unconverted_iff (texts : List (List Char)) : Unconverted (parts written f texts) ↔
    ComesTo (fun t => (∃ p, f.Part t p) ∧ ShortNumerals t) f.PartStumbles texts := by
  induction texts with
  | nil => exact iff_of_false (not_unconverted_ok _) not_comesTo_nil
  | cons s rest ih =>
    have hrest : ∀ p, Unconverted (parts written f rest >>= fun ps => .ok (p :: ps)) ↔
        Unconverted (parts written f rest) := fun p => by simp [unconverted_bind]
    unfold parts
    dsimp only
    rw [comesTo_cons, ← ih]
    split
    · rename_i hempty
      rw [List.isEmpty_iff.mp hempty]
      refine iff_of_false (not_unconverted_flawed written f .emptyElement) ?_
      rintro (hstumbles | ⟨⟨⟨p, hp⟩, -⟩, -⟩)
      · exact hstumbles.ne_nil rfl
      · exact hp.ne_nil rfl
    · rw [unconverted_bind_of hrest, part_unconverted_iff, part_reads_iff]

theorem fieldValues_unconverted_iff (s : List Char) : Unconverted (fieldValues written f s) ↔ f.ListStumbles s := by
  have hunion : ∀ ps, Unconverted (.ok (f.union ps) : Outcome (List Nat)) ↔ False := fun ps => by simp
  unfold fieldValues
  rw [unconverted_bind_of hunion, and_false, or_false, parts_unconverted_iff, Field.ListStumbles]

theorem fieldValues_reads_iff (s : List Char) :
    (∃ vs, fieldValues written f s = .ok vs) ↔ (∃ ps, f.Lists s ps) ∧ ShortNumerals s := by
  have hlists : (∃ vs ps, f.Lists s ps ∧ vs = f.union ps) ↔ ∃ ps, f.Lists s ps := by
    rw [exists_comm]
    simp only [exists_and_left, exists_eq, and_true]
  rw [← hlists]
  exact reads_iff (fun _ => shortNumerals_of_fieldValues) fun hs _ => fieldValues_eq_ok_iff hs

end Field

/-! ### Expressions -/

theorem ofFields_unconverted_iff (written : String) (expression : List Char) (fields : Field → List Char) :
    Unconverted (ofFields written expression (fields .second) (fields .minute) (fields .hour) (fields .dayOfMonth)
      (fields .month) (fields .dayOfWeek)) ↔ FieldStumbles fields := by
  unfold ofFields FieldStumbles Field.inOrder
  simp only [unconverted_bind, exists_and_right, fieldValues_unconverted_iff, fieldValues_reads_iff, comesTo_cons,
    not_comesTo_nil, not_unconverted_ok, and_false, exists_false, or_false]

theorem not_unconverted_fieldsOf (written : String) (s : List Char) : ¬Unconverted (fieldsOf written s) := by
  unfold fieldsOf
  split
  · split <;> simp
  · simp

theorem parse_unconverted_iff (written : String) : Unconverted (parse written) ↔ Stumbles (.text written) := by
  unfold parse Stumbles Layout
  rw [unconverted_bind]
  constructor
  · rintro (hwords | ⟨ws, hws, h⟩)
    · exact absurd hwords (not_unconverted_fieldsOf written _)
    · have hworded := fieldsOf_eq_ok_iff.mp hws
      split at h
      · rename_i min hour dom month dow
        exact ⟨Field.pick ['0'] min hour dom month dow, ⟨_, hworded, Or.inr rfl⟩, (ofFields_unconverted_iff _ _ _).mp h⟩
      · rename_i sec min hour dom month dow
        exact ⟨Field.pick sec min hour dom month dow, ⟨_, hworded, Or.inl rfl⟩, (ofFields_unconverted_iff _ _ _).mp h⟩
      · simp at h
  · rintro ⟨fields, ⟨ws, hws, hfields⟩, h⟩
    refine Or.inr ⟨ws, fieldsOf_eq_ok_iff.mpr hws, ?_⟩
    have hread := (ofFields_unconverted_iff written (trim written.toList) fields).mpr h
    rcases hfields with rfl | hfields
    · exact hread
    · obtain ⟨hsecond, rfl⟩ := List.cons.inj hfields
      rw [← hsecond] at hread
      exact hread

/-! ### Values -/

/-- A value is read as an expression, or refused with an error that carries it: a text as it is, and any other value in
    its notation. -/
def Answers (v : Value) : Prop :=
  (∃ s, parseValue v = .ok s) ∨ ∃ flaw field, parseValue v = .error (.problem (.expression v.plain flaw field))

theorem parseValue_unconverted_iff (v : Value) : Unconverted (parseValue v) ↔ Stumbles v := by
  by_cases hv : ∃ s, v = .text s
  · obtain ⟨s, rfl⟩ := hv
    exact parse_unconverted_iff s
  · have hv := not_exists.mp hv
    have hstumbles : Stumbles v ↔ v.isWritable = false := by
      cases v with
      | text s => exact absurd rfl (hv s)
      | _ => exact Iff.rfl
    rw [hstumbles, parseValue_of_not_text hv]
    split
    · rename_i hwritable
      exact iff_of_false (not_unconverted_problem _) (by simp [hwritable])
    · rename_i hwritable
      exact iff_of_true ⟨_, rfl⟩ (Bool.eq_false_iff.mpr hwritable)

/-- A value is read or refused unless it comes to a number with too many digits. -/
theorem answers_iff_not_stumbles (v : Value) : Answers v ↔ ¬Stumbles v := by
  rw [← parseValue_unconverted_iff]
  constructor
  · rintro (⟨s, hs⟩ | ⟨flaw, field, hrefused⟩) ⟨text, htext⟩
    · exact nomatch hs.symm.trans htext
    · exact nomatch hrefused.symm.trans htext
  · intro hconverted
    cases hread : parseValue v with
    | ok s => exact Or.inl ⟨s, hread⟩
    | error f =>
      cases parseValue_refuses v f hread with
      | flawed flaw field => exact Or.inr ⟨flaw, field, hread⟩
      | overlong text => exact absurd ⟨text, hread⟩ hconverted

/-! ### Overlong numerals in the first field -/

theorem isBlank_of_isAsciiDigit {c : Char} (hc : isAsciiDigit c = true) : isBlank c = false := by
  obtain ⟨hge, hle⟩ : '0' ≤ c ∧ c ≤ '9' := of_decide_eq_true hc
  have hzero : 48 ≤ c.toNat := hge
  have hnine : c.toNat ≤ 57 := hle
  simp only [isBlank, Bool.or_eq_false_iff, Bool.and_eq_false_iff, decide_eq_false_iff_not, beq_eq_false_iff_ne]
  omega

/-- In a field that is an overlong numeral, this is reached. -/
theorem Overlong.listStumbles {s : List Char} (hs : Overlong s) (f : Field) : f.ListStumbles s :=
  have hpieces : pieces ',' s = [s] := pieces_of_not_mem (hs.not_mem (by decide))
  ⟨[], s, [], hpieces, nofun, .bare (hs.not_mem (by decide)) (.value hs)⟩

/-- An overlong numeral for the minutes is reached, whatever it writes. -/
theorem Overlong.stumbles {s : List Char} (hs : Overlong s) :
    Stumbles (.text (String.ofList (s ++ " * * * *".toList))) := by
  obtain ⟨c, rest, rfl⟩ := List.exists_cons_of_ne_nil hs.ne_nil
  have hblank : ∀ d ∈ c :: rest, isBlank d = false := fun d hd => isBlank_of_isAsciiDigit (hs.1 d hd)
  have hdigit : isAsciiDigit c = true := hs.1 c List.mem_cons_self
  have htrim : trim ((c :: rest) ++ " * * * *".toList) = (c :: rest) ++ " * * * *".toList := by
    have hend : isBlank '*' = false := by decide
    simp [trim, trimWhile, hblank c List.mem_cons_self, hend]
  have hwords : words ((c :: rest) ++ " * * * *".toList) = [c :: rest, ['*'], ['*'], ['*'], ['*']] := by
    rw [words, wordsFrom_append hblank]
    rfl
  have hread : ∃ vs, fieldValues "" .second ['0'] = .ok vs := ⟨[0], rfl⟩
  show ∃ fields, Layout (trim (String.ofList _).toList) fields ∧ FieldStumbles fields
  rw [String.toList_ofList, htrim]
  refine ⟨Field.pick ['0'] (c :: rest) ['*'] ['*'] ['*'] ['*'], ⟨_, Or.inr ⟨?_, rfl⟩, Or.inr ?_⟩, ?_⟩
  · rintro hat
    cases hat
    cases hdigit
  · rw [hwords]
    rfl
  · exact ⟨[.second], .minute, [.hour, .dayOfMonth, .month, .dayOfWeek], rfl,
      List.forall_mem_singleton.mpr ((fieldValues_reads_iff _ _ _).mp hread), hs.listStumbles .minute⟩

/-- More nines than a numeral may have are not answered, and a minute out of range is. -/
theorem answers_iff_not_stumbles_nines :
    ¬Answers (.text (String.ofList (List.replicate 4301 '9' ++ " * * * *".toList))) ∧
      ¬Stumbles (.text "61 * * * *") := by
  have hnines : Overlong (List.replicate 4301 '9') := by
    refine ⟨fun c hc => ?_, ?_⟩
    · rw [List.eq_of_mem_replicate hc]
      rfl
    · rw [List.length_replicate]
      decide
  have hrefused : Answers (.text "61 * * * *") := Or.inr ⟨.outOfRange .minute 61, some .minute, rfl⟩
  exact ⟨(answers_iff_not_stumbles _).not.mpr (not_not_intro hnines.stumbles), (answers_iff_not_stumbles _).mp hrefused⟩

end Cron
end JobScheduling
