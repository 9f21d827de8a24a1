import Mathlib
import JobScheduling.Proofs.Cron.Grammar
import JobScheduling.Proofs.Cron.Parsed
import JobScheduling.Proofs.Text.Split

/-! Cron expressions are read as the grammar has them: nothing outside of it is accepted, everything inside of it is,
    and the schedule has the values that the parts denote. Numerals must be no longer than the longest that can be read. -/

namespace JobScheduling
namespace Cron

open Text

/-! ### Numerals -/

theorem ShortNumerals.within {s t : List Char} (hs : ShortNumerals s) (h : t <:+: s) : ShortNumerals t :=
  fun u hu => hs u (hu.trans h)

theorem ShortNumerals.of_length {s : List Char} (h : s.length ≤ maxNumeralDigits) : ShortNumerals s :=
  fun _ ht _ => ht.length_le.trans h

theorem ofAsciiDigits_eq (s : List Char) :
    ofAsciiDigits s = Nat.ofDigits 10 (s.reverse.map fun c => c.toNat - '0'.toNat) := by
  induction s using List.reverseRecOn with
  | nil => rfl
  | append_singleton s c ih =>
    rw [List.reverse_append, List.reverse_singleton, List.singleton_append, List.map_cons, Nat.ofDigits_cons, ← ih,
      ofAsciiDigits, List.foldl_append, ← ofAsciiDigits]
    exact Nat.add_comm _ _

section Field
variable {written : String} {f : Field} {s : List Char} (hs : ShortNumerals s)
include hs

theorem numeral_eq_ok_iff {n : Nat} : numeral written f s = .ok n ↔ Numeral s n := by
  unfold numeral Numeral
  rw [← ofAsciiDigits_eq]
  split
  · rename_i h
    refine iff_of_false (fun heq => by cases heq) (fun ⟨hne, hdigits, _⟩ => ?_)
    simp [hne, List.all_eq_true.mpr hdigits] at h
  · rename_i h
    rw [Bool.or_eq_true, not_or, List.isEmpty_iff, Bool.not_eq_true', Bool.not_eq_false, List.all_eq_true] at h
    rw [if_neg (not_lt.mpr (hs s List.infix_rfl h.2))]
    exact ⟨fun heq => ⟨h.1, h.2, (Except.ok.inj heq).symm⟩, fun heq => congrArg _ heq.2.2.symm⟩

end Field

/-! ### Values -/

theorem upperChar_of_isAsciiDigit {c : Char} (hc : isAsciiDigit c = true) : upperChar c = [c] := by
  obtain ⟨-, hle⟩ : '0' ≤ c ∧ c ≤ '9' := of_decide_eq_true hc
  have hnine : c.toNat ≤ 57 := hle
  unfold upperChar
  rw [if_pos (by omega), if_neg (by omega)]

namespace Field

variable {f : Field} {s : List Char} {n : Nat}

theorem names_nodup (f : Field) : f.names.Nodup := by cases f <;> decide

theorem named?_eq_some_iff : f.named? s = some n ↔ f.Names s n := by
  simp only [named?, Names, Option.map_eq_some_iff, List.findIdx?_eq_some_iff_getElem, beq_iff_eq]
  constructor
  · rintro ⟨i, ⟨hi, hname, -⟩, rfl⟩
    exact ⟨i, f.names[i], List.getElem?_eq_getElem hi, hname.symm, rfl⟩
  · rintro ⟨i, name, hname, hupper, rfl⟩
    obtain ⟨hi, rfl⟩ := List.getElem?_eq_some_iff.mp hname
    refine ⟨i, ⟨hi, hupper.symm, fun j hj hsame => ?_⟩, rfl⟩
    have heq : f.names[j] = f.names[i] := String.toList_inj.mp (hsame.trans hupper)
    exact absurd (f.names_nodup.getElem_inj_iff.mp heq) (Nat.ne_of_lt hj)

/-- No name holds a digit. -/
theorem not_digit_of_names (h : f.Names s n) {c : Char} (hc : c ∈ s) : isAsciiDigit c = false := by
  obtain ⟨i, name, hname, hupper, -⟩ := h
  by_contra hdigit
  have hcname := mem_upper (upperChar_of_isAsciiDigit (Bool.eq_true_of_not_eq_false hdigit)) hc
  rw [hupper] at hcname
  exact hdigit (f.names_letters name (List.mem_of_getElem? hname) c hcname).2

/-- No name is a numeral. -/
theorem named?_eq_none_of_numeral (h : Numeral s n) : f.named? s = none := by
  cases hnamed : f.named? s with
  | none => rfl
  | some m =>
    obtain ⟨c, hc⟩ := List.exists_mem_of_ne_nil s h.1
    exact absurd (h.2.1 c hc) (Bool.eq_false_iff.mp (not_digit_of_names (named?_eq_some_iff.mp hnamed) hc))

end Field

section Field
variable {written : String} {f : Field} {s : List Char} (hs : ShortNumerals s)
include hs

theorem fieldValue_eq_ok_iff {n : Nat} : fieldValue written f s = .ok n ↔ f.Writes s n := by
  have hrange : ∀ m, (if f.low ≤ m ∧ m ≤ f.high then Except.ok m else flawed written f (.outOfRange f m)) = .ok n ↔
      m = n ∧ f.low ≤ n ∧ n ≤ f.high := by
    intro m
    split
    · rename_i hm
      rw [Except.ok.injEq]
      exact ⟨fun h => ⟨h, h ▸ hm⟩, And.left⟩
    · rename_i hm
      exact iff_of_false (fun h => by cases h) fun h => hm (h.1 ▸ h.2)
  unfold fieldValue Field.Writes
  -- No text is both a name and a numeral, so one of the two ways to write a value is out.
  cases hnamed : f.named? s with
  | some m =>
    have hnumeral : ¬ Numeral s n := fun h => by
      rw [Field.named?_eq_none_of_numeral h] at hnamed
      cases hnamed
    rw [or_iff_left hnumeral, ← Field.named?_eq_some_iff, hnamed, Option.some.injEq]
    exact hrange m
  | none =>
    have hnames : ¬ f.Names s n := fun h => by
      rw [Field.named?_eq_some_iff.mpr h] at hnamed
      cases hnamed
    rw [or_iff_right hnames, Outcome.bind_eq_ok]
    simp only [hrange, numeral_eq_ok_iff hs]
    exact ⟨fun ⟨m, hm, heq, hn⟩ => ⟨heq ▸ hm, hn⟩, fun ⟨hm, hn⟩ => ⟨n, hm, rfl, hn⟩⟩

theorem stepOf_eq_ok_iff {n : Nat} : stepOf written f (some s) = .ok n ↔ Step s n := by
  unfold stepOf
  rw [Outcome.bind_eq_ok]
  constructor
  · rintro ⟨m, hm, h⟩
    split at h
    · cases h
    · rename_i hpos
      cases h
      exact ⟨(numeral_eq_ok_iff hs).mp hm, Nat.le_of_not_lt hpos⟩
  · rintro ⟨hn, hpos⟩
    exact ⟨n, (numeral_eq_ok_iff hs).mpr hn, if_neg (Nat.not_lt.mpr hpos)⟩

end Field

/-! ### Parts -/

/-- The progression of the text before a slash, or of all of a part without one. -/
def beforeSlash (written : String) (f : Field) (base : List Char) (stepped : Bool) (step : Nat) : Outcome Progression :=
  if base = ['?'] then
    if !f.allowsOpen || stepped then flawed written f .misplacedOpen else .ok ⟨f.low, f.high, 1⟩
  else if base = ['*'] then .ok ⟨f.low, f.high, step⟩
  else
    match cut '-' base with
    | (a, some b) => do
      let first ← fieldValue written f a
      let last ← fieldValue written f b
      if last < first then flawed written f (.descendingRange (String.ofList base)) else .ok ⟨first, last, step⟩
    | (_, none) => do
      let first ← fieldValue written f base
      .ok ⟨first, if stepped then f.high else first, step⟩

theorem part_eq (written : String) (f : Field) (s : List Char) : part written f s =
    (stepOf written f (cut '/' s).2 >>= beforeSlash written f (cut '/' s).1 (cut '/' s).2.isSome) := rfl

/-- What may stand before a slash, or without one. -/
inductive Field.BeforeSlash (f : Field) (stepped : Bool) (step : Nat) : List Char → Progression → Prop
  | unsaid (hopen : f.allowsOpen = true) (hstepped : stepped = false) :
    BeforeSlash f stepped step ['?'] ⟨f.low, f.high, 1⟩
  | all : BeforeSlash f stepped step ['*'] ⟨f.low, f.high, step⟩
  | range {s t : List Char} {a b : Nat} (hs : f.Writes s a) (ht : f.Writes t b) (hab : a ≤ b) :
    BeforeSlash f stepped step (s ++ '-' :: t) ⟨a, b, step⟩
  | value {s : List Char} {v : Nat} (hs : f.Writes s v) :
    BeforeSlash f stepped step s ⟨v, if stepped then f.high else v, step⟩

namespace Field

variable {f : Field} {s : List Char} {p : Progression} {stepped : Bool} {step : Nat}

theorem BeforeSlash.not_mem_slash (h : f.BeforeSlash stepped step s p) : '/' ∉ s := by
  cases h with
  | unsaid _ _ => decide
  | all => decide
  | range hs ht _ => simpa using ⟨not_mem_of_writes hs (by decide), not_mem_of_writes ht (by decide)⟩
  | value hs => exact not_mem_of_writes hs (by decide)

/-- A part is what may stand without a slash, or what may stand before one with a step behind it. -/
theorem part_iff : f.Part s p ↔ f.BeforeSlash false 1 s p ∨
    ∃ base t n, s = base ++ '/' :: t ∧ Step t n ∧ f.BeforeSlash true n base p := by
  constructor
  · intro h
    cases h with
    | all => exact Or.inl .all
    | unsaid hopen => exact Or.inl (.unsaid hopen rfl)
    | allBy ht => exact Or.inr ⟨['*'], _, _, rfl, ht, .all⟩
    | value hs => exact Or.inl (.value hs)
    | valueBy hs ht => exact Or.inr ⟨_, _, _, rfl, ht, .value hs⟩
    | range hs ht hab => exact Or.inl (.range hs ht hab)
    | rangeBy hs ht hab hu => exact Or.inr ⟨_, _, _, rfl, hu, .range hs ht hab⟩
  · rintro (h | ⟨base, t, n, rfl, ht, h⟩)
    · cases h with
      | unsaid hopen _ => exact .unsaid hopen
      | all => exact .all
      | range hs ht hab => exact .range hs ht hab
      | value hs => exact .value hs
    · cases h with
      | unsaid _ hstepped => cases hstepped
      | all => exact .allBy ht
      | range hs hs' hab => exact .rangeBy hs hs' hab ht
      | value hs => exact .valueBy hs ht

end Field

section Field
variable {written : String} {f : Field} {s : List Char} (hs : ShortNumerals s)
include hs

theorem beforeSlash_eq_ok_iff {stepped : Bool} {step : Nat} {p : Progression} :
    beforeSlash written f s stepped step = .ok p ↔ f.BeforeSlash stepped step s p := by
  unfold beforeSlash
  constructor
  · intro h
    split at h
    · rename_i hopen
      subst hopen
      split at h
      · cases h
      · rename_i hallowed
        cases h
        simp only [Bool.or_eq_true, not_or, Bool.not_eq_true, Bool.not_eq_false'] at hallowed
        exact .unsaid hallowed.1 hallowed.2
    · split at h
      · rename_i hall
        cases h
        exact hall ▸ .all
      · split at h
        · rename_i a b hcut
          obtain ⟨rfl, -⟩ := cut_eq_some hcut
          obtain ⟨first, hfirst, h⟩ := Outcome.bind_eq_ok.mp h
          obtain ⟨last, hlast, h⟩ := Outcome.bind_eq_ok.mp h
          split at h
          · cases h
          · rename_i hle
            cases h
            exact .range ((fieldValue_eq_ok_iff (hs.within (List.prefix_append _ _).isInfix)).mp hfirst)
              ((fieldValue_eq_ok_iff (hs.within (infix_behind a b '-'))).mp
                hlast) (Nat.le_of_not_lt hle)
        · obtain ⟨first, hfirst, h⟩ := Outcome.bind_eq_ok.mp h
          cases h
          exact .value ((fieldValue_eq_ok_iff hs).mp hfirst)
  · intro h
    cases h with
    | unsaid hopen hstepped => simp [hopen, hstepped]
    | all => rfl
    | @range s t a b hs' ht hab =>
      have hopen : s ++ '-' :: t ≠ ['?'] := ne_of_mem_of_not_mem' (a := '-') (by simp) (by decide)
      have hall : s ++ '-' :: t ≠ ['*'] := ne_of_mem_of_not_mem' (a := '-') (by simp) (by decide)
      have hs₁ := hs.within (List.prefix_append s ('-' :: t)).isInfix
      have ht₁ := hs.within (infix_behind s t '-')
      rw [if_neg hopen, if_neg hall, cut_append t (Field.not_mem_of_writes hs' (by decide))]
      dsimp only
      rw [(fieldValue_eq_ok_iff hs₁).mpr hs', Outcome.ok_bind, (fieldValue_eq_ok_iff ht₁).mpr ht, Outcome.ok_bind,
        if_neg (Nat.not_lt.mpr hab)]
    | @value s v hs' =>
      have hopen : s ≠ ['?'] := fun heq =>
        Field.not_mem_of_writes hs' (c := '?') (by decide) (heq ▸ List.mem_singleton_self _)
      have hall : s ≠ ['*'] := fun heq =>
        Field.not_mem_of_writes hs' (c := '*') (by decide) (heq ▸ List.mem_singleton_self _)
      rw [if_neg hopen, if_neg hall, cut_of_not_mem (Field.not_mem_of_writes hs' (by decide))]
      dsimp only
      rw [(fieldValue_eq_ok_iff hs).mpr hs', Outcome.ok_bind]

theorem part_eq_ok_iff {p : Progression} : part written f s = .ok p ↔ f.Part s p := by
  rw [part_eq, Field.part_iff, Outcome.bind_eq_ok]
  constructor
  · rintro ⟨step, hstep, h⟩
    cases hcut : cut '/' s with
    | mk base stepText =>
      rw [hcut] at hstep h
      cases stepText with
      | none =>
        obtain ⟨rfl, -⟩ := cut_eq_none hcut
        cases hstep
        exact Or.inl ((beforeSlash_eq_ok_iff hs).mp h)
      | some t =>
        obtain ⟨rfl, -⟩ := cut_eq_some hcut
        exact Or.inr ⟨base, t, step, rfl, (stepOf_eq_ok_iff (hs.within (infix_behind base t '/'))).mp hstep,
          (beforeSlash_eq_ok_iff (hs.within (List.prefix_append _ _).isInfix)).mp h⟩
  · rintro (h | ⟨base, t, n, rfl, ht, h⟩)
    · rw [cut_of_not_mem h.not_mem_slash]
      exact ⟨1, rfl, (beforeSlash_eq_ok_iff hs).mpr h⟩
    · rw [cut_append t h.not_mem_slash]
      exact ⟨n, (stepOf_eq_ok_iff (hs.within (infix_behind base t '/'))).mpr ht,
        (beforeSlash_eq_ok_iff (hs.within (List.prefix_append _ _).isInfix)).mpr h⟩

end Field

/-! ### Lists -/

theorem exists_of_mem_left {α β : Type} {r : α → β → Prop} {as : List α} {bs : List β} (h : List.Forall₂ r as bs)
    {a : α} (ha : a ∈ as) : ∃ b ∈ bs, r a b := by
  induction h with
  | nil => cases ha
  | cons hr _ ih =>
    rcases List.mem_cons.mp ha with rfl | ha
    · exact ⟨_, List.mem_cons_self, hr⟩
    · obtain ⟨b, hb, hab⟩ := ih ha
      exact ⟨b, List.mem_cons_of_mem _ hb, hab⟩

section Field
variable {written : String} {f : Field}

theorem parts_eq_ok_iff {texts : List (List Char)} (hs : ∀ t ∈ texts, ShortNumerals t) {ps : List Progression} :
    parts written f texts = .ok ps ↔ List.Forall₂ f.Part texts ps := by
  induction texts generalizing ps with
  | nil =>
    rw [List.forall₂_nil_left_iff]
    exact ⟨fun h => (Except.ok.inj h).symm, fun h => h ▸ rfl⟩
  | cons t texts ih =>
    have ht := hs t List.mem_cons_self
    have htexts := fun u hu => hs u (List.mem_cons_of_mem t hu)
    unfold parts
    constructor
    · intro h
      split at h
      · cases h
      · obtain ⟨p, hp, h⟩ := Outcome.bind_eq_ok.mp h
        obtain ⟨ps', hps, h⟩ := Outcome.bind_eq_ok.mp h
        cases h
        exact .cons ((part_eq_ok_iff ht).mp hp) ((ih htexts).mp hps)
    · intro h
      obtain ⟨p, ps', hp, hps, rfl⟩ := List.forall₂_cons_left_iff.mp h
      rw [if_neg (by simpa using hp.ne_nil), (part_eq_ok_iff ht).mpr hp, Outcome.ok_bind, (ih htexts).mpr hps]
      rfl

theorem fieldValues_eq_ok_iff {s : List Char} (hs : ShortNumerals s) {vs : List Nat} :
    fieldValues written f s = .ok vs ↔ ∃ ps, f.Lists s ps ∧ vs = f.union ps := by
  have hpieces : ∀ t ∈ pieces ',' s, ShortNumerals t := fun t ht =>
    hs.within (intercalate_pieces ',' s ▸ infix_intercalate ht)
  constructor
  · intro h
    obtain ⟨ps, hps, rfl⟩ := fieldValues_eq_ok h
    exact ⟨ps, ⟨pieces ',' s, pieces_ne_nil ',' s, (intercalate_pieces ',' s).symm, (parts_eq_ok_iff hpieces).mp hps⟩,
      rfl⟩
  · rintro ⟨ps, ⟨texts, hne, rfl, hps⟩, rfl⟩
    have htexts : pieces ',' ([','].intercalate texts) = texts := pieces_intercalate hne fun t ht => by
      obtain ⟨p, -, hp⟩ := exists_of_mem_left hps ht
      exact hp.not_mem_comma
    rw [htexts] at hpieces
    unfold fieldValues
    rw [htexts, (parts_eq_ok_iff hpieces).mpr hps]
    rfl

end Field

/-! ### Numerals of what is read -/

/-- A stretch of digits lies on one side of what is no digit. -/
theorem shortNumerals_append {s t : List Char} {c : Char} (hc : isAsciiDigit c = false) :
    ShortNumerals (s ++ c :: t) ↔ ShortNumerals s ∧ ShortNumerals t := by
  constructor
  · exact fun h => ⟨h.within (List.prefix_append s (c :: t)).isInfix, h.within (infix_behind s t c)⟩
  · rintro ⟨hs, ht⟩ u hu hdigits
    have hmem : c ∉ u := fun hmem => Bool.false_ne_true (hc.symm.trans (hdigits c hmem))
    have hstart : ∀ {v : List Char}, v <+: c :: t → c ∉ v → v = [] := by
      intro v hv hcv
      rcases List.prefix_cons_iff.mp hv with rfl | ⟨w, rfl, -⟩
      · rfl
      · exact absurd List.mem_cons_self hcv
    rcases List.infix_append_iff.mp hu with hu | hu | ⟨v, w, rfl, hv, hw⟩
    · exact hs u hu hdigits
    · rcases List.infix_cons_iff.mp hu with hu | hu
      · rw [hstart hu hmem]
        exact Nat.zero_le _
      · exact ht u hu hdigits
    · obtain rfl := hstart hw fun h => hmem (List.mem_append_right v h)
      rw [List.append_nil] at hdigits ⊢
      exact hs v hv.isInfix hdigits

theorem shortNumerals_intercalate : ∀ {texts : List (List Char)}, (∀ t ∈ texts, ShortNumerals t) →
    ShortNumerals ([','].intercalate texts)
  | [], _ => .of_length (Nat.zero_le _)
  | [t], h => by
    rw [List.intercalate_singleton]
    exact h t List.mem_cons_self
  | t :: u :: texts, h => by
    rw [List.intercalate_cons_cons, List.append_assoc, List.singleton_append]
    exact (shortNumerals_append (by decide)).mpr ⟨h t List.mem_cons_self,
      shortNumerals_intercalate fun v hv => h v (List.mem_cons_of_mem t hv)⟩

section Field
variable {written : String} {f : Field} {s : List Char}

theorem shortNumerals_of_numeral {n : Nat} (h : numeral written f s = .ok n) : ShortNumerals s := by
  unfold numeral at h
  split at h
  · cases h
  · split at h
    · cases h
    · exact .of_length (not_lt.mp ‹_›)

theorem shortNumerals_of_names {n : Nat} (h : f.Names s n) : ShortNumerals s := by
  intro t ht hdigits
  have hnil : t = [] := List.eq_nil_iff_forall_not_mem.mpr fun c hc =>
    Bool.false_ne_true ((Field.not_digit_of_names h (ht.subset hc)).symm.trans (hdigits c hc))
  rw [hnil]
  exact Nat.zero_le _

theorem shortNumerals_of_fieldValue {n : Nat} (h : fieldValue written f s = .ok n) : ShortNumerals s := by
  unfold fieldValue at h
  split at h
  · exact shortNumerals_of_names (Field.named?_eq_some_iff.mp ‹_›)
  · obtain ⟨m, hm, -⟩ := Outcome.bind_eq_ok.mp h
    exact shortNumerals_of_numeral hm

theorem shortNumerals_of_stepOf {n : Nat} (h : stepOf written f (some s) = .ok n) : ShortNumerals s := by
  obtain ⟨m, hm, -⟩ := Outcome.bind_eq_ok.mp h
  exact shortNumerals_of_numeral hm

theorem shortNumerals_of_beforeSlash {stepped : Bool} {step : Nat} {p : Progression}
    (h : beforeSlash written f s stepped step = .ok p) : ShortNumerals s := by
  unfold beforeSlash at h
  split at h
  · rename_i hopen
    exact hopen ▸ .of_length (by decide)
  · split at h
    · rename_i hall
      exact hall ▸ .of_length (by decide)
    · split at h
      · rename_i a b hcut
        obtain ⟨rfl, -⟩ := cut_eq_some hcut
        obtain ⟨first, hfirst, h⟩ := Outcome.bind_eq_ok.mp h
        obtain ⟨last, hlast, -⟩ := Outcome.bind_eq_ok.mp h
        exact (shortNumerals_append (by decide)).mpr
          ⟨shortNumerals_of_fieldValue hfirst, shortNumerals_of_fieldValue hlast⟩
      · obtain ⟨first, hfirst, -⟩ := Outcome.bind_eq_ok.mp h
        exact shortNumerals_of_fieldValue hfirst

theorem shortNumerals_of_part {p : Progression} (h : part written f s = .ok p) : ShortNumerals s := by
  obtain ⟨step, hstep, hbase⟩ := Outcome.bind_eq_ok.mp (part_eq written f s ▸ h)
  have hbefore := shortNumerals_of_beforeSlash hbase
  cases hcut : cut '/' s with
  | mk base stepText =>
    rw [hcut] at hstep hbefore
    cases stepText with
    | none =>
      obtain ⟨rfl, -⟩ := cut_eq_none hcut
      exact hbefore
    | some t =>
      obtain ⟨rfl, -⟩ := cut_eq_some hcut
      exact (shortNumerals_append (by decide)).mpr ⟨hbefore, shortNumerals_of_stepOf hstep⟩

theorem shortNumerals_of_parts {texts : List (List Char)} {ps : List Progression} (h : parts written f texts = .ok ps) :
    ∀ t ∈ texts, ShortNumerals t := by
  induction texts generalizing ps with
  | nil => nofun
  | cons s rest ih =>
    unfold parts at h
    split at h
    · cases h
    · obtain ⟨p, hp, h⟩ := Outcome.bind_eq_ok.mp h
      obtain ⟨ps', hps, -⟩ := Outcome.bind_eq_ok.mp h
      exact List.forall_mem_cons.mpr ⟨shortNumerals_of_part hp, ih hps⟩

/-- What is read of an expression has no numeral that is too long. -/
theorem shortNumerals_of_fieldValues {vs : List Nat} (h : fieldValues written f s = .ok vs) : ShortNumerals s := by
  obtain ⟨ps, hps, -⟩ := fieldValues_eq_ok h
  exact intercalate_pieces ',' s ▸ shortNumerals_intercalate (shortNumerals_of_parts hps)

end Field

/-! ### Values of lists -/

namespace Field

variable {f : Field} {s : List Char} {ps : List Progression}

/-- The values of a list are the numbers that its parts denote. -/
theorem mem_union_of_lists (h : f.Lists s ps) {n : Nat} : n ∈ f.union ps ↔ ∃ p ∈ ps, p.Has n := by
  obtain ⟨texts, -, -, hps⟩ := h
  simp only [mem_union, Progression.holds_iff]
  refine ⟨And.right, fun ⟨p, hp, hn⟩ => ⟨?_, p, hp, hn⟩⟩
  obtain ⟨t, -, ht⟩ := exists_of_mem_left hps.flip hp
  obtain ⟨k, rfl, hlast⟩ := hn
  exact ⟨ht.bounds.1.trans (Nat.le_add_right _ _), hlast.trans ht.bounds.2.2⟩

/-- Every list allows some value. -/
theorem union_ne_nil_of_lists (h : f.Lists s ps) : f.union ps ≠ [] := by
  obtain ⟨texts, hne, hs, hps⟩ := h
  obtain ⟨t, ht⟩ := List.exists_mem_of_ne_nil texts hne
  obtain ⟨p, hp, htp⟩ := exists_of_mem_left hps ht
  have hfirst := (mem_union_of_lists ⟨texts, hne, hs, hps⟩).mpr ⟨p, hp, Progression.has_first htp.bounds.2.1⟩
  exact List.ne_nil_of_mem hfirst

end Field

/-! ### Expressions -/

theorem aliases_distinct : ∀ a ∈ aliases, ∀ b ∈ aliases, a.1.toList = b.1.toList → a = b := by decide +kernel

/-- An alias in some letter case is an alias in small letters, and begins with an at sign. -/
theorem alias_iff {s : List Char} {a : String × String} (ha : a ∈ aliases) :
    lowerText s = a.1.toList ↔ s.head? = some '@' ∧ lower s = a.1.toList := by
  have hascii : ∀ a ∈ aliases, isAscii a.1.toList = true ∧ a.1.toList.head? = some '@' := by decide +kernel
  rw [lowerText_eq_iff (hascii a ha).1]
  refine ⟨fun h => ⟨head_of_lower ?_, h⟩, And.right⟩
  rw [h]
  exact (hascii a ha).2

theorem expansion?_eq_some_iff {s : List Char} {e : String} :
    expansion? s = some e ↔ ∃ a ∈ aliases, lower s = a.1.toList ∧ a.2 = e := by
  unfold expansion?
  rw [Option.map_eq_some_iff]
  constructor
  · rintro ⟨a, ha, rfl⟩
    have hkey := List.find?_some ha
    exact ⟨a, List.mem_of_find?_eq_some ha, (beq_iff_eq.mp hkey).symm, rfl⟩
  · rintro ⟨a, ha, hlower, rfl⟩
    cases hfind : aliases.find? fun a => a.1.toList == lower s with
    | none => exact absurd (beq_iff_eq.mpr hlower.symm) (List.find?_eq_none.mp hfind a ha)
    | some b =>
      have hkey := List.find?_some hfind
      have hb := aliases_distinct a ha b (List.mem_of_find?_eq_some hfind) (hlower.symm.trans (beq_iff_eq.mp hkey).symm)
      exact ⟨b, rfl, congrArg Prod.snd hb.symm⟩

theorem fieldsOf_eq_ok_iff {written : String} {s : List Char} {ws : List (List Char)} :
    fieldsOf written s = .ok ws ↔ Worded s ws := by
  have halias : (∃ a ∈ aliases, lowerText s = a.1.toList ∧ ws = words a.2.toList) ↔
      s.head? = some '@' ∧ ∃ e, expansion? s = some e ∧ ws = words e.toList := by
    constructor
    · rintro ⟨a, ha, hlower, rfl⟩
      obtain ⟨hhead, hlower⟩ := (alias_iff ha).mp hlower
      exact ⟨hhead, a.2, expansion?_eq_some_iff.mpr ⟨a, ha, hlower, rfl⟩, rfl⟩
    · rintro ⟨hhead, e, he, rfl⟩
      obtain ⟨a, ha, hlower, rfl⟩ := expansion?_eq_some_iff.mp he
      exact ⟨a, ha, (alias_iff ha).mpr ⟨hhead, hlower⟩, rfl⟩
  unfold fieldsOf Worded
  rw [halias]
  split
  · rename_i hhead
    rw [or_iff_left fun h => h.1 hhead, and_iff_right hhead]
    cases expansion? s with
    | none => exact iff_of_false (fun h => by cases h) (fun ⟨e, he, _⟩ => by cases he)
    | some e =>
      refine ⟨fun h => ⟨e, rfl, (Except.ok.inj h).symm⟩, fun ⟨e', he', hws⟩ => ?_⟩
      cases he'
      rw [hws]
  · rename_i hhead
    rw [or_iff_right fun h => hhead h.1, and_iff_right hhead]
    exact ⟨fun h => (Except.ok.inj h).symm, fun h => h ▸ rfl⟩

theorem ofFields_eq_ok_iff {written : String} {expression : List Char} {fields : Field → List Char} {s : Schedule} :
    ofFields written expression (fields .second) (fields .minute) (fields .hour) (fields .dayOfMonth) (fields .month)
        (fields .dayOfWeek) = .ok s ↔
      s.expression = String.ofList expression ∧ (∀ f, fieldValues written f (fields f) = .ok (s.allowed f)) ∧
        s.dayOfMonthRestricted = isRestricted (fields .dayOfMonth) ∧
        s.dayOfWeekRestricted = isRestricted (fields .dayOfWeek) := by
  constructor
  · intro h
    obtain ⟨seconds, h1, h⟩ := Outcome.bind_eq_ok.mp h
    obtain ⟨minutes, h2, h⟩ := Outcome.bind_eq_ok.mp h
    obtain ⟨hours, h3, h⟩ := Outcome.bind_eq_ok.mp h
    obtain ⟨daysOfMonth, h4, h⟩ := Outcome.bind_eq_ok.mp h
    obtain ⟨months, h5, h⟩ := Outcome.bind_eq_ok.mp h
    obtain ⟨daysOfWeek, h6, h⟩ := Outcome.bind_eq_ok.mp h
    cases h
    refine ⟨rfl, fun f => ?_, rfl, rfl⟩
    cases f <;> assumption
  · rintro ⟨hexpression, hvalues, hmonth, hweek⟩
    unfold ofFields
    simp only [hvalues, Outcome.ok_bind, ← hexpression, ← hmonth, ← hweek, Schedule.allowed]

/-- An expression is read if its words are six fields, or five, and each of these is. -/
theorem parse_eq_ok_iff {written : String} {s : Schedule} : parse written = .ok s ↔
    ∃ fields, Layout (trim written.toList) fields ∧ s.expression = String.ofList (trim written.toList) ∧
      (∀ f, fieldValues written f (fields f) = .ok (s.allowed f)) ∧
      s.dayOfMonthRestricted = isRestricted (fields .dayOfMonth) ∧
      s.dayOfWeekRestricted = isRestricted (fields .dayOfWeek) := by
  unfold parse Layout
  rw [Outcome.bind_eq_ok]
  constructor
  · rintro ⟨ws, hws, h⟩
    have hworded := fieldsOf_eq_ok_iff.mp hws
    split at h
    · rename_i min hour dom month dow
      exact ⟨Field.pick ['0'] min hour dom month dow, ⟨_, hworded, Or.inr rfl⟩, ofFields_eq_ok_iff.mp h⟩
    · rename_i sec min hour dom month dow
      exact ⟨Field.pick sec min hour dom month dow, ⟨_, hworded, Or.inl rfl⟩, ofFields_eq_ok_iff.mp h⟩
    · cases h
  · rintro ⟨fields, ⟨ws, hws, hfields⟩, h⟩
    refine ⟨ws, fieldsOf_eq_ok_iff.mpr hws, ?_⟩
    rcases hfields with rfl | hfields
    · exact ofFields_eq_ok_iff.mpr h
    · obtain ⟨hsecond, rfl⟩ := List.cons.inj hfields
      have hread := ofFields_eq_ok_iff.mpr h
      rw [← hsecond] at hread
      exact hread

theorem shortNumerals_of_worded {s : List Char} (hs : ShortNumerals s) {ws : List (List Char)} (h : Worded s ws) :
    ∀ w ∈ ws, ShortNumerals w := by
  have haliases : ∀ a ∈ aliases, a.2.toList.length ≤ maxNumeralDigits := by decide +kernel
  intro w hw
  rcases h with ⟨a, ha, -, rfl⟩ | ⟨-, rfl⟩
  · exact (ShortNumerals.of_length (haliases a ha)).within (infix_of_mem_words hw)
  · exact hs.within (infix_of_mem_words hw)

theorem shortNumerals_of_layout {s : List Char} (hs : ShortNumerals s) {fields : Field → List Char}
    (h : Layout s fields) (f : Field) : ShortNumerals (fields f) := by
  obtain ⟨ws, hws, hfields⟩ := h
  have hmem : fields f ∈ Field.inOrder.map fields := List.mem_map_of_mem (by cases f <;> decide)
  rcases hfields with rfl | hfields
  · exact shortNumerals_of_worded hs hws _ hmem
  · rw [← hfields] at hmem
    rcases List.mem_cons.mp hmem with hzero | hmem
    · rw [hzero]
      exact .of_length (by decide)
    · exact shortNumerals_of_worded hs hws _ hmem

theorem isRestricted_iff {s : List Char} : isRestricted s = true ↔ s.head? ≠ some '*' ∧ s.head? ≠ some '?' := by
  simp [isRestricted]

/-- An expression is read exactly if it is one of the grammar. The schedule then carries the trimmed text, allows in
    each field the numbers that its parts denote, some at least and none beyond the range of the field, and has a day
    field restricted exactly if that begins with neither a star nor a question mark. -/
theorem parse_grammar {written : String} (hshort : ShortNumerals written.toList) :
    ((∃ s, parse written = .ok s) ↔
      ∃ fields, Layout (trim written.toList) fields ∧ ∀ f : Field, ∃ ps, f.Lists (fields f) ps) ∧
    ∀ s, parse written = .ok s → s.expression = String.ofList (trim written.toList) ∧
      ∃ fields, Layout (trim written.toList) fields ∧
        (∀ f : Field, (∃ ps, f.Lists (fields f) ps ∧ ∀ n, n ∈ s.allowed f ↔ ∃ p ∈ ps, p.Has n) ∧
          s.allowed f ≠ [] ∧ ∀ n ∈ s.allowed f, f.low ≤ n ∧ n ≤ f.high) ∧
        (s.dayOfMonthRestricted = true ↔
          (fields .dayOfMonth).head? ≠ some '*' ∧ (fields .dayOfMonth).head? ≠ some '?') ∧
        (s.dayOfWeekRestricted = true ↔
          (fields .dayOfWeek).head? ≠ some '*' ∧ (fields .dayOfWeek).head? ≠ some '?') := by
  have hfields : ∀ {fields}, Layout (trim written.toList) fields → ∀ f, ShortNumerals (fields f) :=
    shortNumerals_of_layout (hshort.within (infix_trim _))
  constructor
  · constructor
    · rintro ⟨s, h⟩
      obtain ⟨fields, hlayout, -, hvalues, -⟩ := parse_eq_ok_iff.mp h
      refine ⟨fields, hlayout, fun f => ?_⟩
      obtain ⟨ps, hps, -⟩ := (fieldValues_eq_ok_iff (hfields hlayout f)).mp (hvalues f)
      exact ⟨ps, hps⟩
    · rintro ⟨fields, hlayout, hlists⟩
      choose ps hps using hlists
      have hvalues : ∀ f, fieldValues written f (fields f) = .ok (f.union (ps f)) := fun f =>
        (fieldValues_eq_ok_iff (hfields hlayout f)).mpr ⟨ps f, hps f, rfl⟩
      refine ⟨⟨String.ofList (trim written.toList), Field.second.union (ps .second), Field.minute.union (ps .minute),
        Field.hour.union (ps .hour), Field.dayOfMonth.union (ps .dayOfMonth), Field.month.union (ps .month),
        Field.dayOfWeek.union (ps .dayOfWeek), isRestricted (fields .dayOfMonth), isRestricted (fields .dayOfWeek)⟩,
        parse_eq_ok_iff.mpr ⟨fields, hlayout, rfl, fun f => ?_, rfl, rfl⟩⟩
      cases f <;> exact hvalues _
  · intro s h
    obtain ⟨fields, hlayout, hexpression, hvalues, hmonth, hweek⟩ := parse_eq_ok_iff.mp h
    refine ⟨hexpression, fields, hlayout, fun f => ?_, hmonth ▸ isRestricted_iff, hweek ▸ isRestricted_iff⟩
    obtain ⟨ps, hps, hunion⟩ := (fieldValues_eq_ok_iff (hfields hlayout f)).mp (hvalues f)
    rw [hunion]
    exact ⟨⟨ps, hps, fun n => Field.mem_union_of_lists hps⟩, Field.union_ne_nil_of_lists hps, (f.union_ordered ps).2⟩

/-- Names in any letter case, lists, ranges, steps and an open day field are read; a range of three values is not. -/
theorem parse_grammar_officeHours :
    (∃ fields, Layout (trim "\t*/20 9-17/4,0 ? jan-MAR mOn,5-6 ".toList) fields ∧
      ∀ f : Field, ∃ ps, f.Lists (fields f) ps) ∧
    ¬ ∃ fields, Layout (trim "1-2-3 * * * *".toList) fields ∧ ∀ f : Field, ∃ ps, f.Lists (fields f) ps := by
  constructor
  · refine (parse_grammar (.of_length (by decide))).1.mp ⟨⟨"*/20 9-17/4,0 ? jan-MAR mOn,5-6", [0], [0, 20, 40],
      [0, 9, 13, 17], List.range' 1 31, [1, 2, 3], [1, 5, 6], false, true⟩, ?_⟩
    rfl
  · rw [← (parse_grammar (.of_length (by decide))).1]
    rintro ⟨s, h⟩
    have herror : parse "1-2-3 * * * *" =
      .error (.problem (.expression "1-2-3 * * * *" (.unrecognized "2-3") (some .minute))) := by rfl
    rw [herror] at h
    cases h

end Cron
end JobScheduling
