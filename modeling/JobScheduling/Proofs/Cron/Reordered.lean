import Mathlib
import JobScheduling.Proofs.Calendar.Day
import JobScheduling.Proofs.Cron.Reading

/-! Expressions whose lists are put in another order. A list allows the same values whatever the order of its elements,
    so an expression that is read is read with any other order too, and the same values are allowed in each field. The
    days it matches may be other ones: whether a day field is restricted is read off the first character of the field,
    so which element of a list comes first decides whether one day field is enough or both have to match. -/

namespace JobScheduling
namespace Cron

open Text Calendar

/-! ### Lists in another order -/

/-- A field with the elements of its list in another order. -/
def Shuffled (s t : List Char) : Prop := (pieces ',' s).Perm (pieces ',' t)

/-- An expression with the elements of its fields in another order, the fields themselves staying in place. -/
def Reordered (written reordered : String) : Prop :=
  List.Forall₂ Shuffled (words (trim written.toList)) (words (trim reordered.toList))

theorem Field.union_perm (f : Field) {ps qs : List Progression} (h : ps.Perm qs) : f.union ps = f.union qs := by
  unfold union
  simp only [h.any_eq]

/-- A field allows the same values whatever the order of its list. -/
theorem fieldValues_shuffled {written : String} (reordered : String) {f : Field} {s t : List Char} {vs : List Nat}
    (h : fieldValues written f s = .ok vs) (hst : Shuffled s t) : fieldValues reordered f t = .ok vs := by
  obtain ⟨ps, hps, rfl⟩ := fieldValues_eq_ok h
  have hshort := shortNumerals_of_parts hps
  obtain ⟨qs, hqs, hperm⟩ := List.perm_comp_forall₂ hst.symm ((parts_eq_ok_iff hshort).mp hps)
  have hread : parts reordered f (pieces ',' t) = .ok qs :=
    (parts_eq_ok_iff fun u hu => hshort u (hst.mem_iff.mpr hu)).mpr hqs
  unfold fieldValues
  rw [hread, Outcome.ok_bind, f.union_perm hperm]

/-! ### Aliases -/

/-- A part does not begin with an at sign, as the aliases do. -/
theorem Field.Part.head?_ne_at {f : Field} {s : List Char} {p : Progression} (h : f.Part s p) : s.head? ≠ some '@' := by
  have hvalue : ∀ {t : List Char} {n : Nat}, f.Writes t n → t.head? ≠ some '@' := by
    intro t n ht hhead
    have hmem : '@' ∈ t := List.mem_of_mem_head? hhead
    rcases ht.1 with ⟨i, name, hname, hupper, -⟩ | ⟨-, hdigits, -⟩
    · have hnames : ∀ name ∈ f.names, '@' ∉ name.toList := by cases f <;> decide
      exact hnames name (List.mem_of_getElem? hname) (hupper ▸ mem_upper (by decide) hmem)
    · exact absurd (hdigits _ hmem) (by decide)
  cases h with
  | all => decide
  | unsaid _ => decide
  | allBy _ => simp
  | value hs => exact hvalue hs
  | valueBy hs _ | range hs _ _ =>
    rw [List.head?_append_of_ne_nil _ (ne_nil_of_writes hs)]
    exact hvalue hs
  | rangeBy hs _ _ _ =>
    rw [List.append_assoc, List.head?_append_of_ne_nil _ (ne_nil_of_writes hs)]
    exact hvalue hs

theorem head?_of_mem_head?_pieces {c : Char} {s : List Char} (hs : s.head? = some c) (hc : c ≠ ',') :
    ∃ t ∈ pieces ',' s, t.head? = some c := by
  cases s with
  | nil => cases hs
  | cons d s =>
    cases hs
    unfold pieces
    rw [if_neg hc]
    split
    · exact ⟨_, List.mem_singleton_self _, rfl⟩
    · exact ⟨_, List.mem_cons_self, rfl⟩

theorem Shuffled.eq_of_not_mem {s t : List Char} (h : Shuffled s t) (hs : ',' ∉ s) : t = s := by
  unfold Shuffled at h
  rw [pieces_of_not_mem hs, List.singleton_perm] at h
  rw [← intercalate_pieces ',' t, ← h, List.intercalate_singleton]

/-- An alias is a word without a list. -/
theorem plain_of_alias {s : List Char} {a : String × String} (ha : a ∈ aliases) (hlower : lower s = a.1.toList) :
    s ≠ [] ∧ (∀ c ∈ s, isBlank c = false) ∧ ',' ∉ s := by
  have haliases : ∀ a ∈ aliases, a.1.toList ≠ [] ∧ (a.1.toList.all fun c => !isBlank c && c != ',') = true := by
    decide +kernel
  obtain ⟨hne, hall⟩ := haliases a ha
  have hplain : ∀ c ∈ a.1.toList, isBlank c = false ∧ c ≠ ',' := by simpa using hall
  refine ⟨?_, fun c hc => ?_, fun hmem => (hplain ',' (hlower ▸ mem_lower (by decide) hmem)).2 rfl⟩
  · rintro rfl
    exact hne hlower.symm
  · -- A blank character is not changed by taking lower case, so it would be one of the alias.
    by_contra hblank
    have hblank := Bool.eq_true_of_not_eq_false hblank
    have hmem := hlower ▸ mem_lower (lowerChar_of_isBlank hblank) hc
    rw [(hplain c hmem).1] at hblank
    cases hblank

/-- In an alias there is nothing to put in another order. -/
theorem trim_eq_of_alias {s t : List Char} {a : String × String} (ha : a ∈ aliases) (hlower : lower (trim s) = a.1.toList)
    (h : List.Forall₂ Shuffled (words (trim s)) (words (trim t))) : trim t = trim s := by
  obtain ⟨hne, hblank, hcomma⟩ := plain_of_alias ha hlower
  rw [words_of_not_blank hne hblank] at h
  obtain ⟨w, _, hw, hnil, hwords⟩ := List.forall₂_cons_left_iff.mp h
  rw [List.forall₂_nil_left_iff.mp hnil] at hwords
  rw [trim_eq_of_words hwords, hw.eq_of_not_mem hcomma]

/-! ### Fields in another order -/

theorem exists_fields_of_forall₂ {fields : Field → List Char} {ws : List (List Char)}
    (h : List.Forall₂ Shuffled (Field.inOrder.map fields) ws) :
    ∃ fields', ws = Field.inOrder.map fields' ∧ ∀ f, Shuffled (fields f) (fields' f) := by
  have h : List.Forall₂ Shuffled [fields .second, fields .minute, fields .hour, fields .dayOfMonth, fields .month,
    fields .dayOfWeek] ws := h
  obtain _ | ⟨h1, _ | ⟨h2, _ | ⟨h3, _ | ⟨h4, _ | ⟨h5, _ | ⟨h6, _ | _⟩⟩⟩⟩⟩⟩ := h
  refine ⟨Field.pick _ _ _ _ _ _, rfl, fun f => ?_⟩
  cases f <;> assumption

/-- A word that begins with an at sign is no field. -/
theorem head?_ne_at_of_shuffled {written : String} {f : Field} {s t : List Char} {vs : List Nat}
    (h : fieldValues written f s = .ok vs) (hst : Shuffled s t) : t.head? ≠ some '@' := by
  intro hhead
  obtain ⟨ps, hps, -⟩ := fieldValues_eq_ok h
  obtain ⟨u, hu, huhead⟩ := head?_of_mem_head?_pieces hhead (by decide)
  obtain ⟨p, -, hp⟩ := exists_of_mem_left ((parts_eq_ok_iff (shortNumerals_of_parts hps)).mp hps) (hst.mem_iff.mpr hu)
  exact hp.head?_ne_at huhead

/-- The fields of an expression that is read are laid out as before when their elements change places. -/
theorem Layout.reordered {written reordered : String} {fields : Field → List Char}
    (h : Layout (trim written.toList) fields) (hread : ∀ f, ∃ vs, fieldValues written f (fields f) = .ok vs)
    (hr : Reordered written reordered) :
    ∃ fields', Layout (trim reordered.toList) fields' ∧ ∀ f, Shuffled (fields f) (fields' f) := by
  obtain ⟨ws, hworded, hfields⟩ := h
  rcases hworded with ⟨a, ha, hlower, rfl⟩ | ⟨-, rfl⟩
  · rw [trim_eq_of_alias ha ((alias_iff ha).mp hlower).2 hr]
    exact ⟨fields, ⟨_, Or.inl ⟨a, ha, hlower, rfl⟩, hfields⟩, fun f => List.Perm.refl _⟩
  · have hhead : (trim reordered.toList).head? ≠ some '@' := by
      intro hhead
      obtain ⟨t, ht⟩ := List.head?_eq_some_iff.mp hhead
      have hwords := words_cons (c := '@') (by decide) t
      rw [← ht] at hwords
      obtain ⟨w, hw, hshuffled⟩ := exists_of_mem_left hr.flip (hwords ▸ List.mem_cons_self)
      have hmem : w ∈ Field.inOrder.map fields := by
        rcases hfields with hfields | hfields
        · exact hfields ▸ hw
        · exact hfields ▸ List.mem_cons_of_mem _ hw
      obtain ⟨f, -, rfl⟩ := List.mem_map.mp hmem
      obtain ⟨vs, hvs⟩ := hread f
      exact head?_ne_at_of_shuffled hvs hshuffled rfl
    rcases hfields with hfields | hfields
    · unfold Reordered at hr
      rw [hfields] at hr
      obtain ⟨fields', hws, hshuffled⟩ := exists_fields_of_forall₂ hr
      exact ⟨fields', ⟨_, Or.inr ⟨hhead, rfl⟩, Or.inl hws⟩, hshuffled⟩
    · have hr' : List.Forall₂ Shuffled (['0'] :: words (trim written.toList)) (['0'] :: words (trim reordered.toList)) :=
        .cons (.refl _) hr
      rw [hfields] at hr'
      obtain ⟨fields', hws, hshuffled⟩ := exists_fields_of_forall₂ hr'
      exact ⟨fields', ⟨_, Or.inr ⟨hhead, rfl⟩, Or.inr hws⟩, hshuffled⟩

/-! ### Days -/

namespace Schedule

/-- Both day fields are restricted, so that either of them is enough. -/
def eitherDay (s : Schedule) : Bool := s.dayOfMonthRestricted && s.dayOfWeekRestricted

/-- Every day of the month and every day of the week is allowed. -/
def AllDays (s : Schedule) : Prop :=
  (∀ n ∈ Field.dayOfMonth.range, n ∈ s.daysOfMonth) ∧ ∀ n ∈ Field.dayOfWeek.range, n ∈ s.daysOfWeek

end Schedule

/-- Every day of a month is every day of the week in the January of some year. -/
theorem exists_date {m w : Nat} (hm : m ∈ Field.dayOfMonth.range) (hw : w ∈ Field.dayOfWeek.range) :
    ∃ d : Date, d.valid = true ∧ d.day = m ∧ dayOfWeek d.number = w := by
  rw [Field.mem_range] at hm hw
  simp only [Field.low, Field.high] at hm hw
  have hyears : ∀ r < 7, ∃ y ∈ List.range' 1 10, daysBeforeYear y % 7 = r := by decide
  obtain ⟨y, hy, hr⟩ := hyears ((w + 7 * m - m) % 7) (Nat.mod_lt _ (by decide))
  rw [List.mem_range'_1] at hy
  refine ⟨⟨y, 1, m⟩, ?_, rfl, ?_⟩
  · have hlast : daysInMonth y 1 = 31 := rfl
    simp only [Date.valid, Bool.and_eq_true, decide_eq_true_eq]
    simp only [minYear, maxYear, hlast]
    omega
  · have hfirst : daysBeforeMonth y 1 = 0 := rfl
    simp only [dayOfWeek, Date.number, hfirst]
    omega

namespace Schedule

variable {s t : Schedule}

theorem matchesDay_eq (s : Schedule) (d : Date) : s.matchesDay d =
    if s.eitherDay then s.daysOfMonth.contains d.day || s.daysOfWeek.contains (dayOfWeek d.number)
    else s.daysOfMonth.contains d.day && s.daysOfWeek.contains (dayOfWeek d.number) := rfl

/-- A schedule that allows all days matches them, whether or not either field is enough. -/
theorem AllDays.matchesDay (hs : s.AllDays) {d : Date} (hd : d.valid = true) : s.matchesDay d = true := by
  have hlast := daysInMonth_le d.year d.month
  have hmonth : s.daysOfMonth.contains d.day = true := by
    rw [List.contains_iff_mem]
    refine hs.1 _ (Field.mem_range.mpr ?_)
    simp only [Date.valid, Bool.and_eq_true, decide_eq_true_eq] at hd
    simp only [Field.low, Field.high]
    omega
  have hweek : s.daysOfWeek.contains (dayOfWeek d.number) = true := by
    rw [List.contains_iff_mem]
    refine hs.2 _ (Field.mem_range.mpr ?_)
    simp only [Field.low, Field.high, dayOfWeek]
    omega
  rw [matchesDay_eq, hmonth, hweek, Bool.or_self, Bool.and_self, ite_self]

/-- If all days of a month are allowed that are a given day of the week, and the other way round, then all days are. -/
theorem allDays_of_mem_iff (hs : s.Ordered) (hne : s.daysOfMonth ≠ [])
    (h : ∀ m ∈ Field.dayOfMonth.range, ∀ w ∈ Field.dayOfWeek.range, (m ∈ s.daysOfMonth ↔ w ∈ s.daysOfWeek)) :
    s.AllDays := by
  obtain ⟨m, hm⟩ := List.exists_mem_of_ne_nil _ hne
  have hrange : m ∈ Field.dayOfMonth.range := Field.mem_range.mpr ((hs .dayOfMonth).2 m hm)
  have hweek : ∀ w ∈ Field.dayOfWeek.range, w ∈ s.daysOfWeek := fun w hw => (h m hrange w hw).mp hm
  exact ⟨fun n hn => (h n hn 0 (by decide)).mpr (hweek 0 (by decide)), hweek⟩

section Days
variable (hmonth : t.daysOfMonth = s.daysOfMonth) (hweek : t.daysOfWeek = s.daysOfWeek)
include hmonth hweek

/-- Where either field is enough for one schedule and not for the other, they match the same days only if no day of any
    month is allowed by one field alone. -/
theorem mem_iff_of_same (heither : t.eitherDay ≠ s.eitherDay)
    (hsame : ∀ d : Date, d.valid = true → t.matchesDay d = s.matchesDay d) :
    ∀ m ∈ Field.dayOfMonth.range, ∀ w ∈ Field.dayOfWeek.range, (m ∈ s.daysOfMonth ↔ w ∈ s.daysOfWeek) := by
  intro m hm w hw
  obtain ⟨d, hd, rfl, rfl⟩ := exists_date hm hw
  have heq := hsame d hd
  have hand : ∀ a b : Bool, (a || b) = (a && b) → a = b := by decide
  rw [matchesDay_eq, matchesDay_eq, hmonth, hweek] at heq
  rw [← List.contains_iff_mem, ← List.contains_iff_mem, Bool.coe_iff_coe]
  cases ht : t.eitherDay <;> cases hs : s.eitherDay <;> rw [ht, hs] at heither heq
  · exact absurd rfl heither
  · exact hand _ _ heq.symm
  · exact hand _ _ heq
  · exact absurd rfl heither

/-- Schedules that allow the same days match the same days if they agree on whether either field is enough, or if they
    allow all days. -/
theorem matchesDay_congr_iff (hs : s.Ordered) (hne : s.daysOfMonth ≠ []) :
    (∀ d : Date, d.valid = true → t.matchesDay d = s.matchesDay d) ↔ t.eitherDay = s.eitherDay ∨ s.AllDays := by
  constructor
  · intro hsame
    by_cases heither : t.eitherDay = s.eitherDay
    · exact Or.inl heither
    · exact Or.inr (allDays_of_mem_iff hs hne (mem_iff_of_same hmonth hweek heither hsame))
  · rintro (heither | hall) d hd
    · rw [matchesDay_eq, matchesDay_eq, hmonth, hweek, heither]
    · have ht : t.AllDays := by rwa [AllDays, hmonth, hweek]
      rw [ht.matchesDay hd, hall.matchesDay hd]

end Days

end Schedule

/-! ### Expressions -/

/-- An expression that is read is read with any other order of its lists, and allows the same values in each field. It
    matches the same days exactly if both forms agree on whether one day field is enough, or if all days are allowed. -/
theorem parse_reordered {written reordered : String} {s : Schedule} (hs : parse written = .ok s)
    (hr : Reordered written reordered) :
    ∃ t, parse reordered = .ok t ∧ (∀ f, t.allowed f = s.allowed f) ∧
      ((∀ d : Date, d.valid = true → t.matchesDay d = s.matchesDay d) ↔ t.eitherDay = s.eitherDay ∨ s.AllDays) := by
  obtain ⟨fields, hlayout, -, hvalues, -⟩ := parse_eq_ok_iff.mp hs
  obtain ⟨fields', hlayout', hshuffled⟩ := hlayout.reordered (fun f => ⟨_, hvalues f⟩) hr
  let t : Schedule := { s with
    expression := String.ofList (trim reordered.toList)
    dayOfMonthRestricted := isRestricted (fields' .dayOfMonth)
    dayOfWeekRestricted := isRestricted (fields' .dayOfWeek) }
  have hallowed : ∀ f, t.allowed f = s.allowed f := fun f => by cases f <;> rfl
  have hread : parse reordered = .ok t := by
    refine parse_eq_ok_iff.mpr ⟨fields', hlayout', rfl, fun f => ?_, rfl, rfl⟩
    rw [hallowed f]
    exact fieldValues_shuffled reordered (hvalues f) (hshuffled f)
  have hne : s.daysOfMonth ≠ [] := by
    obtain ⟨ps, hps, hunion⟩ := (fieldValues_eq_ok_iff (shortNumerals_of_fieldValues (hvalues .dayOfMonth))).mp
      (hvalues .dayOfMonth)
    rw [show s.daysOfMonth = Field.dayOfMonth.union ps from hunion]
    exact Field.union_ne_nil_of_lists hps
  exact ⟨t, hread, hallowed, Schedule.matchesDay_congr_iff rfl rfl (parse_ordered hs) hne⟩

/-- With its star in front, a list of all days of the month leaves the other day field to decide. -/
theorem parse_reordered_starFirst : ∃ s t, parse "0 0 1,* * MON" = .ok s ∧ parse "0 0 *,1 * MON" = .ok t ∧
    (∀ f, t.allowed f = s.allowed f) ∧ ¬∀ d : Date, d.valid = true → t.matchesDay d = s.matchesDay d := by
  have hs : parse "0 0 1,* * MON" = .ok ⟨"0 0 1,* * MON", [0], [0], [0], List.range' 1 31, List.range' 1 12, [1],
    true, true⟩ := by rfl
  have ht : parse "0 0 *,1 * MON" = .ok ⟨"0 0 *,1 * MON", [0], [0], [0], List.range' 1 31, List.range' 1 12, [1],
    false, true⟩ := by rfl
  have hr : Reordered "0 0 1,* * MON" "0 0 *,1 * MON" :=
    .cons (.refl _) (.cons (.refl _) (.cons (.swap _ _ _) (.cons (.refl _) (.cons (.refl _) .nil))))
  obtain ⟨t, ht', hallowed, hsame⟩ := parse_reordered hs hr
  cases ht.symm.trans ht'
  refine ⟨_, _, hs, ht, hallowed, fun hdays => ?_⟩
  rcases hsame.mp hdays with heither | hall
  · cases heither
  · exact absurd (hall.2 0 (by decide)) (by decide)

end Cron
end JobScheduling
