import JobScheduling.Proofs.Job.Restored
import JobScheduling.Proofs.Recurring.Usage
import JobScheduling.Proofs.Text.Split

/-! Signatures as identifiers. A signature tells the kinds of the arguments and, but for one case, the target: a method
    of a service goes by the path of the service with its own name behind it, and a function may have just that path.
    Of two such jobs that are registered without an identifier the later takes the place of the earlier one; between
    any others neither touches what is registered of the other. -/

namespace JobScheduling

/-! ### Names of targets -/

namespace JobTarget

/-- One target is a function and the other a method of a service, and the path of the function is that of the service
    with the method behind it. -/
inductive Namesakes : JobTarget → JobTarget → Prop
  | functionFirst (path method : String) : Namesakes (static (path ++ "." ++ method)) (service path method)
  | methodFirst (path method : String) : Namesakes (service path method) (static (path ++ "." ++ method))

variable {t u : JobTarget}

theorem point_not_mem_method {path method : String} (ht : (service path method).Accepted) : '.' ∉ method.toList := by
  intro hpoint
  obtain ⟨-, hmethod⟩ := Bool.and_eq_true_iff.mp (accepted_iff.mp ht)
  have hrest := Text.isIdentifierRest_of_mem hmethod hpoint
  exact absurd hrest (by decide +kernel)

/-- The name of a method falls apart into its service and itself in one way only. -/
theorem describe_service_inj {path path' method method' : String} (ht : (service path method).Accepted)
    (hu : (service path' method').Accepted) (h : path ++ "." ++ method = path' ++ "." ++ method') :
    path = path' ∧ method = method' := by
  have hchars : path.toList ++ '.' :: method.toList = path'.toList ++ '.' :: method'.toList := by
    simpa using congrArg String.toList h
  obtain ⟨hpath, hmethod⟩ := Text.append_cons_inj (point_not_mem_method ht) (point_not_mem_method hu) hchars
  exact ⟨String.toList_inj.mp hpath, String.toList_inj.mp hmethod⟩

/-- Two accepted targets go by one name exactly if they are one, or namesakes. -/
theorem describe_eq_iff (ht : t.Accepted) (hu : u.Accepted) : t.describe = u.describe ↔ t = u ∨ Namesakes t u := by
  constructor
  · intro h
    cases t with
    | static path =>
      cases u with
      | static path' => exact Or.inl (congrArg static h)
      | service path' method =>
        obtain rfl : path = path' ++ "." ++ method := h
        exact Or.inr (.functionFirst path' method)
    | service path method =>
      cases u with
      | static path' =>
        obtain rfl : path ++ "." ++ method = path' := h
        exact Or.inr (.methodFirst path method)
      | service path' method' =>
        obtain ⟨rfl, rfl⟩ := describe_service_inj ht hu h
        exact Or.inl rfl
  · rintro (rfl | h)
    · rfl
    · cases h <;> rfl

end JobTarget

/-! ### Signatures -/

/-- The name of a kind is a word without any of the characters that stand around the names of kinds. -/
theorem Value.typeName_plain (v : Value) :
    v.typeName.toList ≠ [] ∧ ',' ∉ v.typeName.toList ∧ '(' ∉ v.typeName.toList := by
  cases v <;> (simp only [typeName]; decide)

namespace JobDefinition

/-- The kinds of the arguments, in their order. -/
def kinds (d : JobDefinition) : List String := d.args.map Value.typeName

/-- The names of the kinds as they stand in a signature. -/
def kindsText (d : JobDefinition) : List Char := [','].intercalate (d.kinds.map String.toList)

theorem signature_toList (d : JobDefinition) :
    d.signature.toList = d.target.describe.toList ++ '(' :: d.kindsText ++ [')'] := by
  simp [signature, kindsText, kinds]

theorem mem_kinds {d : JobDefinition} {kind : List Char} (h : kind ∈ d.kinds.map String.toList) :
    kind ≠ [] ∧ ',' ∉ kind ∧ '(' ∉ kind := by
  simp only [kinds, List.map_map, List.mem_map, Function.comp_apply] at h
  obtain ⟨v, -, rfl⟩ := h
  exact v.typeName_plain

theorem bracket_not_mem_kindsText (d : JobDefinition) : '(' ∉ d.kindsText := by
  intro h
  rcases Text.mem_of_mem_intercalate h with hcomma | ⟨kind, hkind, hmem⟩
  · exact absurd hcomma (by decide)
  · exact (mem_kinds hkind).2.2 hmem

theorem kindsText_inj {d d' : JobDefinition} (h : d.kindsText = d'.kindsText) : d.kinds = d'.kinds := by
  have hchars := Text.intercalate_inj (fun hnil => (mem_kinds hnil).1 rfl) (fun hnil => (mem_kinds hnil).1 rfl)
    (fun _ hkind => (mem_kinds hkind).2.1) (fun _ hkind => (mem_kinds hkind).2.1) h
  exact List.map_injective_iff.mpr (fun _ _ => String.toList_inj.mp) hchars

/-- A signature tells the name of the target and the kinds of the arguments. -/
theorem signature_eq_iff_describe {d d' : JobDefinition} :
    d.signature = d'.signature ↔ d.target.describe = d'.target.describe ∧ d.kinds = d'.kinds := by
  constructor
  · intro h
    have hchars := congrArg String.toList h
    rw [signature_toList, signature_toList, List.append_left_inj] at hchars
    -- No kind has a bracket in its name, so the last bracket that opens stands behind the name of the target.
    obtain ⟨hname, hkinds⟩ :=
      Text.append_cons_inj d.bracket_not_mem_kindsText d'.bracket_not_mem_kindsText hchars
    exact ⟨String.toList_inj.mp hname, kindsText_inj hkinds⟩
  · rintro ⟨hname, hkinds⟩
    have hnames : d.args.map Value.typeName = d'.args.map Value.typeName := hkinds
    simp only [signature, hname, hnames]

/-- Two jobs have one signature exactly if their targets are one, or namesakes, and their arguments are of the same
    kinds. -/
theorem signature_eq_iff {d d' : JobDefinition} (hd : d.target.Accepted) (hd' : d'.target.Accepted) :
    d.signature = d'.signature ↔
      (d.target = d'.target ∨ JobTarget.Namesakes d.target d'.target) ∧ d.kinds = d'.kinds := by
  rw [signature_eq_iff_describe, JobTarget.describe_eq_iff hd hd']

end JobDefinition

/-! ### Registering without an identifier -/

namespace BackedRegistry

open Activity

variable {h : Host} {now : Int} {job : JobDefinition} {cron given : Value} {zone : ZoneHint} {p : Progress BackedRegistry}

theorem perform_throughSink_registry (a : Activity JobStorage Unit) :
    ((throughSink a).perform p).2.state.registry = p.state.registry := by
  simp only [throughSink, perform_bind, perform_state]
  cases p.state.sink <;> rfl

theorem identifierOf_null {id : String} (hid : identifierOf job .null = .ok id) : id = job.signature := by
  unfold identifierOf at hid
  dsimp only at hid
  split at hid <;> cases hid
  rfl

theorem job_of_prepare {r : RecurringRegistry} {id : String} {prepared : RecurringJob} {run : Int}
    (hprepare : prepare h now r job cron given zone = .ok (id, prepared, run)) : prepared.job = job := by
  obtain ⟨_, -, h₁⟩ := Outcome.bind_eq_ok.mp hprepare
  obtain ⟨_, -, h₂⟩ := Outcome.bind_eq_ok.mp h₁
  obtain ⟨_, -, h₃⟩ := Outcome.bind_eq_ok.mp h₂
  obtain ⟨_, -, h₄⟩ := Outcome.bind_eq_ok.mp h₃
  cases h₄
  rfl

section Prepared
variable {id : String} {r : RecurringJob} {run : Int}
  (hprepare : prepare h now p.state.registry job cron given zone = .ok (id, r, run))
include hprepare

/-- Whatever the storage is, what it takes is put into the roster. -/
theorem roster_schedule_of_taken (hwrite : ((throughSink (JobStorage.persistRecurring id r)).perform p).1 = .ok ()) :
    ((schedule h now job cron given zone).perform p).2.state.roster = p.state.roster.insert id r := by
  rw [perform_schedule_eq_turn hprepare]
  simp only [Call.turn, Call.write, perform_bind, hwrite, perform_state, perform_put, perform_pure, withRoster, roster,
    perform_throughSink_registry]

theorem roster_schedule_of_refused {f : Fault}
    (hwrite : ((throughSink (JobStorage.persistRecurring id r)).perform p).1 = .error f) :
    ((schedule h now job cron given zone).perform p).2.state.roster = p.state.roster := by
  rw [perform_schedule_eq_turn hprepare]
  simp only [Call.turn, Call.write, perform_bind, hwrite, roster, perform_throughSink_registry]

end Prepared

/-- A registration without an identifier leaves what is registered under any signature but that of its job. -/
theorem find?_schedule_of_ne {signature : String} (hne : job.signature ≠ signature) :
    ((schedule h now job cron .null zone).perform p).2.state.roster.find? signature = p.state.roster.find? signature := by
  cases hprepare : prepare h now p.state.registry job cron .null zone with
  | error f => rw [perform_schedule_of_error hprepare]
  | ok prepared =>
    obtain ⟨id, r, run⟩ := prepared
    cases hwrite : ((throughSink (JobStorage.persistRecurring id r)).perform p).1 with
    | error f => rw [roster_schedule_of_refused hprepare hwrite]
    | ok _ =>
      obtain rfl := identifierOf_null (prepare_eq_ok hprepare).1.1
      rw [roster_schedule_of_taken hprepare hwrite, Roster.find?_insert, if_neg hne]

/-- Two jobs that are registered without an identifier have one identifier exactly if their targets are one, or
    namesakes, and their arguments are of the same kinds. Unless it is so, what is registered of the one stays as it
    is whatever registering the other comes to. Where it is so, the job that is written later is what is then
    registered of both. -/
theorem signature_shared_iff {d d' : JobDefinition} (hd : d.target.Accepted) (hd' : d'.target.Accepted) :
    (d.signature = d'.signature ↔
      (d.target = d'.target ∨ JobTarget.Namesakes d.target d'.target) ∧ d.kinds = d'.kinds) ∧
    (¬((d.target = d'.target ∨ JobTarget.Namesakes d.target d'.target) ∧ d.kinds = d'.kinds) →
      ∀ h now cron zone (p : Progress BackedRegistry),
        ((schedule h now d' cron .null zone).perform p).2.state.roster.find? d.signature =
          p.state.roster.find? d.signature) ∧
    ∀ h now cron zone (p : Progress BackedRegistry) id r run,
      prepare h now p.state.registry d' cron .null zone = .ok (id, r, run) →
      ((throughSink (JobStorage.persistRecurring id r)).perform p).1 = .ok () →
        id = d'.signature ∧ r.job = d' ∧
        ((schedule h now d' cron .null zone).perform p).2.state.roster.find? d'.signature = some r := by
  have hiff := JobDefinition.signature_eq_iff hd hd'
  refine ⟨hiff, fun hapart h now cron zone p => ?_, fun h now cron zone p id r run hprepare hwrite => ?_⟩
  · exact find?_schedule_of_ne fun hsame => hapart (hiff.mp hsame.symm)
  · obtain rfl := identifierOf_null (prepare_eq_ok hprepare).1.1
    refine ⟨rfl, job_of_prepare hprepare, ?_⟩
    rw [roster_schedule_of_taken hprepare hwrite, Roster.find?_insert, if_pos rfl]

/-- A call of the function that a service keeps under the name `send`. -/
def sendFunction : JobDefinition := ⟨.static "mail:Mailer.send", [.text "weekly"]⟩

/-- A call of the method `send` of that service. -/
def sendMethod : JobDefinition := ⟨.service "mail:Mailer" "send", [.text "daily"]⟩

/-- The method every midnight, in a zone whose offset depends on the month. -/
def sendAtMidnight : RecurringJob :=
  { seasonalMidnight with id := .text "mail:Mailer.send(str)", job := sendMethod }

theorem signature_sendMethod : sendMethod.signature = "mail:Mailer.send(str)" := by
  simp [sendMethod, JobDefinition.signature, JobTarget.describe, Value.typeName]

/-- What is registered of the function beforehand does not matter for the method. -/
theorem prepare_sendAtMidnight (registered : Roster) :
    prepare default 63902908800000000 { roster := registered } sendMethod (.text "0 0 * * *") .null (.zone (.seasonal 0)) =
      .ok ("mail:Mailer.send(str)", sendAtMidnight, 63902991600000000) := by
  obtain ⟨-, hschedule, hzone, hrun⟩ := prepare_eq_ok prepare_seasonalMidnight
  have hid : identifierOf sendMethod .null = .ok "mail:Mailer.send(str)" := by
    simp only [identifierOf, signature_sendMethod]
    rfl
  exact Outcome.bind_eq_ok.mpr ⟨_, hid, Outcome.bind_eq_ok.mpr ⟨_, hschedule,
    Outcome.bind_eq_ok.mpr ⟨_, hzone, Outcome.bind_eq_ok.mpr ⟨_, hrun, rfl⟩⟩⟩⟩

theorem accepted_sendFunction : sendFunction.target.Accepted := JobTarget.accepted_iff.mpr (by decide +kernel)

theorem accepted_sendMethod : sendMethod.target.Accepted := JobTarget.accepted_iff.mpr (by decide +kernel)

/-- Of the function, which is another target, nothing is registered any more once the method was. A function whose path
    reads like a signature keeps what is registered of it. -/
theorem signature_shared_iff_namesakes :
    sendFunction.signature = sendMethod.signature ∧ sendFunction.target ≠ sendMethod.target ∧
    (∀ registered : Roster,
      ((schedule default 63902908800000000 sendMethod (.text "0 0 * * *") .null (.zone (.seasonal 0))).perform
        ⟨⟨{ roster := registered }, none⟩, 0, []⟩).2.state.roster.find? sendFunction.signature = some sendAtMidnight) ∧
    ∀ h now cron zone (p : Progress BackedRegistry),
      ((schedule h now sendMethod cron .null zone).perform p).2.state.roster.find?
          (JobDefinition.mk (.static "mail:Mailer.send(str)") []).signature =
        p.state.roster.find? (JobDefinition.mk (.static "mail:Mailer.send(str)") []).signature := by
  obtain ⟨hiff, -, hwritten⟩ := signature_shared_iff accepted_sendFunction accepted_sendMethod
  have hshared : sendFunction.signature = sendMethod.signature :=
    hiff.mpr ⟨Or.inr (.functionFirst "mail:Mailer" "send"), rfl⟩
  refine ⟨hshared, nofun, fun registered => ?_, ?_⟩
  · rw [hshared]
    exact (hwritten _ _ _ _ _ _ _ _ (prepare_sendAtMidnight registered) rfl).2.2
  · have hother : (JobTarget.static "mail:Mailer.send(str)").Accepted := JobTarget.accepted_iff.mpr (by decide +kernel)
    exact (signature_shared_iff (d := ⟨.static "mail:Mailer.send(str)", []⟩) hother accepted_sendMethod).2.1
      fun hkinds => absurd hkinds.2 (by decide)

end BackedRegistry
end JobScheduling
