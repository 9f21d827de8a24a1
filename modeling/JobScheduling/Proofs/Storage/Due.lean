import Mathlib
import JobScheduling.Proofs.Activity
import JobScheduling.Proofs.Job.Due
import JobScheduling.Proofs.Sorting
import JobScheduling.Storage.Memory

/-! Which of the jobs in a storage are due. Times in UTC are in the order of their instants, so the jobs of a storage
    have one order, by their time and, where that is the same, as they were stored; what is due at an instant is the
    beginning of that order up to the instant. Hence more is due later, and it comes behind what was due before. -/

namespace JobScheduling

/-! ### Times in UTC -/

namespace Stamp
variable {s t : Stamp} {o : Int}

theorem offset?_of_utc (hs : s.zone = some .utc) : s.offset? = .ok (some 0) := by
  simp only [offset?, hs]
  rfl

/-- A time in UTC is compared with another one by their instants. -/
theorem notAfter_of_utc (hs : s.zone = some .utc) (ht : t.offset? = .ok (some o)) :
    s.notAfter t = .ok (decide (s.reading ≤ t.reading - o)) := by
  by_cases hshared : s.SharesClock t
  · rw [notAfter_of_shares hshared]
    obtain ⟨a, b, ha, hb, hab⟩ := hshared
    cases hs.symm.trans ha
    cases b with
    | utc =>
      cases (offset?_of_utc hb).symm.trans ht
      rw [Int.sub_zero]
    | _ => cases hab
  · rw [notAfter_of_not_shares (offset?_of_utc hs) ht hshared, Int.sub_zero]

/-- A time in UTC cannot be compared with one that has no offset. -/
theorem notAfter_of_utc_error (hs : s.zone = some .utc) (ht : ∀ o, t.offset? ≠ .ok (some o)) :
    ∃ f, s.notAfter t = .error f := by
  have hutc := offset?_of_utc hs
  cases hzone : t.zone with
  | none =>
    have hnone : t.offset? = .ok none := by rw [offset?, hzone]
    exact ⟨_, by simp only [notAfter, hs, hzone, hutc, hnone, Outcome.ok_bind, Bool.false_eq_true, if_false]; rfl⟩
  | some b =>
    have hb : Zone.utc.shares b = false := by
      cases b with
      | utc => exact absurd (offset?_of_utc hzone) (ht 0)
      | _ => rfl
    cases hoff : t.offset? with
    | error f =>
      exact ⟨f, by simp only [notAfter, hs, hzone, hutc, hoff, hb, Outcome.ok_bind, Outcome.error_bind,
        Bool.false_eq_true, if_false]⟩
    | ok o =>
      cases o with
      | none =>
        exact ⟨_, by simp only [notAfter, hs, hzone, hutc, hoff, hb, Outcome.ok_bind, Bool.false_eq_true, if_false]; rfl⟩
      | some o => exact absurd hoff (ht o)

end Stamp

namespace MemoryStorage

open Activity

/-! ### Persisting -/

/-- To keep jobs one after the other; their identifiers. -/
def persistEach : List ScheduledJob → Activity MemoryStorage (List String)
  | [] => return []
  | job :: jobs => do
    let id ← persist job
    return id :: (← persistEach jobs)

theorem perform_persist {p : Progress MemoryStorage} (hp : p.state.refusal = none) (job : ScheduledJob) :
    (persist job).perform p = (.ok (JobId.ofNumber (p.issued + 1)),
      ⟨{ p.state with jobs := p.state.jobs ++ [(JobId.ofNumber (p.issued + 1), job)] }, p.issued + 1, p.events⟩) := by
  simp only [persist, guardWrite, perform_bind, perform_state, perform_pure, perform_issue, perform_put, hp]

/-- Jobs are kept in their order, each under the identifier that is answered for it. -/
theorem perform_persistEach (jobs : List ScheduledJob) {p : Progress MemoryStorage} (hp : p.state.refusal = none) :
    ∃ ids q, (persistEach jobs).perform p = (.ok ids, q) ∧ ids.length = jobs.length ∧
      q.state = { p.state with jobs := p.state.jobs ++ ids.zip jobs } := by
  induction jobs generalizing p with
  | nil => exact ⟨[], p, rfl, rfl, by rw [List.zip_nil_right, List.append_nil]⟩
  | cons job jobs ih =>
    have hkept : ((persist job).perform p).2.state.refusal = none := by
      rw [perform_persist hp]
      exact hp
    obtain ⟨ids, q, hperform, hlength, hstate⟩ := ih hkept
    rw [perform_persist hp] at hperform hstate
    refine ⟨JobId.ofNumber (p.issued + 1) :: ids, q, ?_, congrArg _ hlength, ?_⟩
    · simp only [persistEach, perform_bind, perform_persist hp, hperform, perform_pure]
    · rw [hstate, List.zip_cons_cons, List.append_assoc, List.singleton_append]

/-! ### Jobs in UTC -/

/-- The instant from which a stored job may run, its time being one in UTC. -/
def dueTime (j : String × ScheduledJob) : Int := j.2.runAt.reading

/-- What is due at an instant among stored jobs: those whose time has come, each once, the earliest first, and of those
    for one instant the one that was stored first. -/
structure DueAt (stored : List (String × ScheduledJob)) (u : Int) (due : List (String × ScheduledJob)) : Prop where
  mem_iff : ∀ j, j ∈ due ↔ j ∈ stored ∧ dueTime j ≤ u
  once : (due.map (·.1)).Nodup
  ordered : due.Pairwise (Precedes dueTime stored)

section Utc
variable {stored : List (String × ScheduledJob)} (hutc : ∀ j ∈ stored, j.2.runAt.zone = some .utc)
include hutc

theorem dueAmong_of_utc {now : Stamp} {o : Int} (hnow : now.offset? = .ok (some o)) :
    dueAmong (.stamp now) stored = .ok (stored.filter fun j => dueTime j ≤ now.reading - o) := by
  induction stored with
  | nil => rfl
  | cons j stored ih =>
    obtain ⟨hj, hstored⟩ := List.forall_mem_cons.mp hutc
    have hdue : j.2.isDue (.stamp now) = .ok (decide (dueTime j ≤ now.reading - o)) := Stamp.notAfter_of_utc hj hnow
    rw [dueAmong, hdue, Outcome.ok_bind, ih hstored, Outcome.ok_bind]
    by_cases h : dueTime j ≤ now.reading - o
    · rw [if_pos (decide_eq_true h), List.filter_cons_of_pos (by simpa using h)]
    · rw [if_neg (by simpa using h), List.filter_cons_of_neg (by simpa using h)]

theorem mergeSort_noLater : stored.mergeSort noLater = stored.mergeSort (byKey dueTime) := by
  have hsame : ∀ a ∈ stored, ∀ b ∈ stored, noLater a b = byKey dueTime a b := by
    intro a ha b hb
    rw [noLater, Stamp.notAfter_of_utc (hutc a ha) (Stamp.offset?_of_utc (hutc b hb)), Int.sub_zero]
    rfl
  have hmap := List.map_mergeSort (f := id) hsame
  rwa [List.map_id, List.map_id] at hmap

theorem due_of_utc {m : MemoryStorage} (hjobs : m.jobs = stored) (hids : (stored.map (·.1)).Nodup) {now : Stamp}
    {o : Int} (hnow : now.offset? = .ok (some o)) :
    m.due (.stamp now) = .ok ((stored.mergeSort (byKey dueTime)).filter fun j => dueTime j ≤ now.reading - o) := by
  have hfiltered : ∀ j ∈ stored.filter fun j => dueTime j ≤ now.reading - o, j.2.runAt.zone = some .utc :=
    fun j hj => hutc j (List.mem_filter.mp hj).1
  rw [due, hjobs, dueAmong_of_utc hutc hnow, Outcome.ok_bind, mergeSort_noLater hfiltered,
    mergeSort_filter (hids.of_map _)]

/-- At a time without an offset nothing is told to be due, unless there are no jobs. -/
theorem due_of_no_offset {m : MemoryStorage} (hjobs : m.jobs = stored) (hne : stored ≠ []) {now : Stamp}
    (hnow : ∀ o, now.offset? ≠ .ok (some o)) : ∃ f, m.due (.stamp now) = .error f := by
  obtain ⟨j, rest, rfl⟩ := List.exists_cons_of_ne_nil hne
  obtain ⟨f, hf⟩ := Stamp.notAfter_of_utc_error (hutc j List.mem_cons_self) hnow
  have hdue : j.2.isDue (.stamp now) = .error f := hf
  exact ⟨f, by rw [due, hjobs, dueAmong, hdue, Outcome.error_bind, Outcome.error_bind]⟩

end Utc

section Stored
variable {stored : List (String × ScheduledJob)}

/-- The beginning of the order of all jobs, up to an instant, is what is due at it. -/
theorem dueAt_filter (hids : (stored.map (·.1)).Nodup) (u : Int) :
    DueAt stored u ((stored.mergeSort (byKey dueTime)).filter fun j => dueTime j ≤ u) where
  mem_iff j := by rw [List.mem_filter, List.mem_mergeSort, decide_eq_true_eq]
  once := by
    have hsorted : ((stored.mergeSort (byKey dueTime)).map (·.1)).Nodup :=
      ((List.mergeSort_perm stored _).map _).nodup_iff.mpr hids
    exact hsorted.sublist (List.filter_sublist.map _)
  ordered := (pairwise_precedes (hids.of_map _)).filter _

theorem filter_due_prefix {u v : Int} (huv : u ≤ v) :
    ((stored.mergeSort (byKey dueTime)).filter fun j => dueTime j ≤ u) <+:
      (stored.mergeSort (byKey dueTime)).filter fun j => dueTime j ≤ v := by
  refine filter_prefix_filter (fun j hj => ?_) ((List.pairwise_mergeSort byKey_trans byKey_total stored).imp ?_)
  · simp only [decide_eq_true_eq] at hj ⊢
    omega
  · intro a b hab hb
    simp only [byKey, decide_eq_true_eq] at hab hb ⊢
    omega

end Stored

/-! ### What is due -/

/-- Jobs with times in UTC that are kept in a new storage, under identifiers that are all different, are due when their
    time has come, the earliest first and those for one instant as they were stored; what is due at one time is the
    beginning of what is due at any later one. Only a time without an offset has no answer, once there is a job. -/
theorem due_of_persisted {jobs : List ScheduledJob} (hutc : ∀ j ∈ jobs, j.runAt.zone = some .utc) (n : Nat)
    (events : List Event) : ∃ ids q, (persistEach jobs).perform ⟨{}, n, events⟩ = (.ok ids, q) ∧
      ids.length = jobs.length ∧ (ids.Nodup → ∀ now : Stamp,
        (∀ o, now.offset? = .ok (some o) → ∃ due, q.state.due (.stamp now) = .ok due ∧
          DueAt (ids.zip jobs) (now.reading - o) due ∧
          ∀ (later : Stamp) (o' : Int), later.offset? = .ok (some o') → now.reading - o ≤ later.reading - o' →
            ∃ due', q.state.due (.stamp later) = .ok due' ∧ due <+: due') ∧
        ((∀ o, now.offset? ≠ .ok (some o)) → jobs ≠ [] → ∃ f, q.state.due (.stamp now) = .error f)) := by
  obtain ⟨ids, q, hperform, hlength, hstate⟩ := perform_persistEach jobs (p := ⟨{}, n, events⟩) rfl
  have hjobs : q.state.jobs = ids.zip jobs := by
    rw [hstate]
    rfl
  refine ⟨ids, q, hperform, hlength, fun hids now => ⟨fun o hnow => ?_, fun hnow hne => ?_⟩⟩
  all_goals
    have hzip : ∀ j ∈ ids.zip jobs, j.2.runAt.zone = some .utc := fun j hj => hutc j.2 (List.of_mem_zip hj).2
  · have hfst : ((ids.zip jobs).map (·.1)).Nodup := by rwa [List.map_fst_zip hlength.le]
    refine ⟨_, due_of_utc hzip hjobs hfst hnow, dueAt_filter hfst _, fun later o' hlater hle => ?_⟩
    exact ⟨_, due_of_utc hzip hjobs hfst hlater, filter_due_prefix hle⟩
  · refine due_of_no_offset hzip hjobs (fun hnil => ?_) hnow
    rcases List.zip_eq_nil_iff.mp hnil with rfl | hnil
    · exact hne (List.eq_nil_of_length_eq_zero hlength.symm)
    · exact hne hnil

/-- A job for an hour of the first day of the calendar. -/
def jobAt (hour : Int) : ScheduledJob := ⟨⟨.static "reports:run", []⟩, .ofInstant (hour * 3600000000)⟩

/-- Jobs for five, three, five and six o'clock are asked for at five, which a clock shows that is an hour ahead, and at
    six. -/
theorem due_of_persisted_five : ∃ ids q due due',
    (persistEach [jobAt 5, jobAt 3, jobAt 5, jobAt 6]).perform ⟨{}, 0, []⟩ = (.ok ids, q) ∧
    q.state.due (.stamp ⟨21600000000, some (.fixed 3600000000 none), false⟩) = .ok due ∧
    q.state.due (.stamp (.ofInstant 21600000000)) = .ok due' ∧
    DueAt (ids.zip [jobAt 5, jobAt 3, jobAt 5, jobAt 6]) 18000000000 due ∧ due <+: due' := by
  have hutc : ∀ j ∈ [jobAt 5, jobAt 3, jobAt 5, jobAt 6], j.runAt.zone = some .utc := by simp [jobAt, Stamp.ofInstant]
  obtain ⟨ids, q, hperform, hlength, h⟩ := due_of_persisted hutc 0 []
  have hids : ids = [JobId.ofNumber 1, JobId.ofNumber 2, JobId.ofNumber 3, JobId.ofNumber 4] := by
    cases hperform
    rfl
  have hnow : (⟨21600000000, some (.fixed 3600000000 none), false⟩ : Stamp).offset? = .ok (some 3600000000) := by rfl
  obtain ⟨due, hdue, hat, hprefix⟩ := (h (by rw [hids]; decide) _).1 _ hnow
  obtain ⟨due', hdue', hdues⟩ := hprefix (.ofInstant 21600000000) 0 (Stamp.offset?_of_utc rfl) (by decide)
  exact ⟨ids, q, due, due', hperform, hdue, hdue', hat, hdues⟩

end MemoryStorage

end JobScheduling
