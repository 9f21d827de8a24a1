import Mathlib
import JobScheduling.Proofs.Outcome
import JobScheduling.Recurring.Roster

/-! Rosters as maps from identifiers to jobs, and the order of their identifiers. What is found after a job was inserted
    or erased needs no order; only the order itself does. -/

namespace JobScheduling
namespace Roster

/-! ### Finding -/

theorem find?_eq (entries : List (String × RecurringJob)) (id : String) :
    (Roster.mk entries).find? id = (entries.find? fun e => e.1 == id).map (·.2) := rfl

theorem find?_cons (e : String × RecurringJob) (entries : List (String × RecurringJob)) (id : String) :
    (Roster.mk (e :: entries)).find? id = if e.1 = id then some e.2 else (Roster.mk entries).find? id := by
  rw [find?_eq, find?_eq, List.find?_cons]
  by_cases h : e.1 = id
  · rw [if_pos h, beq_iff_eq.mpr h]
    rfl
  · rw [if_neg h, beq_eq_false_iff_ne.mpr h]

theorem find?_insert (r : Roster) (id id' : String) (job : RecurringJob) :
    (r.insert id job).find? id' = if id = id' then some job else r.find? id' := by
  obtain ⟨entries⟩ := r
  induction entries with
  | nil => exact find?_cons (id, job) [] id'
  | cons e entries ih =>
    simp only [insert, insertEntry]
    split
    · exact find?_cons (id, job) _ id'
    · split
      · rename_i heq
        rw [find?_cons, find?_cons, heq]
        split_ifs <;> rfl
      · rename_i hne
        rw [find?_cons, find?_cons]
        split_ifs with he hid hid
        · exact absurd (hid.trans he.symm) hne
        · rfl
        · exact ih.trans (if_pos hid)
        · exact ih.trans (if_neg hid)

theorem find?_erase (r : Roster) (id id' : String) :
    (r.erase id).find? id' = if id = id' then none else r.find? id' := by
  obtain ⟨entries⟩ := r
  induction entries with
  | nil => split_ifs <;> rfl
  | cons e entries ih =>
    simp only [erase] at ih ⊢
    by_cases he : e.1 = id
    · rw [List.filter_cons_of_neg (by simp [he]), ih, find?_cons, he]
      split_ifs <;> rfl
    · rw [List.filter_cons_of_pos (by simp [he]), find?_cons, ih, find?_cons]
      split_ifs with h h' <;> simp_all

/-- A text that is popped is erased if there is a job under it; whatever else is popped, the roster stays. -/
theorem pop_eq_ok {r r' : Roster} {id : Value} {removed : Option RecurringJob} (h : r.pop id = .ok (removed, r')) :
    r' = r ∧ (∀ name, id = .text name → r.find? name = none) ∨ ∃ name, id = .text name ∧ r' = r.erase name := by
  unfold pop at h
  split at h
  · rename_i hempty
    cases h
    refine Or.inl ⟨rfl, fun name _ => ?_⟩
    rw [find?, List.isEmpty_iff.mp hempty]
    rfl
  · obtain ⟨name?, hname, h⟩ := Outcome.bind_eq_ok.mp h
    cases h
    cases id with
    | text name =>
      cases hname
      exact Or.inr ⟨name, rfl, rfl⟩
    | _ =>
      obtain ⟨_, -, hnone⟩ := Outcome.bind_eq_ok.mp hname
      cases hnone
      exact Or.inl ⟨rfl, nofun⟩

/-! ### Entries -/

theorem mem_insertEntry {id : String} {job : RecurringJob} {e : String × RecurringJob} :
    ∀ {entries}, e ∈ insertEntry id job entries → e = (id, job) ∨ e ∈ entries
  | [], h => Or.inl (List.mem_singleton.mp h)
  | e' :: entries, h => by
    rw [insertEntry] at h
    split_ifs at h
    · exact List.mem_cons.mp h
    · exact (List.mem_cons.mp h).imp_right (List.mem_cons_of_mem _)
    · rcases List.mem_cons.mp h with rfl | h
      · exact Or.inr List.mem_cons_self
      · exact (mem_insertEntry h).imp_right (List.mem_cons_of_mem _)

/-! ### Order -/

/-- The identifiers of a roster are in strictly ascending order. -/
def Ascending (r : Roster) : Prop := r.ids.Pairwise (· < ·)

theorem ascending_iff {r : Roster} : r.Ascending ↔ r.entries.Pairwise fun a b => a.1 < b.1 := List.pairwise_map

theorem Ascending.insert {r : Roster} (hr : r.Ascending) (id : String) (job : RecurringJob) :
    (r.insert id job).Ascending := by
  obtain ⟨entries⟩ := r
  rw [ascending_iff] at hr ⊢
  induction entries with
  | nil => exact List.pairwise_singleton _ _
  | cons e entries ih =>
    obtain ⟨he, hrest⟩ := List.pairwise_cons.mp hr
    simp only [Roster.insert, insertEntry] at ih ⊢
    split_ifs with hlt heq
    · refine List.pairwise_cons.mpr ⟨fun a ha => ?_, hr⟩
      rcases List.mem_cons.mp ha with rfl | ha
      · exact hlt
      · exact lt_trans hlt (he a ha)
    · exact List.pairwise_cons.mpr ⟨fun a ha => heq ▸ he a ha, hrest⟩
    · refine List.pairwise_cons.mpr ⟨fun a ha => ?_, ih hrest⟩
      rcases mem_insertEntry ha with rfl | ha
      · exact lt_of_le_of_ne (not_lt.mp hlt) (Ne.symm heq)
      · exact he a ha

theorem Ascending.erase {r : Roster} (hr : r.Ascending) (id : String) : (r.erase id).Ascending :=
  ascending_iff.mpr ((ascending_iff.mp hr).filter _)

/-- In order of their identifiers, the jobs are what is found under each of those. -/
theorem Ascending.jobs_eq {r : Roster} (hr : r.Ascending) : r.jobs.map some = r.ids.map r.find? := by
  obtain ⟨entries⟩ := r
  rw [ascending_iff] at hr
  induction entries with
  | nil => rfl
  | cons e entries ih =>
    obtain ⟨he, hrest⟩ := List.pairwise_cons.mp hr
    have hfind : ∀ id ∈ entries.map (·.1), (Roster.mk (e :: entries)).find? id = (Roster.mk entries).find? id := by
      intro id hid
      obtain ⟨a, ha, rfl⟩ := List.mem_map.mp hid
      rw [find?_cons, if_neg (ne_of_lt (he a ha))]
    simp only [jobs, ids, List.map_cons, find?_cons, if_true] at ih ⊢
    exact congrArg _ ((ih hrest).trans (List.map_congr_left fun id hid => (hfind id hid).symm))

end Roster
end JobScheduling
