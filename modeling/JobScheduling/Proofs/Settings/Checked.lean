import JobScheduling.Proofs.Zone.Name
import JobScheduling.Settings.Schema

/-! Settings that have passed their checks. Their level is one that logs can be set up with, and their zone has an
    identifier if the zone of the system has one. -/

namespace JobScheduling

/-! ### Levels -/

namespace SchedulerSettings

variable {h : Host} {s : SchedulerSettings}

/-- What the checks take for a level is one for the log. -/
theorem threshold_of_namesLevel {v : Value} (hv : namesLevel v = .ok true) : ∃ rank, threshold v = .ok rank := by
  cases v with
  | text name =>
    obtain ⟨rank, hrank⟩ := Option.isSome_iff_exists.mp (Except.ok.inj hv)
    exact ⟨rank, by simp only [threshold, hrank]⟩
  | _ => cases hv

theorem refuse_ne_ok {α : Type} {name : String} {v : Value} {reason : String} {cause : Option Fault} {a : α} :
    refuse name v reason cause ≠ .ok a := by
  intro h
  obtain ⟨_, -, h⟩ := Outcome.bind_eq_ok.mp h
  cases h

theorem namesLevel_of_validate (hs : s.validate h = .ok ()) : namesLevel s.logLevel = .ok true := by
  obtain ⟨below, -, hs⟩ := Outcome.bind_eq_ok.mp hs
  -- Neither a lookahead nor a level that is refused comes to anything.
  cases below with
  | true =>
    obtain ⟨_, hrefused, -⟩ := Outcome.bind_eq_ok.mp hs
    exact absurd hrefused refuse_ne_ok
  | false =>
    obtain ⟨named, hnamed, hs⟩ := Outcome.bind_eq_ok.mp hs
    cases named with
    | true => exact hnamed
    | false =>
      obtain ⟨_, hrefused, -⟩ := Outcome.bind_eq_ok.mp hs
      exact absurd hrefused refuse_ne_ok

theorem validate_of_make {given : List (String × Value)} (hmake : make h given = .ok s) : s.validate h = .ok () := by
  obtain ⟨s', -, hmake⟩ := Outcome.bind_eq_ok.mp hmake
  obtain ⟨_, hvalid, hmake⟩ := Outcome.bind_eq_ok.mp hmake
  cases hmake
  exact hvalid

/-- Settings that were made have a level that logs can be set up with. -/
theorem threshold_of_make {given : List (String × Value)} (hmake : make h given = .ok s) :
    ∃ rank, threshold s.logLevel = .ok rank :=
  threshold_of_namesLevel (namesLevel_of_validate (validate_of_make hmake))

end SchedulerSettings

/-! ### Zones -/

namespace Host

variable {h : Host} {z : Zone}

theorem SameFiles.zoneId {g : Host} (hfiles : g.SameFiles h) (z : Zone) : g.zoneId z = h.zoneId z := by
  unfold Host.zoneId carriedId
  simp only [hfiles.found]

/-- The zone of the machine has an identifier if that of its system has one. -/
theorem exists_identifier_of_localZone (hsystem : ∃ id, h.zoneId h.systemZone = .ok id) (hz : h.localZone = .ok z) :
    ∃ id, h.zoneId z = .ok id := by
  unfold localZone at hz
  dsimp only at hz
  split at hz
  · cases hz
    exact hsystem
  · rename_i hkey
    obtain ⟨found, hfound, hz⟩ := Outcome.bind_eq_ok.mp hz
    cases hz
    cases found with
    | none => exact ⟨_, rfl⟩
    | some z =>
      have hname : String.ofList (h.tz.toList.dropWhile (· = ':')) ≠ "" := by
        intro heq
        have hnil := congrArg String.toList heq
        rw [String.toList_ofList] at hnil
        exact hkey (List.isEmpty_iff.mpr hnil)
      obtain ⟨id, -, -, hid, -⟩ := exists_identifier_of_resolve hname ((resolve_text_eq_ok_iff hname).mpr hfound)
      exact ⟨id, hid h⟩

/-- The default zone of settings has an identifier, whether they name it or leave it to the machine. -/
theorem exists_identifier_of_settings {s : SchedulerSettings} (hsystem : ∃ id, h.zoneId h.systemZone = .ok id)
    (hz : s.zone h = .ok z) : ∃ id, h.zoneId z = .ok id := by
  unfold SchedulerSettings.zone at hz
  split at hz
  · rename_i htruthy
    cases hdefault : s.defaultZone with
    | null =>
      rw [hdefault] at htruthy
      cases htruthy
    | text name =>
      rw [hdefault] at htruthy hz
      have hname : name ≠ "" := by
        rintro rfl
        cases htruthy
      obtain ⟨id, -, -, hid, -⟩ := exists_identifier_of_resolve hname hz
      exact ⟨id, hid h⟩
    | _ =>
      rw [hdefault] at hz
      cases hz
  · exact exists_identifier_of_localZone hsystem hz

end Host
end JobScheduling
