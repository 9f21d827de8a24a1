import JobScheduling.Proofs.Calendar.Failure
import JobScheduling.Zone.Stamp

/-! How reading zones can fail. A file that holds no zone is a general failure wherever it ends too early or says what
    it must not, and reading may never end; what names no zone, what is no time, and a zone without an identifier are
    refused as inputs. -/

namespace JobScheduling

open Outcome

/-! ### Files -/

namespace Compiled

/-- A failure of reading a file: it says what it must not, it ends too early, or it lacks a line end, the one before its
    rule or the one behind it. -/
def IsOfFile : Fault → Prop
  | .badValue _ | .cutShort _ | .assertion _ | .endless => True
  | _ => False

/-- A reading that can only fail for what is in the file. -/
def Reader.Plain {α : Type} (r : Reader α) : Prop := ∀ c f, r.run c = .error f → IsOfFile f

namespace Reader.Plain

variable {α β : Type} {r : Reader α} {k : α → Reader β}

theorem pure (a : α) : Plain (Pure.pure a) := fun _ _ h => nomatch h

theorem throw {f : Fault} (hf : IsOfFile f) : Plain (MonadExcept.throw f : Reader α) :=
  fun _ _ h => Except.error.inj h ▸ hf

theorem get : Plain (MonadState.get : Reader Cursor) := fun _ _ h => nomatch h

theorem set (c : Cursor) : Plain (MonadStateOf.set c : Reader PUnit) := fun _ _ h => nomatch h

theorem bind (hr : r.Plain) (hk : ∀ a, (k a).Plain) : (r >>= k).Plain := by
  intro c f h
  rcases bind_eq_error.mp h with h | ⟨a, -, h⟩
  · exact hr c f h
  · exact hk a.1 a.2 f h

theorem forIn {γ : Type} {items : List α} {init : γ} {step : α → γ → Reader (ForInStep γ)}
    (h : ∀ a b, (step a b).Plain) : Plain (ForIn.forIn items init step) := by
  induction items generalizing init with
  | nil => exact pure init
  | cons a items ih =>
    rw [List.forIn_cons]
    refine bind (h a init) fun next => ?_
    cases next with
    | done b => exact pure b
    | yield b => exact ih

end Reader.Plain

open Reader

theorem upTo_plain (count : Int) : (upTo count).Plain := by
  unfold upTo
  extract_lets -underBinder take
  have htake : ∀ u, (take u).Plain := fun _ =>
    Plain.bind Plain.get fun _ => Plain.bind (Plain.set _) fun _ => Plain.pure _
  split
  · exact Plain.bind (Plain.throw trivial) htake
  · exact htake ()

theorem exactly_plain (count : Int) : (exactly count).Plain := by
  refine Plain.bind (upTo_plain count) fun bs => ?_
  split
  · exact Plain.pure _
  · exact Plain.throw trivial

theorem skip_plain (count : Int) : (skip count).Plain := by
  refine Plain.bind Plain.get fun c => ?_
  dsimp only
  split
  · exact Plain.throw trivial
  · exact Plain.set _

theorem header_plain : header.Plain := by
  refine Plain.bind (upTo_plain 4) fun magic => ?_
  extract_lets -underBinder afterMagic
  have hmagic : ∀ u, (afterMagic u).Plain := by
    refine fun _ => Plain.bind (upTo_plain 1) fun mark => ?_
    extract_lets -underBinder afterVersion
    have hversion : ∀ version, (afterVersion version).Plain := by
      refine fun version => Plain.bind (upTo_plain 15) fun _ => Plain.bind (exactly_plain 24) fun counts => ?_
      split
      · exact Plain.pure _
      · exact Plain.throw trivial
    split
    · exact Plain.bind (Plain.pure _) hversion
    · split
      · exact Plain.bind (Plain.pure _) hversion
      · exact Plain.bind (Plain.throw trivial) hversion
    · exact Plain.bind (Plain.throw trivial) hversion
  split
  · exact Plain.bind (Plain.throw trivial) hmagic
  · exact hmagic ()

theorem localTypes_plain (count : Nat) : (localTypes count).Plain := by
  induction count with
  | zero => exact Plain.pure _
  | succ count ih => exact Plain.bind (exactly_plain 6) fun _ => Plain.bind ih fun _ => Plain.pure _

theorem line_plain : line.Plain := by
  refine Plain.bind Plain.get fun c => ?_
  dsimp only
  split
  · exact Plain.bind (Plain.set _) fun _ => Plain.pure _
  · exact Plain.throw trivial

theorem footer_plain (h : Header) : (footer h).Plain := by
  unfold footer
  split
  · exact Plain.pure _
  · refine Plain.bind (skip_plain _) fun _ => Plain.bind (upTo_plain 1) fun _ => ?_
    dsimp only
    split
    · exact Plain.bind (Plain.throw trivial) fun _ => line_plain
    · exact line_plain

theorem isOfFile_of_table {changes : List (Int × Nat)} {types : List LocalType} {rule : List UInt8} {f : Fault}
    (h : table changes types rule = .error f) : IsOfFile f := by
  unfold table at h
  dsimp only at h
  rcases bind_eq_error.mp h with h | ⟨transitions, -, h⟩
  · obtain ⟨c, -, h⟩ := mapM_eq_error h
    split at h <;> cases h
    exact trivial
  · split at h
    · split at h
      · rcases bind_eq_error.mp h with h | ⟨_, -, h⟩ <;> cases h
      · cases h
        exact trivial
    · split at h
      · rcases bind_eq_error.mp h with h | ⟨_, -, h⟩ <;> cases h
      · cases h
        exact trivial

theorem file_plain : file.Plain := by
  refine Plain.bind header_plain fun first => ?_
  extract_lets -underBinder withHeader
  have hheader : ∀ h, (withHeader h).Plain := by
    intro h
    dsimp -zeta only [withHeader]
    extract_lets -underBinder size withSeconds
    have hseconds : ∀ seconds, (withSeconds seconds).Plain := by
      intro seconds
      dsimp -zeta only [withSeconds]
      extract_lets -underBinder withIndices
      have hindices : ∀ indices, (withIndices indices).Plain := by
        intro indices
        dsimp -zeta only [withIndices]
        extract_lets -underBinder readTypes
        have htypes : ∀ u, (readTypes u).Plain := by
          refine fun _ => Plain.bind (localTypes_plain _) fun types => Plain.bind (upTo_plain _) fun names =>
            Plain.bind (Plain.forIn fun t _ => ?_) fun _ => Plain.bind (footer_plain h) fun rule => ?_
          · split
            · exact Plain.bind (Plain.throw trivial) fun _ => Plain.pure _
            · exact Plain.pure _
          · extract_lets changes
            split
            · exact Plain.pure _
            · exact Plain.throw (isOfFile_of_table ‹_›)
        split
        · exact Plain.bind (Plain.throw trivial) htypes
        · exact htypes ()
      split
      · exact Plain.bind (Plain.pure _) hindices
      · exact Plain.bind (exactly_plain _) hindices
    split
    · exact Plain.bind (Plain.pure _) hseconds
    · exact Plain.bind (exactly_plain _) hseconds
  split
  · exact Plain.bind (Plain.pure _) hheader
  · exact Plain.bind (skip_plain _) fun _ => Plain.bind header_plain hheader

theorem isOfFile_of_read {bytes : List UInt8} {f : Fault} (h : read bytes = .error f) : IsOfFile f := by
  rcases bind_eq_error.mp h with h | ⟨_, -, h⟩
  · exact file_plain _ f h
  · cases h

theorem read_failsAmong (bytes : List UInt8) : (read bytes).FailsAmong [] := by
  intro f h
  have hf := isOfFile_of_read h
  cases f with
  | problem _ => exact hf.elim
  | _ => trivial

end Compiled

/-! ### Zones -/

namespace Host

variable (h : Host)

theorem tableOfFile_failsAmong (bytes : List UInt8) : (tableOfFile bytes).FailsAmong [] := by
  have hread := Compiled.read_failsAmong bytes
  unfold tableOfFile
  split
  · exact failsAmong_ok _
  · exact failsAmong_ok _
  · rename_i f _ hf
    exact failsAmong_error.mpr (hread f hf)

theorem region?_failsAmong (key : String) : (h.region? key).FailsAmong [] := by
  unfold region?
  split
  · exact tableOfFile_failsAmong _
  · split
    · simp [Fault.Among]
    · exact failsAmong_ok _

theorem found_failsAmong (key : String) : (h.found key).FailsAmong [] := by
  unfold found
  dsimp only
  split
  · exact failsAmong_ok _
  · split
    · exact failsAmong_ok _
    · refine FailsAmong.bind (h.region?_failsAmong key) fun region => ?_
      split
      · exact failsAmong_ok _
      · split
        · exact FailsAmong.bind (tableOfFile_failsAmong _) fun _ => failsAmong_ok _
        · exact failsAmong_ok _

theorem named_failsAmong (key : String) : (h.named key).FailsAmong [] :=
  FailsAmong.bind (h.found_failsAmong key) fun _ => failsAmong_ok _

theorem localZone_failsAmong : h.localZone.FailsAmong [] := by
  unfold localZone
  dsimp only
  split
  · exact failsAmong_ok _
  · exact FailsAmong.bind (h.named_failsAmong _) fun _ => failsAmong_ok _

/-- A hint that means no zone is refused as an input. -/
theorem resolve_failsAmong (hint : ZoneHint) : (h.resolve hint).FailsAmong [.validation] := by
  unfold resolve
  split
  · exact h.localZone_failsAmong.mono (List.nil_subset _)
  · exact h.localZone_failsAmong.mono (List.nil_subset _)
  · refine FailsAmong.bind ((h.named_failsAmong _).mono (List.nil_subset _)) fun found => ?_
    cases found with
    | some z => exact failsAmong_ok z
    | none => simp [Fault.Among, Problem.kind]
  · exact failsAmong_ok _
  · simp [Fault.Among, Problem.kind]

theorem carriedId_failsAmong (z : Zone) : (h.carriedId z).FailsAmong [] := by
  unfold carriedId
  split
  · split
    · exact failsAmong_ok _
    · exact FailsAmong.bind (h.found_failsAmong _) fun _ => failsAmong_ok _
  · split
    · exact failsAmong_ok _
    · exact FailsAmong.bind (h.found_failsAmong _) fun _ => failsAmong_ok _
  · exact failsAmong_ok _

theorem zoneId_failsAmong (z : Zone) : (h.zoneId z).FailsAmong [.validation] := by
  unfold zoneId
  split
  · exact failsAmong_ok _
  · exact failsAmong_ok _
  · exact failsAmong_ok _
  · refine FailsAmong.bind ((h.carriedId_failsAmong z).mono (List.nil_subset _)) fun carried => ?_
    cases carried with
    | some id => exact failsAmong_ok id
    | none =>
      dsimp only
      split
      · exact failsAmong_ok _
      · simp [Fault.Among, Problem.kind]

end Host

/-! ### Times -/

namespace Stamp

variable (s : Stamp)

theorem offset?_failsAmong : s.offset?.FailsAmong [] := by
  unfold offset?
  split
  · exact Offsets.checkedAt_failsAmong _ _ _
  · exact failsAmong_ok _

theorem text_failsAmong : s.text.FailsAmong [] := FailsAmong.bind s.offset?_failsAmong fun _ => failsAmong_ok _

end Stamp

namespace Host

variable (h : Host)

/-- What is no time is refused as an input. -/
theorem toInstant_failsAmong (t : TimeValue) (hint : ZoneHint) : (h.toInstant t hint).FailsAmong [.validation] := by
  unfold toInstant
  split
  · rename_i s
    refine FailsAmong.bind (s.offset?_failsAmong.mono (List.nil_subset _)) fun offset => ?_
    cases offset with
    | some offset => exact (Calendar.checked_failsAmong _).mono (List.nil_subset _)
    | none =>
      exact FailsAmong.bind (h.resolve_failsAmong hint) fun z =>
        (z.offsets.toInstant_failsAmong false s.reading).mono (List.nil_subset _)
  · simp [Fault.Among, Problem.kind]
  · simp [Fault.Among, Problem.kind]
  · exact (Calendar.ofEpochSeconds_failsAmong _).mono (List.nil_subset _)
  · exact (Calendar.ofEpochFloat_failsAmong _).mono (List.nil_subset _)
  · simp [Fault.Among, Problem.kind]
  · simp [Fault.Among, Problem.kind]

end Host
end JobScheduling
