import JobScheduling.Proofs.Zone.Kept

/-! What the identifiers of zones lead back to. A zone that a text names has a canonical identifier, which is the text
    itself unless that spells UTC or writes an offset. A zone without an identifier is known by its offset in whole
    seconds, so it comes back as it was exactly if no fraction of a second is lost. -/

namespace JobScheduling

open Calendar Text

/-! ### Zones that a text names -/

namespace Host

variable {h : Host} {name : String} {z : Zone}

/-- A zone that a text is resolved to counts as equal to itself. Its identifier is resolved to that same zone right after,
    and at any time, wherever the files are the same, to a zone that differs in its number alone and has the same
    identifier. It is the text itself unless that spells UTC or writes an offset. -/
theorem zoneId_canonical (hname : name ≠ "") (hz : h.resolve (.text name) = .ok z) :
    z.same z = true ∧ ∃ id, id ≠ "" ∧ (IsKey name → id = name) ∧ (∀ g : Host, g.zoneId z = .ok id) ∧
      (h.look name).resolve (.text id) = .ok z ∧
      ∀ g : Host, g.SameFiles h → ∃ again, g.resolve (.text id) = .ok again ∧ again.unnumbered = z.unnumbered ∧
        g.zoneId again = .ok id := by
  obtain ⟨n, hn, rfl⟩ := found_of_resolve hname hz
  obtain ⟨id, hid, hkey, hzoneId, hagain, hnumber⟩ := exists_identifier_of_found hname hn
  refine ⟨same_of_found hn h.zones, id, hid, hkey, fun g => hzoneId g h.zones, ?_, fun g hfiles =>
    ⟨_, resolve_of_found hid ((hfiles.found id).trans hagain), ?_, ?_⟩⟩
  · rw [resolve_of_found hid (((h.look_sameFiles name).found id).trans hagain), hnumber, zone_look hn]
  · rw [hnumber, n.unnumbered_zone g.zones h.zones]
  · rw [hnumber]
    exact hzoneId g g.zones

/-- Minutes beyond the hour are carried over in the identifier. -/
theorem zoneId_canonical_carried : ∃ id, (default : Host).zoneId (.fixed (-8100000000) none) = .ok id ∧
    ((default : Host).look "UTC-01:75").resolve (.text id) = .ok (.fixed (-8100000000) none) := by
  have hwritten : WritesOffset "UTC-01:75".toList (-8100) := utcOffset?_eq_some_iff.mp (by decide)
  have hz : (default : Host).resolve (.text "UTC-01:75") = .ok (.fixed (-8100000000) none) :=
    (resolve_text_eq_ok_iff (by decide)).mpr (named_of_writesOffset hwritten (by decide))
  obtain ⟨-, id, -, -, hid, hagain, -⟩ := zoneId_canonical (by decide) hz
  exact ⟨id, hid default, hagain⟩

end Host

/-! ### Zones without an identifier -/

/-- A zone that has the same offset at all times and no identifier of its own: UTC, a fixed offset whatever its name, or
    a zone of a caller that carries no name of a zone. -/
inductive Zone.IsUnnamed (h : Host) : Zone → Int → Prop where
  | utc : IsUnnamed h .utc 0
  | fixed (offset : Int) (name : Option String) : IsUnnamed h (.fixed offset name) offset
  | keyed {number : Nat} {under : IdAttribute} {id : Value} (said : Option Int)
      (hid : h.carriedId (.keyed number under id said) = .ok none) :
    IsUnnamed h (.keyed number under id said) (said.getD 0)

@[simp] theorem Zone.offsets_ofOffset (offset : Int) : (Zone.ofOffset offset).offsets = .constant offset := by
  unfold ofOffset
  split
  · rename_i hzero
    rw [hzero]
    rfl
  · rfl

namespace Zone.IsUnnamed
variable {h : Host} {z : Zone} {offset : Int}

theorem offsets (hz : z.IsUnnamed h offset) : z.offsets = .constant offset := by
  cases hz <;> rfl

/-- A zone that does not tell its offset cannot be identified. -/
theorem constantOffset_of_zoneId {id : String} (hz : z.IsUnnamed h offset) (hid : h.zoneId z = .ok id) :
    z.constantOffset? = some offset := by
  cases hz with
  | utc => rfl
  | fixed _ _ => rfl
  | keyed said hcarried =>
    cases said with
    | some _ => rfl
    | none =>
      unfold Host.zoneId at hid
      dsimp only at hid
      rw [hcarried] at hid
      cases hid

/-- A zone that tells its offset is identified by the whole seconds of it. -/
theorem exists_zoneId (hz : z.IsUnnamed h offset) (hday : -day < offset ∧ offset < day)
    (hsaid : z.constantOffset? = some offset) :
    ∃ id, id ≠ "" ∧ h.zoneId z = .ok id ∧ h.named id = .ok (some (.ofOffset (offset.tdiv second * second))) := by
  have hbelow : offset.natAbs < 86400000000 := by
    simp only [day] at hday
    omega
  cases hz with
  | utc => exact ⟨"UTC", by decide, rfl, rfl⟩
  | fixed _ _ => exact ⟨_, offsetName_ne_empty offset, rfl, h.named_wholeSeconds hbelow⟩
  | keyed said hcarried =>
    cases said with
    | none => cases hsaid
    | some offset =>
      refine ⟨_, offsetName_ne_empty offset, ?_, h.named_wholeSeconds hbelow⟩
      unfold Host.zoneId
      dsimp only
      rw [hcarried]
      rfl

end Zone.IsUnnamed

/-- A zone without an identifier whose offset is constant and below a day has an identifier exactly if it tells that
    offset. The identifier is always resolved, to the whole seconds of the offset; that is the same offset at every
    instant exactly if it has no fraction of a second. -/
theorem Host.resolve_zoneId_iff {h : Host} {z : Zone} {offset : Int} (hz : z.IsUnnamed h offset)
    (hday : -day < offset ∧ offset < day) :
    ((∃ id, h.zoneId z = .ok id) ↔ z.constantOffset? = some offset) ∧
      ∀ id, h.zoneId z = .ok id → ∃ found, h.resolve (.text id) = .ok found ∧
        found.offsets = .constant (offset.tdiv second * second) ∧
        ((∀ u, found.offsets.atInstant u = z.offsets.atInstant u) ↔ second ∣ offset) := by
  constructor
  · constructor
    · rintro ⟨id, hid⟩
      exact hz.constantOffset_of_zoneId hid
    · intro hsaid
      obtain ⟨id, -, hid, -⟩ := hz.exists_zoneId hday hsaid
      exact ⟨id, hid⟩
  · intro id hid
    obtain ⟨id', hne, hid', hnamed⟩ := hz.exists_zoneId hday (hz.constantOffset_of_zoneId hid)
    cases hid.symm.trans hid'
    refine ⟨_, (resolve_text_eq_ok_iff hne).mpr hnamed, Zone.offsets_ofOffset _, ?_⟩
    rw [Zone.offsets_ofOffset, hz.offsets]
    constructor
    · intro hsame
      have hwhole : offset.tdiv second * second = offset := congrArg Prod.fst (Option.some.inj (hsame 0))
      exact ⟨_, (hwhole.symm.trans (Int.mul_comm _ _))⟩
    · intro hwhole u
      rw [Int.tdiv_mul_cancel hwhole]

/-- Half a second is lost, and so is the zone. -/
theorem Host.resolve_zoneId_iff_halfSecond :
    ∃ id found, (default : Host).zoneId (.fixed 500000 none) = .ok id ∧
      (default : Host).resolve (.text id) = .ok found ∧
      ¬∀ u, found.offsets.atInstant u = (Zone.fixed 500000 none).offsets.atInstant u := by
  obtain ⟨hid, hfound⟩ := resolve_zoneId_iff (h := default) (.fixed 500000 none) (by decide)
  obtain ⟨id, hid⟩ := hid.mpr rfl
  obtain ⟨found, hresolve, -, hsame⟩ := hfound id hid
  exact ⟨id, found, hid, hresolve, hsame.not.mpr (by decide)⟩

end JobScheduling
