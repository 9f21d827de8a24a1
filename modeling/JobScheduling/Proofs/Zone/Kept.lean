import Mathlib
import JobScheduling.Proofs.Zone.Name

/-! Zones that are kept. The zone of a rule or of a file has the number with which it was made for as long as, at no
    stretch without its own name, as many other names of its place are looked up as there is room for. Once it is
    displaced its number is never given again. -/

namespace JobScheduling

/-! ### One place -/

namespace ZoneStore

variable {s : ZoneStore} {place other : ZonePlace} {key k : String} {n : Nat} {asked : Finset String}

/-- The zone of a key is kept with its number, and before it just the zones of the keys that were asked for since. -/
def Holds (s : ZoneStore) (place : ZonePlace) (key : String) (n : Nat) (asked : Finset String) : Prop :=
  ∃ front back, s.kept place = front ++ (key, n) :: back ∧ (front.map (·.1)).Nodup ∧ key ∉ front.map (·.1) ∧
    key ∉ back.map (·.1) ∧ (front.map (·.1)).toFinset = asked

/-- The number was given, and is no longer that of a zone that is kept for the key. -/
structure Lost (s : ZoneStore) (place : ZonePlace) (key : String) (n : Nat) : Prop where
  given : n < s.next
  absent : (key, n) ∉ s.kept place

theorem kept_ask_self : (s.ask place key).kept place = keep place.room key (s.numberOf place key) (s.kept place) := by
  cases place <;> rfl

theorem kept_ask_other (hother : place ≠ other) : (s.ask other k).kept place = s.kept place := by
  cases place <;> cases other <;> first | rfl | exact absurd rfl hother

theorem next_lt_ask (s : ZoneStore) (place : ZonePlace) (k : String) : s.next < (s.ask place k).next := by
  cases place <;> exact Nat.lt_succ_self _

theorem not_mem_filter_ne (kept : List (String × Nat)) (k : String) :
    k ∉ (kept.filter fun e => e.1 != k).map (·.1) := by
  simp only [List.mem_map, List.mem_filter, bne_iff_ne]
  rintro ⟨e, ⟨-, he⟩, rfl⟩
  exact he rfl

theorem Holds.numberOf (h : s.Holds place key n asked) : s.numberOf place key = n := by
  obtain ⟨front, back, hkept, -, hfront, -, -⟩ := h
  have hnone : front.find? (fun e => e.1 == key) = none :=
    List.find?_eq_none.mpr fun e he hkey => hfront (List.mem_map.mpr ⟨e, he, beq_iff_eq.mp hkey⟩)
  simp [ZoneStore.numberOf, hkept, List.find?_append, hnone]

theorem Lost.numberOf_ne (h : s.Lost place key n) : s.numberOf place key ≠ n := by
  unfold ZoneStore.numberOf
  cases hfind : (s.kept place).find? fun e => e.1 == key with
  | none => exact (Nat.ne_of_lt h.given).symm
  | some e =>
    rintro rfl
    have hkey := List.find?_some hfind
    refine h.absent ?_
    rw [← beq_iff_eq.mp hkey]
    exact List.mem_of_find?_eq_some hfind

/-- The zone that was asked for last stands first. -/
theorem holds_ask_self (s : ZoneStore) (place : ZonePlace) (key : String) :
    (s.ask place key).Holds place key (s.numberOf place key) ∅ := by
  refine ⟨[], ((s.kept place).filter fun e => e.1 != key).take (place.room - 1), ?_, List.nodup_nil,
    List.not_mem_nil, fun hmem => ?_, rfl⟩
  · rw [kept_ask_self, keep]
    cases place <;> rfl
  · rw [List.map_take] at hmem
    exact not_mem_filter_ne _ key (List.mem_of_mem_take hmem)

/-- Another key that is asked for comes to stand first, and no key twice. -/
theorem keep_append {front back : List (String × Nat)} {room m : Nat} (hk : k ≠ key) :
    keep room k m (front ++ (key, n) :: back) =
      (((k, m) :: front.filter fun e => e.1 != k) ++ (key, n) :: back.filter fun e => e.1 != k).take room := by
  simp [keep, List.filter_append, Ne.symm hk]

theorem nodup_cons_filter {front : List (String × Nat)} (hfront : (front.map (·.1)).Nodup) (m : Nat) :
    (((k, m) :: front.filter fun e => e.1 != k).map (·.1)).Nodup :=
  List.nodup_cons.mpr ⟨not_mem_filter_ne front k, hfront.sublist (List.filter_sublist.map _)⟩

theorem toFinset_cons_filter (front : List (String × Nat)) (m : Nat) :
    (((k, m) :: front.filter fun e => e.1 != k).map (·.1)).toFinset = insert k (front.map (·.1)).toFinset := by
  ext x
  by_cases hx : x = k
  · simp [hx]
  · simp [hx]

theorem length_cons_filter {front : List (String × Nat)} (hfront : (front.map (·.1)).Nodup) (m : Nat) :
    ((k, m) :: front.filter fun e => e.1 != k).length = (insert k (front.map (·.1)).toFinset).card := by
  rw [← toFinset_cons_filter front m, List.toFinset_card_of_nodup (nodup_cons_filter hfront m), List.length_map]

/-- A zone stays as long as there is room before it. -/
theorem Holds.ask_other (h : s.Holds place key n asked) (hk : k ≠ key) (hroom : (insert k asked).card < place.room) :
    (s.ask place k).Holds place key n (insert k asked) := by
  obtain ⟨front, back, hkept, hnodup, hfront, hback, rfl⟩ := h
  have hlength := length_cons_filter (k := k) hnodup (s.numberOf place k)
  have hcons : key ∉ ((k, s.numberOf place k) :: front.filter fun e => e.1 != k).map (·.1) := by
    rintro (- | ⟨-, hmem⟩)
    · exact hk rfl
    · exact hfront (List.map_subset _ (List.filter_subset_self _) hmem)
  refine ⟨(k, s.numberOf place k) :: front.filter fun e => e.1 != k,
    (back.filter fun e => e.1 != k).take (place.room - (insert k (front.map (·.1)).toFinset).card - 1), ?_,
    nodup_cons_filter hnodup _, hcons, fun hmem => ?_, toFinset_cons_filter front _⟩
  · have hsplit : place.room - (insert k (front.map (·.1)).toFinset).card =
        (place.room - (insert k (front.map (·.1)).toFinset).card - 1) + 1 := by omega
    rw [kept_ask_self, hkept, keep_append hk, List.take_append, List.take_of_length_le (by omega), hlength, hsplit]
    rfl
  · exact hback (List.map_subset _ (fun e he => (List.mem_filter.mp (List.mem_of_mem_take he)).1) hmem)

/-- A zone is displaced when the keys before it take up the room. -/
theorem Holds.lost (h : s.Holds place key n asked) (hk : k ≠ key) (hroom : place.room ≤ (insert k asked).card) :
    (s.ask place k).Lost place key n := by
  obtain ⟨front, back, hkept, hnodup, hfront, -, rfl⟩ := h
  have hstands : (key, n) ∈ s.kept place := by simp [hkept]
  refine ⟨(lt_next hstands).trans (s.next_lt_ask place k), fun hmem => ?_⟩
  rw [kept_ask_self, hkept, keep_append hk, List.take_append_of_le_length (by rwa [length_cons_filter hnodup])] at hmem
  rcases List.mem_cons.mp (List.mem_of_mem_take hmem) with heq | hmem
  · exact hk (congrArg Prod.fst heq).symm
  · exact hfront (List.mem_map.mpr ⟨_, (List.mem_filter.mp hmem).1, rfl⟩)

/-- What is displaced never comes back. -/
theorem Lost.ask (h : s.Lost place key n) (k : String) : (s.ask place k).Lost place key n := by
  refine ⟨h.given.trans (s.next_lt_ask place k), fun hmem => ?_⟩
  rw [kept_ask_self] at hmem
  rcases List.mem_cons.mp (List.mem_of_mem_take hmem) with heq | hmem
  · obtain ⟨rfl, hn⟩ := Prod.mk.inj heq
    exact h.numberOf_ne hn.symm
  · exact h.absent (List.mem_filter.mp hmem).1

theorem Holds.of_kept {t : ZoneStore} (h : s.Holds place key n asked) (hkept : t.kept place = s.kept place) :
    t.Holds place key n asked := by
  unfold Holds
  rw [hkept]
  exact h

theorem Lost.of_kept {t : ZoneStore} (h : s.Lost place key n) (hkept : t.kept place = s.kept place)
    (hnext : s.next ≤ t.next) : t.Lost place key n :=
  ⟨h.given.trans_le hnext, hkept ▸ h.absent⟩

end ZoneStore

/-! ### Names that are looked up -/

namespace Host

variable {h : Host} {name : String} {place : ZonePlace} {names : List String}

/-- The machine after names were looked up, one after another. -/
def lookAll (h : Host) (names : List String) : Host := names.foldl look h

/-- The names of a place among some. -/
def ofPlace (h : Host) (place : ZonePlace) (names : List String) : Finset String :=
  (names.filter fun name => h.place? name = some place).toFinset

/-- The zone of a name is displaced while other names are looked up: at some stretch without the name there are as many
    different names of its place as there is room for. -/
def Displaced (h : Host) (name : String) (names : List String) : Prop :=
  ∃ place stretch, h.place? name = some place ∧ stretch <:+: names ∧ name ∉ stretch ∧
    place.room ≤ (h.ofPlace place stretch).card

theorem lookAll_concat (h : Host) (names : List String) (name : String) :
    h.lookAll (names ++ [name]) = (h.lookAll names).look name :=
  List.foldl_append

theorem lookAll_sameFiles (h : Host) (names : List String) : (h.lookAll names).SameFiles h := by
  induction names using List.reverseRecOn with
  | nil => exact .rfl
  | append_singleton names name ih =>
    rw [lookAll_concat]
    exact (look_sameFiles _ name).trans ih

theorem look_zones_of_place (hplace : h.place? name = some place) : (h.look name).zones = h.zones.ask place name := by
  simp only [look, hplace]

/-- The places are apart. -/
theorem look_zones_of_place_ne (hplace : h.place? name ≠ some place) :
    (h.look name).zones.kept place = h.zones.kept place ∧ h.zones.next ≤ (h.look name).zones.next := by
  unfold look
  split
  · rename_i other hother
    exact ⟨ZoneStore.kept_ask_other fun heq => hplace (hother.trans (congrArg some heq.symm)), (ZoneStore.next_lt_ask _ _ _).le⟩
  · exact ⟨rfl, le_rfl⟩

theorem SameFiles.place? {g : Host} (hfiles : g.SameFiles h) (name : String) : g.place? name = h.place? name := by
  unfold Host.place?
  rw [hfiles.found]

/-- What was looked up since a name was looked up last. -/
def since (name : String) (names : List String) : List String := names.rtakeWhile (· ≠ name)

theorem since_concat_self (name : String) (names : List String) : since name (names ++ [name]) = [] :=
  List.rtakeWhile_concat_neg _ _ _ (by simp)

theorem since_concat {other : String} (hother : other ≠ name) (names : List String) :
    since name (names ++ [other]) = since name names ++ [other] :=
  List.rtakeWhile_concat_pos _ _ _ (by simpa using hother)

theorem not_mem_since (name : String) (names : List String) : name ∉ since name names := fun hmem => by
  simpa using List.mem_rtakeWhile_imp hmem

/-- It is the longest end without the name. -/
theorem subset_since {stretch : List String} (hend : stretch <:+ names) (hname : name ∉ stretch) :
    stretch ⊆ since name names := by
  obtain ⟨before, rfl⟩ := hend
  have hall : ∀ x ∈ stretch.reverse, decide (x ≠ name) = true := fun x hx =>
    decide_eq_true fun heq => hname (heq ▸ List.mem_reverse.mp hx)
  intro x hx
  unfold since List.rtakeWhile
  rw [List.reverse_append, List.takeWhile_append_of_pos hall, List.mem_reverse]
  exact List.mem_append_left _ (List.mem_reverse.mpr hx)

theorem mem_ofPlace {x : String} : x ∈ h.ofPlace place names ↔ x ∈ names ∧ h.place? x = some place := by
  simp [ofPlace]

theorem ofPlace_mono {some more : List String} (hmore : some ⊆ more) : h.ofPlace place some ⊆ h.ofPlace place more :=
  fun _ hx => mem_ofPlace.mpr ⟨hmore (mem_ofPlace.mp hx).1, (mem_ofPlace.mp hx).2⟩

theorem ofPlace_concat_self {other : String} (hplace : h.place? other = some place) (names : List String) :
    h.ofPlace place (names ++ [other]) = insert other (h.ofPlace place names) := by
  ext x
  simp only [Finset.mem_insert, mem_ofPlace, List.mem_append, List.mem_singleton]
  constructor
  · rintro ⟨hx | rfl, hat⟩
    · exact Or.inr ⟨hx, hat⟩
    · exact Or.inl rfl
  · rintro (rfl | ⟨hx, hat⟩)
    · exact ⟨Or.inr rfl, hplace⟩
    · exact ⟨Or.inl hx, hat⟩

theorem ofPlace_concat_other {other : String} (hplace : h.place? other ≠ some place) (names : List String) :
    h.ofPlace place (names ++ [other]) = h.ofPlace place names := by
  ext x
  simp only [mem_ofPlace, List.mem_append, List.mem_singleton]
  constructor
  · rintro ⟨hx | rfl, hat⟩
    · exact ⟨hx, hat⟩
    · exact absurd hat hplace
  · exact fun ⟨hx, hat⟩ => ⟨Or.inl hx, hat⟩

theorem displaced_of_since (hplace : h.place? name = some place)
    (hroom : place.room ≤ (h.ofPlace place (since name names)).card) : h.Displaced name names :=
  ⟨place, _, hplace, (List.rtakeWhile_suffix _ _).isInfix, not_mem_since name names, hroom⟩

/-- A name more displaces a zone if it does so together with what was looked up since. -/
theorem displaced_concat {other : String} (hplace : h.place? name = some place) :
    h.Displaced name (names ++ [other]) ↔
      h.Displaced name names ∨ place.room ≤ (h.ofPlace place (since name (names ++ [other]))).card := by
  constructor
  · rintro ⟨p, stretch, hp, hinfix, hname, hroom⟩
    obtain rfl : place = p := Option.some.inj (hplace.symm.trans hp)
    rcases List.infix_concat_iff.mp hinfix with hend | hinfix
    · exact Or.inr (hroom.trans (Finset.card_le_card (ofPlace_mono (subset_since hend hname))))
    · exact Or.inl ⟨place, stretch, hp, hinfix, hname, hroom⟩
  · rintro (⟨p, stretch, hp, hinfix, hname, hroom⟩ | hroom)
    · exact ⟨p, stretch, hp, hinfix.trans (List.infix_append' [] names [other]), hname, hroom⟩
    · exact displaced_of_since hplace hroom

theorem not_displaced_nil : ¬h.Displaced name [] := by
  rintro ⟨place, stretch, -, hinfix, -, hroom⟩
  obtain rfl := List.infix_nil.mp hinfix
  cases place <;> simp [ofPlace, ZonePlace.room] at hroom

theorem room_pos (place : ZonePlace) : 0 < place.room := by
  cases place <;> decide

/-- While names are looked up, the zone of a name is held, with those that were looked up since before it, until it is
    displaced. -/
theorem holds_or_lost (hplace : h.place? name = some place) (names : List String) :
    ¬h.Displaced name names ∧ ((h.look name).lookAll names).zones.Holds place name (h.zones.numberOf place name)
        (h.ofPlace place (since name names)) ∨
      h.Displaced name names ∧ ((h.look name).lookAll names).zones.Lost place name (h.zones.numberOf place name) := by
  induction names using List.reverseRecOn with
  | nil =>
    refine Or.inl ⟨not_displaced_nil, ?_⟩
    rw [lookAll, List.foldl_nil, look_zones_of_place hplace]
    exact h.zones.holds_ask_self place name
  | append_singleton names other ih =>
    have hfiles : ((h.look name).lookAll names).SameFiles h :=
      (lookAll_sameFiles _ names).trans (look_sameFiles h name)
    rw [displaced_concat hplace, lookAll_concat]
    by_cases hother : other = name
    · -- The name itself brings its zone to the front again.
      subst hother
      rw [look_zones_of_place ((hfiles.place? other).trans hplace), since_concat_self]
      rcases ih with ⟨hstays, hholds⟩ | ⟨hdisplaced, hlost⟩
      · have hagain := ZoneStore.holds_ask_self ((h.look other).lookAll names).zones place other
        rw [hholds.numberOf] at hagain
        exact Or.inl ⟨not_or.mpr ⟨hstays, Nat.not_le_of_lt (room_pos place)⟩, hagain⟩
      · exact Or.inr ⟨Or.inl hdisplaced, hlost.ask other⟩
    rw [since_concat hother]
    by_cases hat : h.place? other = some place
    · rw [look_zones_of_place ((hfiles.place? other).trans hat), ofPlace_concat_self hat]
      rcases ih with ⟨hstays, hholds⟩ | ⟨hdisplaced, hlost⟩
      · by_cases hroom : place.room ≤ (insert other (h.ofPlace place (since name names))).card
        · exact Or.inr ⟨Or.inr hroom, hholds.lost hother hroom⟩
        · exact Or.inl ⟨not_or.mpr ⟨hstays, hroom⟩, hholds.ask_other hother (not_le.mp hroom)⟩
      · exact Or.inr ⟨Or.inl hdisplaced, hlost.ask other⟩
    · -- A name of the other place, or of none, leaves this one as it is.
      have hapart : ((h.look name).lookAll names).place? other ≠ some place := by rwa [hfiles.place?]
      have hzones := look_zones_of_place_ne hapart
      rw [ofPlace_concat_other hat]
      rcases ih with ⟨hstays, hholds⟩ | ⟨hdisplaced, hlost⟩
      · exact Or.inl ⟨not_or.mpr ⟨hstays, fun hroom => hstays (displaced_of_since hplace hroom)⟩, hholds.of_kept hzones.1⟩
      · exact Or.inr ⟨Or.inl hdisplaced, hlost.of_kept hzones.1 hzones.2⟩

/-- Right after it was looked up a name means the zone of before. -/
theorem zone_look {f : NamedZone} (hf : h.found name = .ok (some f)) :
    f.zone (h.look name).zones name = f.zone h.zones name := by
  cases f with
  | fixed z => rfl
  | kept place t =>
    have hplace : h.place? name = some place := by simp only [place?, hf]
    simp only [NamedZone.zone, look_zones_of_place hplace, (h.zones.holds_ask_self place name).numberOf]

/-- A name means the zone of before as long as that is not displaced, and then another one, of its own number. -/
theorem zone_lookAll_iff {f : NamedZone} (hf : h.found name = .ok (some f)) (names : List String) :
    (f.zone ((h.look name).lookAll names).zones name).same (f.zone h.zones name) = true ↔ ¬h.Displaced name names := by
  cases f with
  | fixed z =>
    have hplace : h.place? name = none := by simp only [place?, hf]
    have hstays : ¬h.Displaced name names := fun ⟨_, _, hat, _⟩ => nomatch hplace.symm.trans hat
    exact iff_of_true (same_of_found hf h.zones) hstays
  | kept place t =>
    have hplace : h.place? name = some place := by simp only [place?, hf]
    simp only [NamedZone.zone, Zone.same, Zone.shares, beq_self_eq_true, Bool.and_true, beq_iff_eq]
    rcases holds_or_lost hplace names with ⟨hstays, hholds⟩ | ⟨hdisplaced, hlost⟩
    · exact iff_of_true hholds.numberOf hstays
    · exact iff_of_false hlost.numberOf_ne (not_not_intro hdisplaced)

end Host
end JobScheduling
