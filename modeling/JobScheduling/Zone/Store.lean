/-!
Zones that are made from texts and kept for a while. Every zone that is made has a number of its own, by which it
is told from another one of the same key. Of the zones of rules and of those of files, the ones that were asked for
last are kept, as many as there is room for; one that is no longer kept is made anew when it is asked for again.
-/

namespace JobScheduling

/-- Where zones are kept: those of rules, and those of files. -/
inductive ZonePlace where
  | rule
  | file
deriving DecidableEq, Repr, Inhabited

/-- For how many zones there is room. -/
def ZonePlace.room : ZonePlace → Nat
  | rule => 64
  | file => 16

/-- The keys and numbers of the zones that are kept, the one that was asked for last first. No number is given twice. -/
structure ZoneStore where
  rules : List (String × Nat)
  files : List (String × Nat)
  next : Nat
  below : ∀ e ∈ rules ++ files, e.2 < next

instance : Inhabited ZoneStore := ⟨⟨[], [], 1, nofun⟩⟩

namespace ZoneStore

/-- The keys and numbers of the zones that are kept in one place. -/
def kept (s : ZoneStore) : ZonePlace → List (String × Nat)
  | .rule => s.rules
  | .file => s.files

theorem lt_next {s : ZoneStore} {place : ZonePlace} {e : String × Nat} (he : e ∈ s.kept place) : e.2 < s.next := by
  cases place with
  | rule => exact s.below e (List.mem_append_left s.files he)
  | file => exact s.below e (List.mem_append_right s.rules he)

/-- The number of the zone for a key: that of the one that is kept, or the next. -/
def numberOf (s : ZoneStore) (place : ZonePlace) (key : String) : Nat :=
  (((s.kept place).find? fun e => e.1 == key).map (·.2)).getD s.next

theorem numberOf_le (s : ZoneStore) (place : ZonePlace) (key : String) : s.numberOf place key ≤ s.next := by
  unfold numberOf
  cases hfind : (s.kept place).find? fun e => e.1 == key with
  | none => exact Nat.le_refl _
  | some e => exact Nat.le_of_lt (lt_next (List.mem_of_find?_eq_some hfind))

/-- What is kept of one place once the zone for a key was asked for. -/
def keep (room : Nat) (key : String) (number : Nat) (kept : List (String × Nat)) : List (String × Nat) :=
  ((key, number) :: kept.filter fun e => e.1 != key).take room

theorem lt_of_mem_keep {room number next : Nat} {key : String} {kept : List (String × Nat)} {e : String × Nat}
    (hkept : ∀ e ∈ kept, e.2 < next) (hnumber : number ≤ next) (he : e ∈ keep room key number kept) :
    e.2 < next + 1 := by
  rcases List.mem_cons.mp (List.mem_of_mem_take he) with rfl | he
  · exact Nat.lt_succ_of_le hnumber
  · exact Nat.lt_succ_of_lt (hkept e (List.mem_filter.mp he).1)

/-- The zones that are kept once the one for a key was asked for. -/
def ask (s : ZoneStore) (place : ZonePlace) (key : String) : ZoneStore :=
  match place with
  | .rule => {
      rules := keep ZonePlace.rule.room key (s.numberOf .rule key) s.rules
      files := s.files
      next := s.next + 1
      below := fun e he => by
        rcases List.mem_append.mp he with he | he
        · exact lt_of_mem_keep (fun e he => s.below e (List.mem_append_left _ he)) (s.numberOf_le .rule key) he
        · exact Nat.lt_succ_of_lt (s.below e (List.mem_append_right _ he)) }
  | .file => {
      rules := s.rules
      files := keep ZonePlace.file.room key (s.numberOf .file key) s.files
      next := s.next + 1
      below := fun e he => by
        rcases List.mem_append.mp he with he | he
        · exact Nat.lt_succ_of_lt (s.below e (List.mem_append_left _ he))
        · exact lt_of_mem_keep (fun e he => s.below e (List.mem_append_right _ he)) (s.numberOf_le .file key) he }

end ZoneStore
end JobScheduling
