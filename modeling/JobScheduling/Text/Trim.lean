import JobScheduling.Text.Character

/-!
Cutting texts: trimming blanks, splitting into words, splitting at a separator. Cutting at a separator
loses nothing but the separators, and no piece holds one.
-/

namespace JobScheduling
namespace Text

/-! ### Trimming -/

/-- The text without its leading and trailing characters in `p`. -/
def trimWhile (p : Char → Bool) (s : List Char) : List Char :=
  ((s.dropWhile p).reverse.dropWhile p).reverse

/-- The text without the blanks around it. -/
def trim (s : List Char) : List Char := trimWhile isBlank s

/-- Whether a text holds blanks only, none included. -/
def allBlank (s : List Char) : Bool := s.all isBlank

/-! ### Words -/

/-- The words of a text, `cur` being the part of the current word that was read. -/
def wordsFrom (cur : List Char) : List Char → List (List Char)
  | [] => if cur.isEmpty then [] else [cur]
  | c :: s =>
    if isBlank c then
      if cur.isEmpty then wordsFrom [] s else cur :: wordsFrom [] s
    else wordsFrom (cur ++ [c]) s

/-- The maximal runs of characters that are no blanks, in order. -/
def words (s : List Char) : List (List Char) := wordsFrom [] s

/-! ### Separators -/

/-- The text before the first `sep`, and the text after it where there is one. -/
def cut (sep : Char) : List Char → List Char × Option (List Char)
  | [] => ([], none)
  | c :: s => if c = sep then ([], some s) else ((c :: (cut sep s).1), (cut sep s).2)

/-- The pieces between the separators; a text without separator is one piece. -/
def pieces (sep : Char) : List Char → List (List Char)
  | [] => [[]]
  | c :: s =>
    if c = sep then [] :: pieces sep s
    else match pieces sep s with
      | [] => [[c]]
      | p :: ps => (c :: p) :: ps

theorem pieces_ne_nil (sep : Char) : ∀ s : List Char, pieces sep s ≠ []
  | [] => by simp [pieces]
  | c :: s => by
    unfold pieces
    split
    · simp
    · split <;> simp

/-- Without a separator, all of the text is before it. -/
theorem cut_of_not_mem {sep : Char} : ∀ {s : List Char}, sep ∉ s → cut sep s = (s, none)
  | [], _ => rfl
  | c :: s, h => by
    rw [List.mem_cons, not_or] at h
    simp [cut, Ne.symm h.1, cut_of_not_mem h.2]

/-- The text up to the first separator is cut off before it. -/
theorem cut_append {sep : Char} : ∀ {s : List Char} (t : List Char), sep ∉ s →
    cut sep (s ++ sep :: t) = (s, some t)
  | [], _, _ => by simp [cut]
  | c :: s, t, h => by
    rw [List.mem_cons, not_or] at h
    simp [cut, Ne.symm h.1, cut_append t h.2]

/-- The part before the first separator holds none. -/
theorem not_mem_cut_fst (sep : Char) : ∀ s : List Char, sep ∉ (cut sep s).1
  | [] => by simp [cut]
  | c :: s => by
    unfold cut
    split
    · simp
    · rename_i h
      simp [not_mem_cut_fst sep s, Ne.symm h]

/-- No piece holds the separator. -/
theorem not_mem_of_mem_pieces {sep : Char} : ∀ {s p : List Char}, p ∈ pieces sep s → sep ∉ p
  | [], p, h => by simp_all [pieces]
  | c :: s, p, h => by
    unfold pieces at h
    split at h
    · rcases List.mem_cons.mp h with rfl | h
      · simp
      · exact not_mem_of_mem_pieces h
    · rename_i hc
      split at h
      · rename_i hs
        exact absurd hs (pieces_ne_nil sep s)
      · rename_i q qs hs
        rcases List.mem_cons.mp h with rfl | h
        · have hq : sep ∉ q := not_mem_of_mem_pieces (s := s) (by rw [hs]; simp)
          simp [hq, Ne.symm hc]
        · exact not_mem_of_mem_pieces (s := s) (by rw [hs]; simp [h])

/-- The texts one after the other, `sep` between them. -/
def join (sep : List Char) : List (List Char) → List Char
  | [] => []
  | [s] => s
  | s :: t :: rest => s ++ sep ++ join sep (t :: rest)

end Text
end JobScheduling
