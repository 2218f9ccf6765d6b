/-!
# Splitting at a character

A text is cut at every occurrence of one separating character. The pieces are one
more than the separators, and joining them with the separator gives the text back.
-/

namespace SearchSql.Text

/-- The pieces between the occurrences of the separator, in order. -/
def split (separator : Char) : List Char → List (List Char)
  | [] => [[]]
  | c :: rest =>
    if c = separator then
      [] :: split separator rest
    else
      match split separator rest with
      | [] => [[c]]
      | piece :: pieces => (c :: piece) :: pieces

/-- Joining puts the separator between neighbouring pieces. -/
def join (separator : Char) : List (List Char) → List Char
  | [] => []
  | [piece] => piece
  | piece :: next :: pieces => piece ++ separator :: join separator (next :: pieces)

/-- Every text has at least one piece. -/
theorem split_ne_nil (separator : Char) (cs : List Char) : split separator cs ≠ [] := by
  cases cs with
  | nil => simp [split]
  | cons c rest =>
    unfold split
    split
    · simp
    · split <;> simp

/-- There is one piece more than there are separators. -/
theorem length_split (separator : Char) (cs : List Char) :
    (split separator cs).length = cs.count separator + 1 := by
  induction cs with
  | nil => rfl
  | cons c rest ih =>
    unfold split
    by_cases h : c = separator
    · simp [h, ih]
    · rw [if_neg h, List.count_cons_of_ne (by simpa using h), ← ih]
      split
      · next heq => exact absurd heq (split_ne_nil separator rest)
      · next heq => rw [heq]; simp

/-- Joining the pieces gives the text back. -/
theorem join_split (separator : Char) (cs : List Char) :
    join separator (split separator cs) = cs := by
  induction cs with
  | nil => rfl
  | cons c rest ih =>
    unfold split
    by_cases h : c = separator
    · rw [if_pos h]
      cases hs : split separator rest with
      | nil => exact absurd hs (split_ne_nil separator rest)
      | cons piece pieces => rw [← ih, hs]; simp [join, h]
    · rw [if_neg h]
      cases hs : split separator rest with
      | nil => exact absurd hs (split_ne_nil separator rest)
      | cons piece pieces =>
        rw [hs] at ih
        cases pieces with
        | nil => simpa [join] using ih
        | cons next pieces => simpa [join] using ih

end SearchSql.Text
