/-
  BracketBalance.Text.Pieces — cutting a text at a separator.

  `pieces` cuts at every occurrence of one character, so a text with n of them
  has n + 1 pieces, empty ones included. `trim` drops the blanks at both ends.
-/

import BracketBalance.Text.Blank

namespace BracketBalance

/-- The pieces of a text between the separators; there is always at least one. -/
def pieces (sep : Char) (t : List Char) : List (List Char) :=
  t.foldr
    (fun c ps =>
      if c = sep then [] :: ps
      else match ps with
        | [] => [[c]]
        | p :: ps => (c :: p) :: ps)
    [[]]

@[simp] theorem pieces_nil (sep : Char) : pieces sep [] = [[]] := rfl

theorem pieces_ne_nil (sep : Char) (t : List Char) : pieces sep t ≠ [] := by
  cases t with
  | nil => simp
  | cons c t =>
    simp only [pieces, List.foldr_cons]
    split
    · simp
    · split <;> simp

/-- Without the blanks at both ends. -/
def trim (t : List Char) : List Char :=
  ((t.dropWhile isBlank).reverse.dropWhile isBlank).reverse

end BracketBalance
