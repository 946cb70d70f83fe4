/-!
# Lines

* `unifyLineEnds cs`  the text with every line end (CR LF, CR alone, LF alone) as one LF;
* `lines cs`          the pieces between the line ends, the one after the last included;
* `position cs n`     line and column, both from one, of the character at offset `n`.
-/

namespace SampleTypes.Text

/-- the text with every line end written as LF -/
def unifyLineEnds : List Char → List Char
  | [] => []
  | '\r' :: '\n' :: cs => '\n' :: unifyLineEnds cs
  | c :: cs => (if c = '\r' then '\n' else c) :: unifyLineEnds cs

/-- the pieces between separators, of which there is always at least one -/
def splitAt (sep : Char) : List Char → List (List Char)
  | [] => [[]]
  | c :: cs =>
    if c = sep then [] :: splitAt sep cs
    else match splitAt sep cs with
      | [] => [[c]]
      | l :: ls => (c :: l) :: ls

/-- the pieces between line ends -/
def lines (cs : List Char) : List (List Char) := splitAt '\n' cs

/-- line and column reached from `(line, column)` after the characters -/
def advance : Nat × Nat → List Char → Nat × Nat
  | p, [] => p
  | (line, column), c :: cs =>
    if c = '\n' then advance (line + 1, 1) cs else advance (line, column + 1) cs

/-- line and column, from one, of the character at an offset -/
def position (cs : List Char) (offset : Nat) : Nat × Nat := advance (1, 1) (cs.take offset)

theorem splitAt_ne_nil (sep : Char) (cs : List Char) : splitAt sep cs ≠ [] := by
  cases cs with
  | nil => simp [splitAt]
  | cons c cs =>
    unfold splitAt
    split
    · simp
    · split <;> simp

end SampleTypes.Text
