/-!
# Texts that are close to each other

How much two texts have in common is counted block by block: the longest common block, and then
what the parts before and after it have in common.  Of several longest blocks the one that
starts first counts, in the first text and then in the second.

* `commonStart a b`   the characters that two texts start with in common;
* `longestBlock a b`  the longest common block: its two places and its length;
* `matched a b`       the characters of all common blocks;
* `closeTo word ws`   the words that are at least as close to `word` as is needed to suggest them.
-/

namespace SampleTypes.Text

/-- the number of characters that two texts start with in common -/
def commonStart : List Char → List Char → Nat
  | a :: as, b :: bs => if a = b then commonStart as bs + 1 else 0
  | _, _ => 0

/-- a common block: its places in the two texts, and its length -/
structure Block where
  first : Nat
  second : Nat
  length : Nat

/-- the longer of two blocks, the earlier one if they are equally long -/
def Block.longer (x y : Block) : Block := if x.length < y.length then y else x

/-- the longest common block that starts at the place `i` of the first text -/
def longestAt (i : Nat) (a : List Char) : Nat → List Char → Block
  | j, [] => ⟨i, j, 0⟩
  | j, b :: bs => Block.longer ⟨i, j, commonStart a (b :: bs)⟩ (longestAt i a (j + 1) bs)

/-- the longest common block that starts at the place `i` of the first text or later -/
def longestFrom (b : List Char) : Nat → List Char → Block
  | i, [] => ⟨i, 0, 0⟩
  | i, c :: cs => Block.longer (longestAt i (c :: cs) 0 b) (longestFrom b (i + 1) cs)

/-- the longest common block of two texts -/
def longestBlock (a b : List Char) : Block := longestFrom b 0 a

/-- the characters of all common blocks, to a depth -/
def matchedTo : Nat → List Char → List Char → Nat
  | 0, _, _ => 0
  | depth + 1, a, b =>
    let m := longestBlock a b
    if m.length = 0 then 0
    else
      matchedTo depth (a.take m.first) (b.take m.second) + m.length +
        matchedTo depth (a.drop (m.first + m.length)) (b.drop (m.second + m.length))

/-- the characters of all common blocks; every block leaves less of the first text -/
def matched (a b : List Char) : Nat := matchedTo a.length a b

/-- a word with its closeness as a fraction -/
structure Closeness where
  word : String
  common : Nat
  total : Nat

/-- how close a word is to another one -/
def closeness (word w : String) : Closeness :=
  ⟨w, matched w.toList word.toList, w.length + word.length⟩

/-- close enough to be suggested: three fifths of the characters lie in common blocks -/
def Closeness.isEnough (c : Closeness) : Bool := 3 * c.total ≤ 10 * c.common

/-- whether the first of two words is at least as close, or as great if they are equally close -/
def Closeness.precedes (x y : Closeness) : Bool :=
  let a := x.common * y.total
  let b := y.common * x.total
  b < a || a == b && decide (y.word ≤ x.word)

/-- at most three words that are close to a word, sorted -/
def closeTo (word : String) (ws : List String) : List String :=
  let close := (ws.map (closeness word)).filter (·.isEnough)
  let best := ((close.mergeSort Closeness.precedes).take 3).map (·.word)
  best.mergeSort fun a b => decide (a ≤ b)

end SampleTypes.Text
