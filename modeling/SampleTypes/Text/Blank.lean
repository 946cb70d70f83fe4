/-!
# Blank characters

* `isBlank c`    white space and the separator controls U+001C to U+001F;
* `isSpacing c`  white space alone;
* `trimWith p`   a text without its leading and trailing characters in `p`.
-/

namespace SampleTypes.Text

/-- white space in the sense of the Unicode property of that name -/
def isSpacing (c : Char) : Bool :=
  let n := c.toNat
  (9 ≤ n && n ≤ 13) || n == 0x20 || n == 0x85 || n == 0xa0 || n == 0x1680 ||
    (0x2000 ≤ n && n ≤ 0x200a) || n == 0x2028 || n == 0x2029 || n == 0x202f ||
    n == 0x205f || n == 0x3000

/-- white space, or one of the four information separators -/
def isBlank (c : Char) : Bool :=
  isSpacing c || (0x1c ≤ c.toNat && c.toNat ≤ 0x1f)

/-- the characters without the run in `p` at their end -/
def dropEndWhile (p : Char → Bool) (cs : List Char) : List Char :=
  (cs.reverse.dropWhile p).reverse

/-- the characters without the runs in `p` at both ends -/
def trimWith (p : Char → Bool) (cs : List Char) : List Char :=
  dropEndWhile p (cs.dropWhile p)

/-- a text without the blanks around it -/
def trim (s : String) : String := String.ofList (trimWith isBlank s.toList)

theorem dropEndWhile_append_of_neg {p : Char → Bool} {c : Char} (cs : List Char)
    (h : p c = false) : dropEndWhile p (cs ++ [c]) = cs ++ [c] := by
  simp [dropEndWhile, h]

end SampleTypes.Text
