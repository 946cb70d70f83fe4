/-!
# Hexadecimal digits

* `hexDigit n`      the lower-case digit of `n` (of its last four bits);
* `hexFixed w n`    the last `w` digits of `n`, most significant first;
* `hexValue? c`     the value of a digit of either case;
* `hexValue_hexDigit`  reading a written digit gives the number back.
-/

namespace SampleTypes.Text

/-- the lower-case digit of the last four bits -/
def hexDigit (n : Nat) : Char :=
  let d := n % 16
  if d < 10 then Char.ofNat (48 + d) else Char.ofNat (87 + d)

/-- the last `w` digits, most significant first -/
def hexFixed : Nat → Nat → List Char
  | 0, _ => []
  | w + 1, n => hexFixed w (n / 16) ++ [hexDigit n]

/-- the value of a hexadecimal digit -/
def hexValue? (c : Char) : Option Nat :=
  let n := c.toNat
  if 48 ≤ n && n ≤ 57 then some (n - 48)
  else if 97 ≤ n && n ≤ 102 then some (n - 87)
  else if 65 ≤ n && n ≤ 70 then some (n - 55)
  else none

/-- the number written by hexadecimal digits, if all are digits -/
def hexNumber? (cs : List Char) : Option Nat :=
  cs.foldl (fun acc c => do return 16 * (← acc) + (← hexValue? c)) (some 0)

theorem length_hexFixed (w n : Nat) : (hexFixed w n).length = w := by
  induction w generalizing n with
  | zero => rfl
  | succ w ih => simp [hexFixed, ih]

theorem hexValue_hexDigit (n : Nat) : hexValue? (hexDigit n) = some (n % 16) := by
  have key : ∀ d : Fin 16, hexValue? (hexDigit d.val) = some d.val := by decide
  have h := key ⟨n % 16, Nat.mod_lt _ (by decide)⟩
  have hd : hexDigit (n % 16) = hexDigit n := by simp [hexDigit]
  simpa [hd] using h

end SampleTypes.Text
