/-!
# Bytes in base 64

Four digits of six bits hold three bytes.  Characters that are neither digits nor equals signs do
not count.  Two or three digits of a last group are followed by as many equals signs as digits
lack; after them nothing is read.

* `base64Value? c`   the value of a digit;
* `base64Bytes? cs`  the bytes that the characters write.
-/

namespace SampleTypes.Text

/-- the value of a digit -/
def base64Value? (c : Char) : Option Nat :=
  let n := c.toNat
  if 'A' ≤ c ∧ c ≤ 'Z' then some (n - 65)
  else if 'a' ≤ c ∧ c ≤ 'z' then some (n - 71)
  else if '0' ≤ c ∧ c ≤ '9' then some (n + 4)
  else if c = '+' then some 62
  else if c = '/' then some 63
  else none

/-- the byte that a digit completes, if it does, after the last digit of its group -/
def base64Byte (place last digit : Nat) : List Nat :=
  match place with
  | 1 => [(last * 4 + digit / 16) % 256]
  | 2 => [(last * 16 + digit / 4) % 256]
  | 3 => [(last * 64 + digit) % 256]
  | _ => []

/-- the bytes of the characters from a place in a group on, after its last digit and `pads` equals
signs -/
def base64From (place last pads : Nat) : List Char → Option (List Nat)
  | [] => if place = 0 then some [] else none
  | c :: cs =>
    if c = '=' then
      if 2 ≤ place then
        if 4 ≤ place + pads + 1 then some [] else base64From place last (pads + 1) cs
      else base64From place last pads cs
    else match base64Value? c with
      | none => base64From place last pads cs
      | some d => (base64From ((place + 1) % 4) d 0 cs).map (base64Byte place last d ++ ·)

/-- the bytes that the characters write -/
def base64Bytes? (cs : List Char) : Option (List Nat) := base64From 0 0 0 cs

end SampleTypes.Text
