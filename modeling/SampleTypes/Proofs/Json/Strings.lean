import SampleTypes.Json.Reader
import SampleTypes.Text.Literal

/-!
# A literal is read as its string

The reader of strings takes a literal apart: an escape gives a character or its UTF-16 units, and
units side by side are joined to the character again.

* `ReadAs x c`       characters that are read as parts of one character;
* `readAs_escape`    every escape is;
* `string_literal`   a literal after its opening quote, with any rest;
* `read_literal`     a literal alone is a JSON text.
-/

namespace SampleTypes

namespace Text

theorem hexNumber?_hexFixed {n : Nat} (h : n < 0x10000) : hexNumber? (hexFixed 4 n) = some n := by
  have hdigits : hexFixed 4 n = [hexDigit (n / 16 / 16 / 16), hexDigit (n / 16 / 16),
    hexDigit (n / 16), hexDigit n] := rfl
  have hsum : 16 * (16 * (16 * (n / 16 / 16 / 16 % 16) + n / 16 / 16 % 16) + n / 16 % 16) +
      n % 16 = n := by omega
  rw [hdigits]
  simp [hexNumber?, hexValue_hexDigit, hsum]

/-- a character is a unit of UTF-16 that is no half of a pair, or a pair of such halves -/
theorem utf16_cases (c : Char) :
    (c.toNat < 0x10000 ∧ utf16 c = [c.toNat] ∧ (c.toNat < 0xd800 ∨ 0xdfff < c.toNat)) ∨
    ∃ a b, utf16 c = [a, b] ∧ 0xd800 ≤ a ∧ a ≤ 0xdbff ∧ 0xdc00 ≤ b ∧ b ≤ 0xdfff ∧
      0x10000 + (a - 0xd800) * 0x400 + (b - 0xdc00) = c.toNat := by
  have hvalid : c.toNat < 0xd800 ∨ 0xdfff < c.toNat ∧ c.toNat < 0x110000 := c.valid
  by_cases h : c.toNat < 0x10000
  · refine .inl ⟨h, ?_, by omega⟩
    rw [utf16, if_pos h]
  · refine .inr ⟨0xd800 + (c.toNat - 0x10000) / 0x400, 0xdc00 + (c.toNat - 0x10000) % 0x400, ?_, ?_⟩
    · rw [utf16, if_neg h]
    · omega

end Text

namespace Json

open Text

section
variable {opening : List Char}

/-! ## reading escapes -/

/-- the characters `x`, with something behind them, are read as parts that are joined to `c` -/
def ReadAs (opening x : List Char) (c : Char) : Prop :=
  ∃ ps, (∀ qs, joinParts (ps ++ qs) = c :: joinParts qs) ∧
    ∀ rest, rest ≠ [] → parts opening (x ++ rest) =
      (parts opening rest).map fun (qs, after) => (ps ++ qs, after)

theorem parts_unit {n : Nat} (hn : n < 0x10000) {rest : List Char} (hrest : rest ≠ []) :
    parts opening (escapeUnit n ++ rest) =
      (parts opening rest).map fun (ps, after) => (.code n :: ps, after) := by
  obtain ⟨c, cs, rfl⟩ := List.exists_cons_of_ne_nil hrest
  have hnumber := hexNumber?_hexFixed hn
  have hdigits : hexFixed 4 n = [hexDigit (n / 16 / 16 / 16), hexDigit (n / 16 / 16),
    hexDigit (n / 16), hexDigit n] := rfl
  rw [hdigits] at hnumber
  rw [escapeUnit, hdigits]
  simp only [List.cons_append, List.nil_append]
  rw [parts, hnumber]

theorem readAs_short {e c : Char} (hu : e ≠ 'u') (he : shortEscape? e = some c) :
    ReadAs opening ['\\', e] c := by
  refine ⟨[.char c], fun qs => by rw [List.singleton_append, joinParts], fun rest _ => ?_⟩
  show parts opening ('\\' :: e :: rest) = _
  rw [parts]
  · rw [he]
    rfl
  · exact fun _ _ _ _ _ _ h => absurd h hu
  · exact fun h => absurd h hu

theorem readAs_plain {c : Char} (hq : c ≠ '\x22') (hb : c ≠ '\\') (hc : 0x20 ≤ c.toNat) :
    ReadAs opening [c] c := by
  refine ⟨[.char c], fun qs => by rw [List.singleton_append, joinParts], fun rest _ => ?_⟩
  show parts opening (c :: rest) = _
  rw [parts]
  · rw [if_neg hq, if_neg (by omega)]
    rfl
  all_goals simp [hb]

theorem joinParts_unit {n : Nat} (h : n < 0xd800 ∨ 0xdfff < n) (qs : List Part) :
    joinParts (.code n :: qs) = Char.ofNat n :: joinParts qs := by
  have hhigh : isHighSurrogate n = false := by
    rw [isHighSurrogate, Bool.and_eq_false_iff, decide_eq_false_iff_not, decide_eq_false_iff_not]
    omega
  have hlow : isLowSurrogate n = false := by
    rw [isLowSurrogate, Bool.and_eq_false_iff, decide_eq_false_iff_not, decide_eq_false_iff_not]
    omega
  have hchar : codeChar n = Char.ofNat n := by simp [codeChar, hhigh, hlow]
  match qs with
  | [] => simp [joinParts, hchar]
  | .char c :: qs => simp [joinParts, hchar]
  | .code m :: qs => simp [joinParts, hhigh, hchar]

theorem readAs_units (c : Char) : ReadAs opening ((utf16 c).flatMap escapeUnit) c := by
  rcases utf16_cases c with ⟨hn, hunits, hc⟩ | ⟨a, b, hunits, ha, ha', hb, hb', hsum⟩
  · refine ⟨[.code c.toNat], fun qs => ?_, fun rest hrest => ?_⟩
    · rw [List.singleton_append, joinParts_unit hc, Char.ofNat_toNat]
    · rw [hunits, List.flatMap_singleton, parts_unit hn hrest]
      rfl
  · refine ⟨[.code a, .code b], fun qs => ?_, fun rest hrest => ?_⟩
    · have hpair : (isHighSurrogate a && isLowSurrogate b) = true := by
        simp [isHighSurrogate, isLowSurrogate, ha, ha', hb, hb']
      rw [List.cons_append, List.singleton_append, joinParts, if_pos hpair, hsum, Char.ofNat_toNat]
    · have hmore : escapeUnit b ++ rest ≠ [] := by simp [hrest]
      rw [hunits, List.flatMap_cons, List.flatMap_singleton, List.append_assoc,
        parts_unit (by omega) hmore, parts_unit (by omega) hrest]
      cases parts opening rest <;> rfl

theorem readAs_escape (c : Char) : ReadAs opening (escape c) c := by
  unfold escape
  -- a quote, a backslash and five controls have escapes of two characters
  iterate 7
    split
    · next h =>
      rw [h]
      exact readAs_short (by decide) rfl
  split
  · next hq hb _ _ _ _ _ hc => exact readAs_plain hq hb hc.1
  · exact readAs_units c

/-! ## reading literals -/

theorem parts_literal (cs rest : List Char) : ∃ ps, joinParts ps = cs ∧
    parts opening (cs.flatMap escape ++ '\x22' :: rest) = .ok (ps, rest) := by
  induction cs with
  | nil => exact ⟨[], rfl, by simp [parts]⟩
  | cons c cs ih =>
    obtain ⟨qs, hjoin, hqs⟩ := ih
    have hescape : ReadAs opening (escape c) c := readAs_escape c
    obtain ⟨ps, hps, hread⟩ := hescape
    refine ⟨ps ++ qs, by rw [hps, hjoin], ?_⟩
    rw [List.flatMap_cons, List.append_assoc, hread _ (by simp), hqs]
    rfl

theorem string_literal (cs rest : List Char) :
    string opening (cs.flatMap escape ++ '\x22' :: rest) = .ok (String.ofList cs, rest) := by
  obtain ⟨ps, hjoin, hparts⟩ := @parts_literal opening cs rest
  rw [string, hparts, ← hjoin]
  rfl

end

/-- a literal alone is the JSON text of its string -/
theorem read_literal (s : String) : read (literal s) = .ok (.str s) := by
  have hchars : (literal s).toList = '\x22' :: (s.toList.flatMap escape ++ ['\x22']) := by
    rw [literal, String.toList_ofList]
    rfl
  have hvalue : ∀ n, value (n + 1) (literal s).toList = .ok (.str s, []) := by
    intro n
    rw [hchars, value, string_literal, String.ofList_toList]
    rfl
  have hspace : skipSpace (literal s).toList = (literal s).toList := by
    rw [hchars]
    rfl
  have hdocument : document (literal s).toList = .ok (.str s) := by
    rw [document, hspace, stepsFor, hvalue]
    rfl
  have hmark : (literal s).toList.head? ≠ some (Char.ofNat 0xfeff) := by
    rw [hchars]
    show some '\x22' ≠ some (Char.ofNat 0xfeff)
    decide
  rw [read, readChars, unmarked, if_neg hmark, hdocument]
  rfl

end Json

end SampleTypes
