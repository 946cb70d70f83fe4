import SampleTypes.Proofs.Json.Structure
import SampleTypes.Proofs.Number.Text

/-!
# The text of a value is printable

The text of a value on one line uses the characters U+0020 to U+007E only, so it holds no line
end; and the text of a record stands between its braces.

* `isLiteralChar_of_mem_literalChars`   the literals of strings;
* `isLiteralChar_of_mem_chars`          the texts of values;
* `chars_record_ends`                 the ends of the text of a record.
-/

namespace SampleTypes.Text

/-- the characters that literals use, U+0020 to U+007E -/
def isLiteralChar (c : Char) : Bool := 0x20 ≤ c.toNat && c.toNat ≤ 0x7e

theorem isLiteralChar_iff {c : Char} :
    isLiteralChar c = true ↔ 0x20 ≤ c.toNat ∧ c.toNat ≤ 0x7e := by
  rw [isLiteralChar, Bool.and_eq_true, decide_eq_true_eq, decide_eq_true_eq]

theorem isLiteralChar_hexDigit (n : Nat) : isLiteralChar (hexDigit n) = true := by
  have key : ∀ d : Fin 16, isLiteralChar (hexDigit d.val) = true := by decide
  have hd : hexDigit (n % 16) = hexDigit n := by simp [hexDigit]
  rw [← hd]
  exact key ⟨n % 16, Nat.mod_lt n (by decide)⟩

theorem isLiteralChar_of_mem_hexFixed {w n : Nat} {c : Char} (h : c ∈ hexFixed w n) :
    isLiteralChar c = true := by
  induction w generalizing n with
  | zero => simp [hexFixed] at h
  | succ w ih =>
    rcases List.mem_append.mp h with h | h
    · exact ih h
    · rw [List.mem_singleton.mp h]
      exact isLiteralChar_hexDigit n

theorem isLiteralChar_of_mem_escape {c d : Char} (h : d ∈ escape c) : isLiteralChar d = true := by
  have hshort : ∀ e, isLiteralChar e = true → d ∈ ['\\', e] → isLiteralChar d = true := by
    intro e he hd
    rcases List.mem_pair.mp hd with rfl | rfl
    · rfl
    · exact he
  unfold escape at h
  -- a quote, a backslash and five controls have escapes of two characters
  iterate 7
    split at h
    · exact hshort _ rfl h
  split at h
  · next hc =>
    rw [List.mem_singleton.mp h]
    exact isLiteralChar_iff.mpr hc
  · obtain ⟨n, -, h⟩ := List.mem_flatMap.mp h
    rcases List.mem_cons.mp h with rfl | h
    · rfl
    rcases List.mem_cons.mp h with rfl | h
    · rfl
    · exact isLiteralChar_of_mem_hexFixed h

theorem isLiteralChar_of_mem_literalChars {cs : List Char} {d : Char} (h : d ∈ literalChars cs) :
    isLiteralChar d = true := by
  rcases List.mem_cons.mp h with rfl | h
  · rfl
  rcases List.mem_append.mp h with h | h
  · obtain ⟨c, -, h⟩ := List.mem_flatMap.mp h
    exact isLiteralChar_of_mem_escape h
  · rw [List.mem_singleton.mp h]
    rfl

theorem isLiteralChar_of_isNumberChar {c : Char} (h : Number.isNumberChar c = true) :
    isLiteralChar c = true := by
  by_cases hd : c.isDigit = true
  · rw [Char.isDigit, Bool.and_eq_true, decide_eq_true_eq, decide_eq_true_eq] at hd
    have hlow : 48 ≤ c.toNat := UInt32.le_iff_toNat_le.mp hd.1
    have hhigh : c.toNat ≤ 57 := UInt32.le_iff_toNat_le.mp hd.2
    exact isLiteralChar_iff.mpr ⟨by omega, by omega⟩
  · -- one of the other characters of number texts
    have hmem : c ∈ "-.eNI+anfity".toList := by
      simp only [Number.isNumberChar, Number.isIntChar, Number.isMark, hd] at h
      simpa [or_assoc] using h
    exact List.all_eq_true.mp (show "-.eNI+anfity".toList.all isLiteralChar = true from rfl) c hmem

end SampleTypes.Text

namespace SampleTypes.Json

open Text (isLiteralChar)

theorem mem_joinWith {sep : List Char} {ts : List (List Char)} {c : Char}
    (h : c ∈ joinWith sep ts) : c ∈ sep ∨ ∃ t ∈ ts, c ∈ t := by
  induction ts with
  | nil => simp [joinWith] at h
  | cons t ts ih =>
    cases ts with
    | nil => exact .inr ⟨t, List.mem_cons_self, h⟩
    | cons u ts =>
      rw [joinWith_cons_cons, List.mem_append, List.mem_append] at h
      rcases h with (h | h) | h
      · exact .inr ⟨t, List.mem_cons_self, h⟩
      · exact .inl h
      · rcases ih h with h | ⟨v, hv, h⟩
        · exact .inl h
        · exact .inr ⟨v, List.mem_cons_of_mem t hv, h⟩

/-- parts between brackets -/
theorem isLiteralChar_of_mem_between {opening closing c : Char} {ts : List (List Char)}
    (hopening : isLiteralChar opening = true) (hclosing : isLiteralChar closing = true)
    (hts : ∀ t ∈ ts, ∀ d ∈ t, isLiteralChar d = true)
    (h : c ∈ opening :: joinWith [',', ' '] ts ++ [closing]) : isLiteralChar c = true := by
  rcases List.mem_append.mp h with h | h
  · rcases List.mem_cons.mp h with rfl | h
    · exact hopening
    rcases mem_joinWith h with h | ⟨t, ht, h⟩
    · rcases List.mem_pair.mp h with rfl | rfl <;> rfl
    · exact hts t ht c h
  · rw [List.mem_singleton.mp h]
    exact hclosing

theorem isLiteralChar_of_mem_fieldChars {p : String × List Char} {c : Char}
    (hp : ∀ d ∈ p.2, isLiteralChar d = true) (h : c ∈ fieldChars p) :
    isLiteralChar c = true := by
  rcases List.mem_append.mp h with h | h
  · rcases List.mem_append.mp h with h | h
    · exact Text.isLiteralChar_of_mem_literalChars h
    · rcases List.mem_pair.mp h with rfl | rfl <;> rfl
  · exact hp c h

theorem isLiteralChar_of_mem_chars (v : Json) : ∀ c ∈ chars id v, isLiteralChar c = true := by
  induction v using Json.induction with
  | null => exact List.all_eq_true.mp rfl
  | bool b => cases b <;> exact List.all_eq_true.mp rfl
  | int n =>
    intro c hc
    have hint : Number.isIntChar c = true := Number.isIntChar_of_mem hc
    exact Text.isLiteralChar_of_isNumberChar (by simp [Number.isNumberChar, hint])
  | float x =>
    intro c hc
    exact Text.isLiteralChar_of_isNumberChar ((Number.doubleText_text x).1 c hc)
  | str s =>
    intro c hc
    exact Text.isLiteralChar_of_mem_literalChars hc
  | arr xs ih =>
    intro c hc
    rw [chars_array] at hc
    refine isLiteralChar_of_mem_between rfl rfl (fun t ht => ?_) hc
    obtain ⟨x, hx, rfl⟩ := List.mem_map.mp ht
    exact ih x hx
  | obj fs ih =>
    intro c hc
    rw [chars_record] at hc
    refine isLiteralChar_of_mem_between rfl rfl (fun t ht d hd => ?_) hc
    obtain ⟨q, hq, rfl⟩ := List.mem_map.mp ht
    obtain ⟨p, hp, rfl⟩ := List.mem_map.mp (show q ∈ fs.map _ from hq)
    exact isLiteralChar_of_mem_fieldChars (ih p hp) hd

theorem notMem_chars {c : Char} (hc : isLiteralChar c = false) (v : Json) : c ∉ chars id v := by
  intro h
  rw [isLiteralChar_of_mem_chars v c h] at hc
  cases hc

theorem chars_record_ends (fs : Record) :
    ∃ inner, chars id (.obj fs) = '\x7b' :: (inner ++ ['\x7d']) := by
  rw [chars_record]
  exact ⟨_, rfl⟩

end SampleTypes.Json
