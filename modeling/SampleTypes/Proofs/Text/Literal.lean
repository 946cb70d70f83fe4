import SampleTypes.Text.Literal

/-!
# String literals can be read back

The escapes of characters form a code: from a text that begins with one, the character and the
rest of the text are known.  So a literal at the start of a text determines the string and where
the literal ends.

* `Escaped c cs`             the four forms of an escape;
* `escape_append_inj`        one escape at the start of a text;
* `literalChars_append_inj`  a whole literal.
-/

namespace SampleTypes.Text

/-! ## hexadecimal digits -/

theorem hexFixed_inj {w m n : Nat} (h : hexFixed w m = hexFixed w n) :
    m % Nat.pow 16 w = n % Nat.pow 16 w := by
  induction w generalizing m n with
  | zero =>
    show m % 1 = n % 1
    rw [Nat.mod_one, Nat.mod_one]
  | succ w ih =>
    have hlen : (hexFixed w (m / 16)).length = (hexFixed w (n / 16)).length := by
      rw [length_hexFixed, length_hexFixed]
    obtain ⟨hd, hl⟩ := List.append_inj h hlen
    have hlast : m % 16 = n % 16 := by
      have hv := congrArg hexValue? (List.cons.inj hl).1
      rw [hexValue_hexDigit, hexValue_hexDigit] at hv
      exact Option.some.inj hv
    have hrest := ih hd
    show m % (Nat.pow 16 w * 16) = n % (Nat.pow 16 w * 16)
    rw [Nat.mul_comm, Nat.mod_mul, Nat.mod_mul, hlast, hrest]

theorem escapeUnit_append_inj {m n : Nat} (hm : m < 0x10000) (hn : n < 0x10000) {a b : List Char}
    (h : escapeUnit m ++ a = escapeUnit n ++ b) : m = n ∧ a = b := by
  have h' : hexFixed 4 m ++ a = hexFixed 4 n ++ b := by
    have h1 := (List.cons.inj h).2
    exact (List.cons.inj h1).2
  have hlen : (hexFixed 4 m).length = (hexFixed 4 n).length := by
    rw [length_hexFixed, length_hexFixed]
  obtain ⟨h1, h2⟩ := List.append_inj h' hlen
  have hmod := hexFixed_inj h1
  have e : Nat.pow 16 4 = 0x10000 := rfl
  rw [e, Nat.mod_eq_of_lt hm, Nat.mod_eq_of_lt hn] at hmod
  exact ⟨hmod, h2⟩

/-! ## escapes -/

/-- the character that a backslash and `e` stand for -/
def shortOf (e : Char) : Char :=
  if e = 'n' then '\n' else if e = 'r' then '\r' else if e = 't' then '\t'
  else if e = 'f' then '\x0c' else if e = 'b' then '\x08' else e

/-- the forms of an escape: the character itself, a backslash and a letter, one UTF-16 unit, or
two of them -/
inductive Escaped : Char → List Char → Prop where
  | plain (c : Char) (hb : c ≠ '\\') (hq : c ≠ '\x22') : Escaped c [c]
  | short (e : Char) (hu : e ≠ 'u') : Escaped (shortOf e) ['\\', e]
  | unit (c : Char) (h : c.toNat < 0x10000) : Escaped c (escapeUnit c.toNat)
  | units (c : Char) (h : 0x10000 ≤ c.toNat) :
      Escaped c (escapeUnit (0xd800 + (c.toNat - 0x10000) / 0x400) ++
        escapeUnit (0xdc00 + (c.toNat - 0x10000) % 0x400))

theorem escaped_escape (c : Char) : Escaped c (escape c) := by
  unfold escape
  by_cases hq : c = '\x22'
  · rw [if_pos hq, hq]
    exact .short '\x22' (by decide)
  rw [if_neg hq]
  by_cases hb : c = '\\'
  · rw [if_pos hb, hb]
    exact .short '\\' (by decide)
  rw [if_neg hb]
  by_cases hn : c = '\n'
  · rw [if_pos hn, hn]
    exact .short 'n' (by decide)
  rw [if_neg hn]
  by_cases hr : c = '\r'
  · rw [if_pos hr, hr]
    exact .short 'r' (by decide)
  rw [if_neg hr]
  by_cases ht : c = '\t'
  · rw [if_pos ht, ht]
    exact .short 't' (by decide)
  rw [if_neg ht]
  by_cases hf : c = '\x0c'
  · rw [if_pos hf, hf]
    exact .short 'f' (by decide)
  rw [if_neg hf]
  by_cases hbs : c = '\x08'
  · rw [if_pos hbs, hbs]
    exact .short 'b' (by decide)
  rw [if_neg hbs]
  split
  · exact .plain c hb hq
  · by_cases h : c.toNat < 0x10000
    · have e : (utf16 c).flatMap escapeUnit = escapeUnit c.toNat := by
        simp [utf16, h]
      rw [e]
      exact .unit c h
    · have e : (utf16 c).flatMap escapeUnit =
          escapeUnit (0xd800 + (c.toNat - 0x10000) / 0x400) ++
            escapeUnit (0xdc00 + (c.toNat - 0x10000) % 0x400) := by
        simp [utf16, h]
      rw [e]
      exact .units c (by omega)

/-- no character is half of a pair of UTF-16 units -/
theorem toNat_not_surrogate (c : Char) : c.toNat < 0xd800 ∨ 0xdfff < c.toNat ∧ c.toNat < 0x110000 :=
  c.valid

theorem escaped_append_inj {c d : Char} {x y a b : List Char} (hx : Escaped c x)
    (hy : Escaped d y) (h : x ++ a = y ++ b) : c = d ∧ a = b := by
  cases hx with
  | plain _ hb hq =>
    cases hy with
    | plain _ hb' hq' => exact List.cons.inj h
    | short e _ => exact absurd (List.cons.inj h).1 hb
    | unit _ _ => exact absurd (List.cons.inj h).1 hb
    | units _ _ => exact absurd (List.cons.inj h).1 hb
  | short e hu =>
    cases hy with
    | plain _ hb' _ => exact absurd (List.cons.inj h).1.symm hb'
    | short e' _ =>
      obtain ⟨he, hab⟩ := List.cons.inj (List.cons.inj h).2
      exact ⟨congrArg shortOf he, hab⟩
    | unit _ _ => exact absurd (List.cons.inj (List.cons.inj h).2).1 hu
    | units _ _ => exact absurd (List.cons.inj (List.cons.inj h).2).1 hu
  | unit _ hc =>
    cases hy with
    | plain _ hb' _ => exact absurd (List.cons.inj h).1.symm hb'
    | short e' hu' => exact absurd (List.cons.inj (List.cons.inj h).2).1.symm hu'
    | unit _ hd =>
      obtain ⟨hn, hab⟩ := escapeUnit_append_inj hc hd h
      exact ⟨Char.toNat_inj.mp hn, hab⟩
    | units _ hd =>
      have hv := toNat_not_surrogate c
      have hv' := toNat_not_surrogate d
      rw [List.append_assoc] at h
      obtain ⟨hn, _⟩ := escapeUnit_append_inj hc (by omega) h
      omega
  | units _ hc =>
    have hv := toNat_not_surrogate c
    have hv' := toNat_not_surrogate d
    rw [List.append_assoc] at h
    cases hy with
    | plain _ hb' _ => exact absurd (List.cons.inj h).1.symm hb'
    | short e' hu' => exact absurd (List.cons.inj (List.cons.inj h).2).1.symm hu'
    | unit _ hd =>
      obtain ⟨hn, _⟩ := escapeUnit_append_inj (by omega) hd h
      omega
    | units _ hd =>
      rw [List.append_assoc] at h
      obtain ⟨hn1, h⟩ := escapeUnit_append_inj (by omega) (by omega) h
      obtain ⟨hn2, hab⟩ := escapeUnit_append_inj (by omega) (by omega) h
      exact ⟨Char.toNat_inj.mp (by omega), hab⟩

theorem escape_append_inj {c d : Char} {a b : List Char} (h : escape c ++ a = escape d ++ b) :
    c = d ∧ a = b := escaped_append_inj (escaped_escape c) (escaped_escape d) h

/-- no escape begins with the quote that ends a literal -/
theorem escape_append_ne_quote (c : Char) (a b : List Char) : escape c ++ a ≠ '\x22' :: b := by
  have h := escaped_escape c
  generalize escape c = x at h
  intro e
  cases h with
  | plain _ _ hq => exact hq (List.cons.inj e).1
  | short _ _ => exact absurd (List.cons.inj e).1 (by decide)
  | unit _ _ => exact absurd (List.cons.inj e).1 (by decide)
  | units _ _ => exact absurd (List.cons.inj e).1 (by decide)

theorem escapes_append_inj {s t a b : List Char}
    (h : s.flatMap escape ++ '\x22' :: a = t.flatMap escape ++ '\x22' :: b) : s = t ∧ a = b := by
  induction s generalizing t with
  | nil =>
    cases t with
    | nil => exact ⟨rfl, (List.cons.inj h).2⟩
    | cons d t =>
      rw [List.flatMap_cons, List.append_assoc] at h
      exact absurd h.symm (escape_append_ne_quote d _ a)
  | cons c s ih =>
    rw [List.flatMap_cons, List.append_assoc] at h
    cases t with
    | nil => exact absurd h (escape_append_ne_quote c _ b)
    | cons d t =>
      rw [List.flatMap_cons, List.append_assoc] at h
      obtain ⟨rfl, h'⟩ := escape_append_inj h
      obtain ⟨rfl, hab⟩ := ih h'
      exact ⟨rfl, hab⟩

/-- a literal at the start of a text determines the string and the rest -/
theorem literalChars_append_inj {s t a b : List Char}
    (h : literalChars s ++ a = literalChars t ++ b) : s = t ∧ a = b := by
  rw [literalChars, literalChars, List.cons_append, List.cons_append, List.append_assoc,
    List.append_assoc] at h
  exact escapes_append_inj (List.cons.inj h).2

end SampleTypes.Text
