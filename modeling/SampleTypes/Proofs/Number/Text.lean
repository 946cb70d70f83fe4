import SampleTypes.Json.Printer

/-!
# The characters of number texts

* `text_int_inj`           an integer is known from its text;
* `doubleText_text`        the characters that a double is written with, of which one at least is
                           none that integers are written with;
* `text_int_ne_text_double`   no text is that of both.
-/

namespace SampleTypes.Number

/-! ## integers -/

/-- the digits and the minus sign -/
def isIntChar (c : Char) : Bool := c.isDigit || c == '-'

theorem toList_text_int (n : Int) : (toString n).toList =
    if 0 ≤ n then Nat.toDigits 10 n.toNat else '-' :: Nat.toDigits 10 (-n).toNat := by
  rw [Int.toString_eq_repr, Int.repr_eq_if]
  split
  · exact Nat.toList_repr
  · rw [String.toList_append, Nat.toList_repr]
    rfl

theorem isDigit_of_mem_toDigits {n : Nat} {c : Char} (h : c ∈ Nat.toDigits 10 n) :
    c.isDigit = true := Nat.isDigit_of_mem_toDigits (by decide) (by decide) h

theorem isIntChar_of_mem {n : Int} {c : Char} (h : c ∈ (toString n).toList) :
    isIntChar c = true := by
  rw [toList_text_int] at h
  rw [isIntChar, Bool.or_eq_true]
  split at h
  · exact .inl (isDigit_of_mem_toDigits h)
  · rcases List.mem_cons.mp h with rfl | h
    · exact .inr rfl
    · exact .inl (isDigit_of_mem_toDigits h)

theorem toDigits_inj {m n : Nat} (h : Nat.toDigits 10 m = Nat.toDigits 10 n) : m = n := by
  rw [← Nat.ofDigitChars_ten_toDigits (n := m), h, Nat.ofDigitChars_ten_toDigits]

theorem text_int_inj {m n : Int} (h : (toString m).toList = (toString n).toList) : m = n := by
  have minus : ∀ {k l : Nat}, Nat.toDigits 10 k ≠ '-' :: Nat.toDigits 10 l := by
    intro k l e
    have hm : '-' ∈ Nat.toDigits 10 k := by simp [e]
    exact absurd (isDigit_of_mem_toDigits hm) (by decide)
  rw [toList_text_int, toList_text_int] at h
  by_cases hm : 0 ≤ m
  · by_cases hn : 0 ≤ n
    · rw [if_pos hm, if_pos hn] at h
      have := toDigits_inj h
      omega
    · rw [if_pos hm, if_neg hn] at h
      exact absurd h minus
  · by_cases hn : 0 ≤ n
    · rw [if_neg hm, if_pos hn] at h
      exact absurd h.symm minus
    · rw [if_neg hm, if_neg hn] at h
      have := toDigits_inj (List.cons.inj h).2
      omega

/-! ## doubles -/

/-- the characters that only doubles are written with -/
def isMark (c : Char) : Bool := c == '.' || c == 'e' || c == 'N' || c == 'I'

/-- the characters of number texts -/
def isNumberChar (c : Char) : Bool :=
  isIntChar c || isMark c || "+anfity".toList.contains c

/-- a text of number characters with a mark of a double -/
def DoubleText (cs : List Char) : Prop :=
  (∀ c ∈ cs, isNumberChar c = true) ∧ ∃ c ∈ cs, isMark c = true

theorem isNumberChar_of_isDigit {c : Char} (h : c.isDigit = true) : isNumberChar c = true := by
  simp [isNumberChar, isIntChar, h]

theorem isDigit_of_mem_significant {n : Nat} {c : Char} (h : c ∈ (Double.significant n).1) :
    c.isDigit = true := by
  have h1 : c ∈ ((Nat.toDigits 10 n).reverse.dropWhile (· == '0')).reverse := h
  have h2 := List.mem_reverse.mp ((List.dropWhile_sublist _).mem (List.mem_reverse.mp h1))
  exact isDigit_of_mem_toDigits h2

theorem isNumberChar_of_mem_exponentText {e : Int} {c : Char} (h : c ∈ Double.exponentText e) :
    isNumberChar c = true := by
  rw [Double.exponentText] at h
  rcases List.mem_cons.mp h with rfl | h
  · split <;> rfl
  · split at h
    · rcases List.mem_cons.mp h with rfl | h
      · rfl
      · exact isNumberChar_of_isDigit (isDigit_of_mem_toDigits h)
    · exact isNumberChar_of_isDigit (isDigit_of_mem_toDigits h)

theorem doubleText_place {ds : List Char} (hds : ∀ c ∈ ds, c.isDigit = true) (point : Int) :
    DoubleText (Double.place ds point) := by
  have hds' : ∀ c ∈ ds, isNumberChar c = true := fun c hc => isNumberChar_of_isDigit (hds c hc)
  have hzeros : ∀ k, ∀ c ∈ List.replicate k '0', isNumberChar c = true := by
    intro k c hc
    rw [(List.mem_replicate.mp hc).2]
    rfl
  have hdrop : ∀ k, ∀ c ∈ ds.drop k, isNumberChar c = true :=
    fun k c hc => hds' c (List.mem_of_mem_drop hc)
  have htake : ∀ k, ∀ c ∈ ds.take k, isNumberChar c = true :=
    fun k c hc => hds' c (List.mem_of_mem_take hc)
  rw [Double.place]
  split
  · refine ⟨fun c hc => ?_, 'e', by simp, rfl⟩
    rcases List.mem_append.mp hc with hc | hc
    · rcases List.mem_append.mp hc with hc | hc
      · exact htake 1 c hc
      · have hd := hdrop 1
        split at hc
        · simp at hc
        · rcases List.mem_cons.mp hc with rfl | hc
          · rfl
          · exact hd c hc
    · rcases List.mem_cons.mp hc with rfl | hc
      · rfl
      · exact isNumberChar_of_mem_exponentText hc
  · split
    · refine ⟨fun c hc => ?_, '.', by simp, rfl⟩
      rcases List.mem_append.mp hc with hc | hc
      · rcases List.mem_cons.mp hc with rfl | hc
        · rfl
        · rcases List.mem_cons.mp hc with rfl | hc
          · rfl
          · exact hzeros _ c hc
      · exact hds' c hc
    · refine ⟨fun c hc => ?_, '.', by simp, rfl⟩
      rcases List.mem_append.mp hc with hc | hc
      · rcases List.mem_append.mp hc with hc | hc
        · exact htake _ c hc
        · exact hzeros _ c hc
      · rcases List.mem_cons.mp hc with rfl | hc
        · rfl
        · have hd := hdrop point.toNat
          split at hc
          · rw [List.mem_singleton.mp hc]
            rfl
          · exact hd c hc

theorem doubleText_magnitude (m e : Nat) : DoubleText (Double.magnitudeText m e) := by
  rw [Double.magnitudeText]
  split
  · exact ⟨List.all_eq_true.mp rfl, '.', by decide, rfl⟩
  · exact doubleText_place (fun c hc => isDigit_of_mem_significant hc) _

theorem DoubleText.signed {cs : List Char} (h : DoubleText cs) (negative : Bool) :
    DoubleText ((if negative then "-" else "").toList ++ cs) := by
  obtain ⟨h1, c, hc, hm⟩ := h
  refine ⟨fun d hd => ?_, c, List.mem_append_right _ hc, hm⟩
  rcases List.mem_append.mp hd with hd | hd
  · cases negative with
    | true =>
      obtain rfl : d = '-' := by simpa using hd
      rfl
    | false => simp at hd
  · exact h1 d hd

theorem doubleText_text (x : Double) : DoubleText (x.text Json.specials).toList := by
  cases x with
  | nan => exact ⟨List.all_eq_true.mp rfl, 'N', by decide, rfl⟩
  | infinite s =>
    rw [Double.text, String.toList_append]
    exact DoubleText.signed ⟨List.all_eq_true.mp rfl, 'I', by decide, rfl⟩ s
  | finite s m e =>
    rw [Double.text, String.toList_append, String.toList_ofList]
    exact (doubleText_magnitude m e).signed s

/-- no text is that of an integer and of a double -/
theorem text_int_ne_text_double (n : Int) (x : Double) :
    (toString n).toList ≠ (x.text Json.specials).toList := by
  intro h
  obtain ⟨_, c, hc, hm⟩ := doubleText_text x
  have hi : isIntChar c = true := isIntChar_of_mem (h ▸ hc)
  have hmarks : c = '.' ∨ c = 'e' ∨ c = 'N' ∨ c = 'I' := by
    simpa [isMark, or_assoc] using hm
  rcases hmarks with rfl | rfl | rfl | rfl <;> exact absurd hi (by decide)

end SampleTypes.Number
