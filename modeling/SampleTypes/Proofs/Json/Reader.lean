import Mathlib.Data.List.Infix
import SampleTypes.Json.Reader

/-!
# What JSON readers leave

A reader leaves an end of the characters that it is given.  It stops at an integer of too many
digits only where these characters hold as long a run of digits.

* `Overlong`           characters with a run of digits that is too long for an integer;
* `Leaves`             what a reader comes to on some characters;
* `value_leaves`       the readers of values, items and fields;
* `IsHuge`             a text that reading stops at an integer of;
* `overlong_of_isHuge` the main statement.
-/

namespace SampleTypes.Json

/-- a run of digits that is longer than an integer can be -/
def Overlong (cs : List Char) : Prop :=
  ∃ ds, ds <:+: cs ∧ (∀ d ∈ ds, Text.isAsciiDigit d = true) ∧ Text.digitCeiling < ds.length

variable {α β : Type} {cs ds : List Char}

theorem Overlong.widen (h : Overlong ds) (hd : ds <:+: cs) : Overlong cs := by
  obtain ⟨es, hes, hdigits, hlength⟩ := h
  exact ⟨es, hes.trans hd, hdigits, hlength⟩

def Problem.isHuge : Problem → Bool
  | .hugeInteger _ => true
  | _ => false

/-- a result with an end of the characters `cs`, or a stop -/
def Leaves (cs : List Char) : Except Stop (α × List Char) → Prop
  | .ok r => r.2 <:+ cs
  | .error s => s.problem.isHuge = true → Overlong cs

namespace Leaves

theorem mono {x : Except Stop (α × List Char)} (hx : Leaves ds x) (hd : ds <:+ cs) :
    Leaves cs x := by
  cases x with
  | ok r => exact List.IsSuffix.trans hx hd
  | error s => exact fun h => (hx h).widen hd.isInfix

theorem bind {x : Except Stop (α × List Char)} {f : α × List Char → Except Stop (β × List Char)}
    (hx : Leaves cs x) (hf : ∀ a rest, rest <:+ cs → Leaves cs (f (a, rest))) :
    Leaves cs (x >>= f) := by
  cases x with
  | ok r => exact hf r.1 r.2 hx
  | error s => exact hx

theorem map {x : Except Stop (α × List Char)} {f : α × List Char → β × List Char}
    (hx : Leaves cs x) (hf : ∀ r, (f r).2 = r.2) : Leaves cs (x.map f) := by
  cases x with
  | ok r =>
    show (f r).2 <:+ cs
    rw [hf]
    exact hx
  | error s => exact hx

theorem stop {p : Problem} (h : p.isHuge = false) (rest : List Char) :
    Leaves cs (.error ⟨p, rest⟩ : Except Stop (α × List Char)) :=
  fun hp => absurd (h.symm.trans hp) (by decide)

theorem overlong (h : Overlong cs) (s : Stop) :
    Leaves cs (.error s : Except Stop (α × List Char)) := fun _ => h

end Leaves

/-! ## strings, numbers and words -/

theorem parts_leaves (opening cs : List Char) : Leaves cs (parts opening cs) := by
  fun_induction parts opening cs with
  | case1 => exact .stop rfl _
  | case2 => exact .stop rfl _
  | case3 a b c d e cs _ _ ih =>
    exact .mono (.map ih fun _ => rfl) ⟨['\\', 'u', a, b, c, d], rfl⟩
  | case4 => exact .stop rfl _
  | case5 => exact .stop rfl _
  | case6 c cs _ _ _ _ ih => exact .mono (.map ih fun _ => rfl) ⟨['\\', c], rfl⟩
  | case7 => exact .stop rfl _
  | case8 cs => exact List.suffix_cons _ cs
  | case9 => exact .stop rfl _
  | case10 c cs _ _ _ _ _ _ ih => exact .mono (.map ih fun _ => rfl) (List.suffix_cons c cs)

theorem string_leaves (opening cs : List Char) : Leaves cs (string opening cs) :=
  (parts_leaves opening cs).map fun _ => rfl

theorem skipSpace_suffix (cs : List Char) : skipSpace cs <:+ cs := List.dropWhile_suffix _

theorem spanDigits_eq (cs : List Char) : (spanDigits cs).1 ++ (spanDigits cs).2 = cs :=
  List.takeWhile_append_dropWhile

theorem wholePart_eq {cs : List Char} {r : List Char × List Char} (h : wholePart cs = some r) :
    r.1 ++ r.2 = cs ∧ ∀ d ∈ r.1, Text.isAsciiDigit d = true := by
  unfold wholePart at h
  split at h
  · obtain rfl := Option.some.inj h
    exact ⟨rfl, fun d hd => List.mem_singleton.mp hd ▸ rfl⟩
  · have heq := spanDigits_eq cs
    have hdigits : ∀ d ∈ (spanDigits cs).1, Text.isAsciiDigit d = true :=
      List.all_eq_true.mp List.all_takeWhile
    split at h
    · simp at h
    · next hspan =>
      obtain rfl := Option.some.inj h
      rw [hspan] at heq hdigits
      exact ⟨heq, hdigits⟩

theorem fraction_suffix {cs : List Char} {r : List Char × List Char} (h : fraction cs = some r) :
    r.2 <:+ cs := by
  unfold fraction at h
  split at h
  · next cs =>
    have heq := spanDigits_eq cs
    split at h
    · simp at h
    · next hspan =>
      obtain rfl := Option.some.inj h
      rw [hspan] at heq
      exact List.IsSuffix.trans ⟨_, heq⟩ (List.suffix_cons _ _)
  · simp at h

theorem signOf_suffix (cs : List Char) : (Text.signOf cs).2 <:+ cs := by
  unfold Text.signOf
  split
  · exact List.suffix_cons _ _
  · exact List.suffix_cons _ _
  · exact List.suffix_refl _

theorem exponent_suffix {cs : List Char} {r : Int × List Char} (h : exponent cs = some r) :
    r.2 <:+ cs := by
  unfold exponent at h
  split at h
  · simp at h
  · next c cs =>
    split at h
    · have hsign := signOf_suffix cs
      have heq := spanDigits_eq (Text.signOf cs).2
      dsimp only at h
      split at h
      · simp at h
      · next hspan =>
        obtain rfl := Option.some.inj h
        rw [hspan] at heq
        exact List.IsSuffix.trans ⟨_, heq⟩ (hsign.trans (List.suffix_cons _ _))
    · simp at h

theorem natOfDigits_lt {ds : List Char} (h : ∀ d ∈ ds, Text.isAsciiDigit d = true) :
    Text.natOfDigits ds < Double.tenTo ds.length := by
  induction ds using List.reverseRecOn with
  | nil => decide
  | append_singleton ds d ih =>
    have hd : Text.isAsciiDigit d = true := h d (by simp)
    have hds := ih fun e he => h e (by simp [he])
    have hvalue : (Text.digitValue? d).getD 0 < 10 := by
      rw [Text.digitValue?, if_pos hd]
      rw [Text.isAsciiDigit, Bool.and_eq_true, decide_eq_true_eq, decide_eq_true_eq] at hd
      have hnine : d.toNat ≤ 57 := UInt32.le_iff_toNat_le.mp hd.2
      show d.toNat - 48 < 10
      omega
    have hten : Double.tenTo (ds.length + 1) = Double.tenTo ds.length * 10 := rfl
    rw [Text.natOfDigits_append_singleton, List.length_append, List.length_singleton, hten]
    omega

/-- an integer as small as a run of digits among the characters makes it -/
def Spanned (cs : List Char) (n : Int) : Prop :=
  ∃ ds, ds <:+: cs ∧ (∀ d ∈ ds, Text.isAsciiDigit d = true) ∧ n.natAbs < Double.tenTo ds.length

theorem unsigned_cases {negative : Bool} {cs : List Char} {r : Json × List Char}
    (h : unsigned negative cs = some r) :
    r.2 <:+ cs ∧ ∀ n, r.1 = .int n → Spanned cs n := by
  obtain ⟨⟨whole, rest⟩, hwhole, h⟩ := Option.bind_eq_some_iff.mp h
  obtain ⟨heq, hdigits⟩ := wholePart_eq hwhole
  have hrest : rest <:+ cs := ⟨whole, heq⟩
  dsimp only at h
  split at h
  · next hfraction =>
    have hfraction := (fraction_suffix hfraction).trans hrest
    split at h
    · next hexponent =>
      obtain rfl := Option.some.inj h
      exact ⟨(exponent_suffix hexponent).trans hfraction, by simp⟩
    · obtain rfl := Option.some.inj h
      exact ⟨hfraction, by simp⟩
  · next hexponent =>
    obtain rfl := Option.some.inj h
    exact ⟨(exponent_suffix hexponent).trans hrest, by simp⟩
  · obtain rfl := Option.some.inj h
    refine ⟨hrest, fun n hn => ⟨whole, ⟨[], rest, heq⟩, hdigits, ?_⟩⟩
    have hn : Text.signed negative (Text.natOfDigits whole) = n := Json.int.inj hn
    have hlt := natOfDigits_lt hdigits
    rw [← hn, Text.signed]
    cases negative <;> simpa using hlt

theorem number_cases {cs : List Char} {r : Json × List Char} (h : number cs = some r) :
    r.2 <:+ cs ∧ ∀ n, r.1 = .int n → Spanned cs n := by
  unfold number at h
  split at h
  · next cs =>
    obtain ⟨hrest, hint⟩ := unsigned_cases h
    refine ⟨hrest.trans (List.suffix_cons _ _), fun n hn => ?_⟩
    obtain ⟨ds, hds, hdigits⟩ := hint n hn
    exact ⟨ds, hds.trans (List.suffix_cons _ _).isInfix, hdigits⟩
  · exact unsigned_cases h

theorem word_cases {cs : List Char} {r : Json × List Char} (h : word cs = some r) :
    r.2 <:+ cs ∧ ∀ n, r.1 ≠ .int n := by
  obtain ⟨⟨w, v⟩, hmem, h⟩ := List.exists_of_findSome?_eq_some h
  dsimp only at h
  split at h
  · obtain rfl := Option.some.inj h
    refine ⟨List.drop_suffix _ _, fun n hn => ?_⟩
    simp only [words, List.mem_cons, Prod.mk.injEq, List.not_mem_nil, or_false] at hmem
    rcases hmem with h | h | h | h | h | h <;> simp [h.2] at hn
  · simp at h

theorem digitCeiling_lt {n length : Nat} (h : hugeBound ≤ n) (hlt : n < Double.tenTo length) :
    Text.digitCeiling < length := by
  unfold hugeBound at h
  -- the power is too large to be worked out
  generalize Text.digitCeiling = ceiling at h ⊢
  by_contra hle
  have hpow : Double.tenTo length ≤ Double.tenTo ceiling :=
    Nat.pow_le_pow_right (by decide) (Nat.not_lt.mp hle)
  exact absurd (Nat.lt_of_lt_of_le hlt (hpow.trans h)) (Nat.lt_irrefl n)

theorem overlong_of_spanned {n : Int} (h : Spanned cs n) (hhuge : hugeBound ≤ n.natAbs) :
    Overlong cs := by
  obtain ⟨ds, hds, hdigits, hlt⟩ := h
  exact ⟨ds, hds, hdigits, digitCeiling_lt hhuge hlt⟩

theorem leaves_bounded {r : Json × List Char} (hrest : r.2 <:+ cs)
    (hint : ∀ n, r.1 = .int n → Spanned cs n) : Leaves cs (bounded cs r) := by
  obtain ⟨v, rest⟩ := r
  cases v with
  | int n =>
    cases Nat.lt_or_ge n.natAbs hugeBound with
    | inl hsmall =>
      rw [bounded_int hsmall]
      exact hrest
    | inr hhuge =>
      have hlong := overlong_of_spanned (hint n rfl) hhuge
      rw [bounded, if_pos hhuge]
      exact .overlong hlong _
  | null | bool | float | str | arr | obj => exact hrest

/-! ## values -/

/-- the readers that are read by each other, by at most `n` steps -/
structure AllLeave (n : Nat) : Prop where
  value : ∀ cs, Leaves cs (value n cs)
  items : ∀ cs, Leaves cs (items n cs)
  members : ∀ cs, Leaves cs (members n cs)

theorem skipSpace_cons_suffix {c : Char} {rest : List Char} (h : skipSpace cs = c :: rest) :
    rest <:+ cs := (List.suffix_cons c rest).trans (h ▸ skipSpace_suffix cs)

theorem scalar_leaves (cs : List Char) :
    Leaves cs (match word cs <|> number cs with
      | some r => bounded cs r
      | none => .error ⟨.expectingValue, cs⟩) := by
  split
  · next r h =>
    rw [Option.orElse_eq_orElse, Option.orElse_eq_or] at h
    rcases Option.or_eq_some_iff.mp h with h | ⟨-, h⟩
    · obtain ⟨hrest, hint⟩ := word_cases h
      exact leaves_bounded hrest fun n hn => absurd hn (hint n)
    · obtain ⟨hrest, hint⟩ := number_cases h
      exact leaves_bounded hrest hint
  · exact .stop rfl cs

variable {n : Nat}

theorem value_leaves (h : AllLeave n) (cs : List Char) : Leaves cs (value (n + 1) cs) := by
  unfold value
  split
  · next rest => exact .mono (.map (string_leaves _ rest) fun _ => rfl) (List.suffix_cons _ _)
  · next rest =>
    have hrest := List.suffix_cons '[' rest
    split
    · next hspace => exact (skipSpace_cons_suffix hspace).trans hrest
    · exact .mono (.map (h.items _) fun _ => rfl) ((skipSpace_suffix rest).trans hrest)
  · next rest =>
    have hrest := List.suffix_cons '\x7b' rest
    split
    · next hspace => exact (skipSpace_cons_suffix hspace).trans hrest
    · exact .mono (.map (h.members _) fun _ => rfl) ((skipSpace_suffix rest).trans hrest)
  · exact scalar_leaves _

theorem items_leaves (h : AllLeave n) (cs : List Char) : Leaves cs (items (n + 1) cs) := by
  unfold items
  refine .bind (h.value cs) fun x rest hrest => ?_
  dsimp only
  split
  · next hspace => exact (skipSpace_cons_suffix hspace).trans hrest
  · next rest' hspace =>
    have hrest' := (skipSpace_cons_suffix hspace).trans hrest
    refine .bind (.mono (h.items _) ((skipSpace_suffix rest').trans hrest')) fun _ _ h => h
  · exact .stop rfl _

theorem members_leaves (h : AllLeave n) (cs : List Char) : Leaves cs (members (n + 1) cs) := by
  unfold members
  split
  · next rest =>
    refine .bind (.mono (string_leaves _ rest) (List.suffix_cons _ _)) fun k rest hrest => ?_
    dsimp only
    split
    · next hspace =>
      have hvalue := (skipSpace_suffix _).trans ((skipSpace_cons_suffix hspace).trans hrest)
      refine .bind (.mono (h.value _) hvalue) fun v rest hrest => ?_
      dsimp only
      split
      · next hspace => exact (skipSpace_cons_suffix hspace).trans hrest
      · next hspace =>
        have hrest := (skipSpace_suffix _).trans ((skipSpace_cons_suffix hspace).trans hrest)
        exact .bind (.mono (h.members _) hrest) fun _ _ h => h
      · exact .stop rfl _
    · exact .stop rfl _
  · exact .stop rfl _

theorem allLeave (n : Nat) : AllLeave n := by
  induction n with
  | zero => exact ⟨fun _ => .stop rfl _, fun _ => .stop rfl _, fun _ => .stop rfl _⟩
  | succ n ih => exact ⟨value_leaves ih, items_leaves ih, members_leaves ih⟩

/-! ## whole texts -/

/-- whether reading a text stops at an integer of too many digits -/
def IsHuge (cs : List Char) : Prop := ∃ f, readChars cs = .error f ∧ f.isHuge = true

theorem isHuge_iff {cs : List Char} {f : Fault} (h : readChars cs = .error f) :
    IsHuge cs ↔ f.isHuge = true := by
  simp [IsHuge, h]

theorem document_stop {cs : List Char} {s : Stop} (h : document cs = .error s)
    (hs : s.problem.isHuge = true) : Overlong cs := by
  have hvalue := ((allLeave (stepsFor cs.length)).value _).mono (skipSpace_suffix cs)
  unfold document at h
  cases hv : value (stepsFor cs.length) (skipSpace cs) with
  | error t =>
    rw [hv] at h hvalue
    obtain rfl := Except.error.inj h
    exact hvalue hs
  | ok r =>
    rw [hv] at h
    dsimp only [bind, Except.bind] at h
    split at h
    · simp [pure, Except.pure] at h
    · obtain rfl := Except.error.inj h
      simp [Problem.isHuge] at hs

theorem overlong_of_isHuge {cs : List Char} (h : IsHuge cs) : Overlong cs := by
  obtain ⟨f, hf, hhuge⟩ := h
  unfold readChars unmarked at hf
  split at hf
  · obtain rfl := Except.error.inj hf
    simp [Fault.isHuge, Stop.fault] at hhuge
  · cases hdocument : document cs with
    | ok v => simp [hdocument, Except.mapError] at hf
    | error s =>
      rw [hdocument] at hf
      obtain rfl := Except.error.inj hf
      refine document_stop hdocument ?_
      show s.problem.isHuge = true
      cases hs : s.problem <;> simp_all [Fault.isHuge, Stop.fault, Problem.isHuge]

end SampleTypes.Json
