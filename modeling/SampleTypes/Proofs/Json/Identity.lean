import SampleTypes.Proofs.Fields
import SampleTypes.Proofs.Json.Alike
import SampleTypes.Proofs.Number.Text
import SampleTypes.Proofs.Text.Literal
import SampleTypes.Proofs.Text.Separated

/-!
# The canonical text identifies a value

Two values with one canonical text are equal up to the order of fields.  The proof reads texts
from the left: the text of a value, followed by a delimiter or by nothing, determines the value
and the rest.

* `IsReadable f R x`          the text `f x` of `x` can be read: it determines `x` up to `R`;
* `readable`                  the canonical text of a value can be read;
* `alike_of_canonical_eq`     values with one text are equal up to the order of fields;
* `chars_eq_of_alike`         the converse, where no key of a record comes twice;
* `canonical_eq_iff_alike`    the main statement.
-/

namespace SampleTypes.Json

/-! ## delimiters -/

/-- the characters that can follow a value inside an array or an object -/
def isDelimiter (c : Char) : Bool := c == ',' || c == ']' || c == '\x7d'

/-- the text `f x`, before a delimiter or the end, determines `x` up to `R`, and the rest -/
def IsReadable {α : Type} (f : α → List Char) (R : α → α → Prop) (x : α) : Prop :=
  Text.Readable isDelimiter (fun _ => True) f R x

/-! ## leaves -/

/-- null, truth values and numbers: the values written without quotes and brackets -/
def isBare : Json → Bool
  | .null => true
  | .bool _ => true
  | .int _ => true
  | .float _ => true
  | _ => false

/-- no delimiter, quote or opening bracket -/
def isBareChar (c : Char) : Bool :=
  !isDelimiter c && c != '\x22' && c != '[' && c != '\x7b'

theorem isBareChar_of_isNumberChar {c : Char} (h : Number.isNumberChar c = true) :
    isBareChar c = true := by
  by_cases hb : isBareChar c = true
  · exact hb
  · have hcs : c = ',' ∨ c = ']' ∨ c = '\x7d' ∨ c = '\x22' ∨ c = '[' ∨ c = '\x7b' := by
      simp only [isBareChar, isDelimiter, Bool.and_eq_true, Bool.not_eq_true', Bool.or_eq_false_iff,
        bne_iff_ne, beq_eq_false_iff_ne, ne_eq] at hb
      tauto
    rcases hcs with rfl | rfl | rfl | rfl | rfl | rfl <;> exact absurd h (by decide)

/-- the characters of a bare value, which are at least one -/
theorem chars_bare {v : Json} (h : v.isBare = true)
    (arrange : List (String × List Char) → List (String × List Char)) :
    chars arrange v ≠ [] ∧ ∀ c ∈ chars arrange v, isBareChar c = true := by
  cases v with
  | null => rw [chars]; exact ⟨by decide, List.all_eq_true.mp rfl⟩
  | bool b => rw [chars]; cases b <;> exact ⟨by decide, List.all_eq_true.mp rfl⟩
  | int n =>
    rw [chars]
    refine ⟨?_, fun c hc => isBareChar_of_isNumberChar ?_⟩
    · rw [Number.toList_text_int]
      split
      · exact Nat.toDigits_ne_nil
      · exact List.cons_ne_nil _ _
    · simp [Number.isNumberChar, Number.isIntChar_of_mem hc]
  | float x =>
    rw [chars]
    obtain ⟨h1, c, hc, _⟩ := Number.doubleText_text x
    exact ⟨List.ne_nil_of_mem hc, fun c hc => isBareChar_of_isNumberChar (h1 c hc)⟩
  | str | arr | obj => simp [isBare] at h

/-- a word that is no number -/
theorem not_number_of_mem_u {cs : List Char} (h : 'u' ∈ cs ∨ 'l' ∈ cs) :
    ¬ ∀ c ∈ cs, Number.isNumberChar c = true := by
  intro hn
  rcases h with h | h
  · exact absurd (hn 'u' h) (by decide)
  · exact absurd (hn 'l' h) (by decide)

theorem number_chars_int (n : Int) : ∀ c ∈ (toString n).toList, Number.isNumberChar c = true := by
  intro c hc
  simp [Number.isNumberChar, Number.isIntChar_of_mem hc]

theorem alike_of_bare {v w : Json} (hv : v.isBare = true) (hw : w.isBare = true)
    (arrange : List (String × List Char) → List (String × List Char))
    (h : chars arrange v = chars arrange w) : Alike v w := by
  have word_int : ∀ {cs : List Char} {n : Int}, 'u' ∈ cs ∨ 'l' ∈ cs → cs ≠ (toString n).toList :=
    fun hm e => not_number_of_mem_u hm (e ▸ number_chars_int _)
  have word_double : ∀ {cs : List Char} {x : Double}, 'u' ∈ cs ∨ 'l' ∈ cs →
      cs ≠ (x.text specials).toList :=
    fun hm e => not_number_of_mem_u hm (e ▸ (Number.doubleText_text _).1)
  have word_bool : ∀ b, 'u' ∈ boolChars b ∨ 'l' ∈ boolChars b := by decide
  cases v with
  | null =>
    rw [chars] at h
    cases w with
    | null => rfl
    | bool b => rw [chars] at h; cases b <;> exact absurd h (by decide)
    | int n => rw [chars] at h; exact absurd h (word_int (by decide))
    | float x => rw [chars] at h; exact absurd h (word_double (by decide))
    | str | arr | obj => simp [isBare] at hw
  | bool b =>
    rw [chars] at h
    cases w with
    | null => rw [chars] at h; cases b <;> exact absurd h (by decide)
    | bool c => rw [chars] at h; cases b <;> cases c <;> first | rfl | exact absurd h (by decide)
    | int n => rw [chars] at h; exact absurd h (word_int (word_bool b))
    | float x => rw [chars] at h; exact absurd h (word_double (word_bool b))
    | str | arr | obj => simp [isBare] at hw
  | int n =>
    rw [chars] at h
    cases w with
    | null => rw [chars] at h; exact absurd h.symm (word_int (by decide))
    | bool b => rw [chars] at h; exact absurd h.symm (word_int (word_bool b))
    | int m => rw [chars] at h; rw [Number.text_int_inj h, Alike]
    | float x => rw [chars] at h; exact absurd h (Number.text_int_ne_text_double n x)
    | str | arr | obj => simp [isBare] at hw
  | float x =>
    rw [chars] at h
    cases w with
    | null => rw [chars] at h; exact absurd h.symm (word_double (by decide))
    | bool b => rw [chars] at h; exact absurd h.symm (word_double (word_bool b))
    | int m => rw [chars] at h; exact absurd h.symm (Number.text_int_ne_text_double m x)
    | float y => rw [chars] at h; rw [Alike]; exact ⟨y, rfl, String.toList_inj.mp h⟩
    | str | arr | obj => simp [isBare] at hw
  | str | arr | obj => simp [isBare] at hv

/-! ## all values -/

/-- the character that texts, arrays and objects begin with -/
def opener : Json → Option Char
  | .str _ => some '\x22'
  | .arr _ => some '['
  | .obj _ => some '\x7b'
  | _ => none

theorem isBare_of_opener {v : Json} (h : opener v = none) : v.isBare = true := by
  cases v with
  | null | bool | int | float => rfl
  | str | arr | obj => simp [opener] at h

theorem chars_of_opener {v : Json} {c : Char} (h : opener v = some c)
    (arrange : List (String × List Char) → List (String × List Char)) :
    isBareChar c = false ∧ isDelimiter c = false ∧ ∃ t, chars arrange v = c :: t := by
  cases v with
  | null | bool | int | float => simp [opener] at h
  | str s =>
    obtain rfl : '\x22' = c := Option.some.inj h
    exact ⟨rfl, rfl, _, rfl⟩
  | arr xs =>
    obtain rfl : '[' = c := Option.some.inj h
    exact ⟨rfl, rfl, _, rfl⟩
  | obj fs =>
    obtain rfl : '\x7b' = c := Option.some.inj h
    exact ⟨rfl, rfl, _, rfl⟩

/-- the first character of a text tells texts, arrays and objects from each other and the rest -/
theorem opener_eq {v w : Json} {arrange : List (String × List Char) → List (String × List Char)}
    {a b : List Char} (h : chars arrange v ++ a = chars arrange w ++ b) : opener v = opener w := by
  have clash : ∀ {x y : Json} {a b : List Char} {c : Char}, opener x = none → opener y = some c →
      chars arrange x ++ a ≠ chars arrange y ++ b := by
    intro x y a b c hx hy e
    obtain ⟨hne, hall⟩ := chars_bare (isBare_of_opener hx) arrange
    obtain ⟨hc, _, t, ht⟩ := chars_of_opener hy arrange
    obtain ⟨d, u, hu⟩ := List.exists_cons_of_ne_nil hne
    rw [hu, ht] at e
    obtain rfl : d = c := (List.cons.inj e).1
    have hd := hall d (by simp [hu])
    rw [hc] at hd
    exact absurd hd (by decide)
  cases hv : opener v with
  | none =>
    cases hw : opener w with
    | none => rfl
    | some d => exact absurd h (clash hv hw)
  | some c =>
    cases hw : opener w with
    | none => exact absurd h.symm (clash hw hv)
    | some d =>
      obtain ⟨_, _, t, ht⟩ := chars_of_opener hv arrange
      obtain ⟨_, _, u, hu⟩ := chars_of_opener hw arrange
      rw [ht, hu] at h
      rw [(List.cons.inj h).1]

/-- no text of a value begins with a delimiter -/
theorem chars_append_ne {c : Char} (hc : isDelimiter c = true) (v : Json)
    (arrange : List (String × List Char) → List (String × List Char)) (a b : List Char) :
    chars arrange v ++ a ≠ c :: b := by
  intro h
  cases hv : opener v with
  | none =>
    obtain ⟨hne, hall⟩ := chars_bare (isBare_of_opener hv) arrange
    obtain ⟨d, u, hu⟩ := List.exists_cons_of_ne_nil hne
    rw [hu] at h
    obtain rfl : d = c := (List.cons.inj h).1
    have hd := hall d (by simp [hu])
    simp [isBareChar, hc] at hd
  | some d =>
    obtain ⟨_, hd, t, ht⟩ := chars_of_opener hv arrange
    rw [ht] at h
    obtain rfl : d = c := (List.cons.inj h).1
    rw [hc] at hd
    exact absurd hd (by decide)

/-- the text of a field of an object -/
def fieldText (p : String × Json) : List Char := fieldChars (p.1, chars Fields.sorted p.2)

theorem chars_arr (xs : List Json) (a : List Char) :
    chars Fields.sorted (.arr xs) ++ a =
      '[' :: (joinWith [',', ' '] (xs.map (chars Fields.sorted)) ++ ']' :: a) := by
  rw [chars_array, bracketed, List.cons_append, List.cons_append, List.append_assoc]
  rfl

theorem chars_obj (fs : Record) (a : List Char) :
    chars Fields.sorted (.obj fs) ++ a =
      '\x7b' :: (joinWith [',', ' '] ((Fields.sorted fs).map fieldText) ++ '\x7d' :: a) := by
  have e : (Fields.sorted (fs.map fun p => (p.1, chars Fields.sorted p.2))).map fieldChars =
      (Fields.sorted fs).map fieldText := by
    rw [Fields.sorted_map, List.map_map]
    rfl
  rw [chars_record, braced, e, List.cons_append, List.cons_append, List.append_assoc]
  rfl

theorem readable_field {p : String × Json} (h : IsReadable (chars Fields.sorted) Alike p.2) :
    IsReadable fieldText AlikeField p := by
  intro q a b _ ha hb e
  rw [fieldText, fieldText, fieldChars, fieldChars, List.append_assoc, List.append_assoc,
    List.append_assoc, List.append_assoc] at e
  obtain ⟨hk, e⟩ := Text.literalChars_append_inj e
  obtain ⟨hv, hab⟩ := h q.2 a b trivial ha hb (List.cons.inj (List.cons.inj e).2).2
  exact ⟨⟨String.toList_inj.mp hk, hv⟩, hab⟩

theorem readable (v : Json) : IsReadable (chars Fields.sorted) Alike v := by
  induction v using Json.induction with
  | null | bool | int | float =>
    intro w a b _ ha hb h
    have hw : w.isBare = true := isBare_of_opener (opener_eq h).symm
    have bare : ∀ {x : Json}, x.isBare = true → ∀ c ∈ chars Fields.sorted x,
        isDelimiter c = false := by
      intro x hx c hc
      have := (chars_bare hx Fields.sorted).2 c hc
      simp only [isBareChar, Bool.and_eq_true, Bool.not_eq_true'] at this
      exact this.1.1.1
    obtain ⟨e, hab⟩ := Text.append_inj_of_ends (bare rfl) (bare hw) ha hb h
    exact ⟨alike_of_bare rfl hw Fields.sorted e, hab⟩
  | str s =>
    intro w a b _ _ _ h
    have hw := opener_eq h
    cases w with
    | str t =>
      rw [chars, chars] at h
      obtain ⟨e, hab⟩ := Text.literalChars_append_inj h
      rw [String.toList_inj.mp e, Alike]
      exact ⟨rfl, hab⟩
    | _ => simp [opener] at hw
  | arr xs ih =>
    intro w a b _ _ _ h
    have hw := opener_eq h
    cases w with
    | arr ys =>
      rw [chars_arr, chars_arr] at h
      have hne : ∀ (x : Json) (a b : List Char), True → chars Fields.sorted x ++ a ≠ ']' :: b :=
        fun x a b _ => chars_append_ne rfl x Fields.sorted a b
      obtain ⟨hxs, hab⟩ := Text.joined_inj rfl rfl (by decide) hne (fun x hx => ⟨trivial, ih x hx⟩)
        (fun _ _ => trivial) (List.cons.inj h).2
      exact ⟨alike_arr_iff.mpr ⟨ys, rfl, hxs⟩, hab⟩
    | _ => simp [opener] at hw
  | obj fs ih =>
    intro w a b _ _ _ h
    have hw := opener_eq h
    cases w with
    | obj gs =>
      rw [chars_obj, chars_obj] at h
      have hne : ∀ (p : String × Json) (a b : List Char), True → fieldText p ++ a ≠ '\x7d' :: b :=
        fun p a b _ e => absurd (List.cons.inj e).1 (by decide)
      have hfs : ∀ p ∈ Fields.sorted fs, True ∧ IsReadable fieldText AlikeField p := fun p hp =>
        ⟨trivial, readable_field (ih p ((Fields.perm_sorted fs).mem_iff.mp hp))⟩
      obtain ⟨hf, hab⟩ := Text.joined_inj rfl rfl (by decide) hne hfs (fun _ _ => trivial)
        (List.cons.inj h).2
      obtain ⟨hs, hfh, hp⟩ := List.perm_comp_forall₂ (Fields.perm_sorted fs).symm hf
      exact ⟨alike_obj_iff.mpr ⟨gs, hs, rfl, hfh, hp.trans (Fields.perm_sorted gs)⟩, hab⟩
    | _ => simp [opener] at hw

/-- values with one canonical text are equal up to the order of fields -/
theorem alike_of_canonical_eq {v w : Json} (h : v.canonical = w.canonical) : Alike v w := by
  have e : chars Fields.sorted v ++ [] = chars Fields.sorted w ++ [] := by
    rw [List.append_nil, List.append_nil]
    exact String.ofList_injective h
  exact (readable v w [] [] trivial trivial trivial e).1

/-! ## the order of fields -/

/-- the text that a field of an object has before the fields are sorted -/
def namedText (p : String × Json) : String × List Char := (p.1, chars Fields.sorted p.2)

theorem chars_eq_of_alike {v w : Json} (hv : v.keysDistinct = true) (h : Alike v w) :
    chars Fields.sorted v = chars Fields.sorted w := by
  induction v using Json.induction generalizing w with
  | null | bool | int | str =>
    subst h
    rfl
  | float x =>
    obtain ⟨y, rfl, e⟩ := h
    rw [chars, chars, e]
  | arr xs ih _ =>
    obtain ⟨ys, rfl, hxs⟩ := alike_arr_iff.mp h
    have hmem := (List.forall₂_and_left xs ys).mpr ⟨fun x hx => hx, hxs⟩
    have htexts : xs.map (chars Fields.sorted) = ys.map (chars Fields.sorted) := by
      refine map_eq_of_forall₂ (fun x y hxy => ?_) hmem
      exact ih x hxy.1 (keysDistinct_of_mem_items hv hxy.1) hxy.2
    rw [chars_array, chars_array, htexts]
  | obj fs ih =>
    obtain ⟨gs, hs, rfl, hfs, hp⟩ := alike_obj_iff.mp h
    have hnodup := nodup_names_of_keysDistinct hv
    have hmem := (List.forall₂_and_left fs hs).mpr ⟨fun p hp => hp, hfs⟩
    have htexts : fs.map namedText = hs.map namedText := by
      refine map_eq_of_forall₂ (fun p q hpq => ?_) hmem
      obtain ⟨hp, hkey, hpq⟩ := hpq
      rw [namedText, namedText, hkey, ih p hp (keysDistinct_of_mem_fields hv hp) hpq]
    have hnames : (Fields.names (fs.map namedText)).Nodup := by
      rw [Fields.names, List.map_map]
      exact hnodup
    -- the two lists of texts differ in their order only, and sorting forgets it
    have hsorted : Fields.sorted (fs.map namedText) = Fields.sorted (gs.map namedText) :=
      Fields.sorted_eq_of_perm hnames (htexts ▸ hp.map namedText)
    rw [chars_record, chars_record]
    exact congrArg braced hsorted

/-- two values have one canonical text exactly if they are equal up to the order of fields -/
theorem canonical_eq_iff_alike {v w : Json} (hv : v.keysDistinct = true) :
    v.canonical = w.canonical ↔ Alike v w := by
  constructor
  · exact alike_of_canonical_eq
  · intro h
    rw [canonical, canonical, chars_eq_of_alike hv h]

theorem canonical_eq_of_swapped_fields :
    (Json.obj [("b", .arr [.null, .str "x"]), ("a", .int 0)]).canonical =
        (Json.obj [("a", .int 0), ("b", .arr [.null, .str "x"])]).canonical ∧
      (Json.int 0).canonical ≠ (Json.float (.finite false 0 0)).canonical := by
  refine ⟨(canonical_eq_iff_alike rfl).mpr (alike_of_perm (List.Perm.swap _ _ _)), fun h => ?_⟩
  have halike := (canonical_eq_iff_alike rfl).mp h
  exact Json.noConfusion halike

end SampleTypes.Json
