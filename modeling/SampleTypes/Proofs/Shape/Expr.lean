import SampleTypes.Proofs.Shape.Affixes
import SampleTypes.Proofs.Text.Separated

/-!
# The text of a type identifies it

Types are written from the left, but an array's brackets stand at the end, so texts are read from
their end: the last character tells what kind of type it is.

* `Plain t`             the names in `t` consist of the characters of affixes;
* `back t`              the text of `t`, last character first;
* `isArrayText_eq`      only arrays are written as arrays;
* `text_inj`            types written alike are equal.
-/

namespace SampleTypes.TypeExpr

open Json (joinWith)

/-- the names in the type consist of the characters of affixes -/
inductive Plain : TypeExpr → Prop
  | name {n : String} (hne : n ≠ "") (hn : ∀ c ∈ n.toList, isAffixChar c = true) : Plain (.name n)
  | array {t : TypeExpr} (h : Plain t) : Plain (.array t)
  | union {ts : List TypeExpr} (h : ∀ t ∈ ts, Plain t) : Plain (.union ts)
  | apply {g : String} {t : TypeExpr} (hne : g ≠ "") (hg : ∀ c ∈ g.toList, isAffixChar c = true)
      (h : Plain t) : Plain (.apply g t)

theorem plain_of_isTypeName {n : String} (h : IsTypeName n) : Plain (.name n) :=
  .name h.ne_empty h.1

theorem plain_unknown : Plain .unknown := .name (by decide) (List.all_eq_true.mp rfl)

theorem plain_basic (p : Primitive) : Plain (.name p.name) := by
  cases p <;> exact .name (by decide) (List.all_eq_true.mp rfl)

/-! ## texts from their end -/

/-- the text of a type, last character first -/
def back (t : TypeExpr) : List Char := t.text.toList.reverse

/-- the separator of alternatives, which is the same from both ends -/
def bar : List Char := [' ', '|', ' ']

theorem joinWith_concat (sep : List Char) {xs : List (List Char)} (hne : xs ≠ []) (x : List Char) :
    joinWith sep (xs ++ [x]) = joinWith sep xs ++ sep ++ x := by
  induction xs with
  | nil => exact absurd rfl hne
  | cons y ys ih =>
    cases ys with
    | nil => rfl
    | cons z zs =>
      have h := ih (List.cons_ne_nil z zs)
      rw [List.cons_append, List.cons_append, Json.joinWith_cons_cons, ← List.cons_append, h,
        Json.joinWith_cons_cons]
      simp only [List.append_assoc]

theorem toList_joinTexts (sep : String) (ss : List String) :
    (joinTexts sep ss).toList = joinWith sep.toList (ss.map String.toList) := by
  induction ss with
  | nil => rfl
  | cons s ss ih =>
    cases ss with
    | nil => rfl
    | cons t ss =>
      show (s ++ sep ++ joinTexts sep (t :: ss)).toList = _
      rw [String.toList_append, String.toList_append, ih]
      rfl

theorem reverse_joinTexts (ss : List String) :
    (joinTexts " | " ss).toList.reverse =
      joinWith bar (ss.map fun s => s.toList.reverse).reverse := by
  induction ss with
  | nil => rfl
  | cons s ss ih =>
    cases ss with
    | nil => rfl
    | cons t ss =>
      have hne : ((t :: ss).map fun s => s.toList.reverse).reverse ≠ [] := by simp
      show (s ++ " | " ++ joinTexts " | " (t :: ss)).toList.reverse = _
      rw [List.map_cons, List.reverse_cons, joinWith_concat bar hne, ← ih, String.toList_append,
        String.toList_append, List.reverse_append, List.reverse_append, ← List.append_assoc]
      rfl

theorem back_name (n : String) (a : List Char) :
    (TypeExpr.name n).back ++ a = n.toList.reverse ++ a := by rw [back, text]

theorem back_array (t : TypeExpr) (a : List Char) :
    (TypeExpr.array t).back ++ a = ']' :: '[' :: (t.back ++ a) := by
  simp [back, text, String.toList_append]

theorem back_union (ts : List TypeExpr) (a : List Char) :
    (TypeExpr.union ts).back ++ a = ')' :: (joinWith bar (ts.reverse.map back) ++ '(' :: a) := by
  have e : ((ts.map text).map fun s => s.toList.reverse).reverse = ts.reverse.map back := by
    rw [List.map_map, List.map_reverse]
    rfl
  rw [back, text, texts_eq_map, String.toList_append, String.toList_append, List.reverse_append,
    List.reverse_append, reverse_joinTexts, e]
  simp

theorem back_apply (g : String) (t : TypeExpr) (a : List Char) :
    (TypeExpr.apply g t).back ++ a = '>' :: (t.back ++ '<' :: (g.toList.reverse ++ a)) := by
  simp [back, text, String.toList_append]

/-- what a type is, from its last character: none for a name -/
def closer : TypeExpr → Option Char
  | .name _ => none
  | .array _ => some ']'
  | .union _ => some ')'
  | .apply _ _ => some '>'

theorem back_of_closer {t : TypeExpr} {c : Char} (h : t.closer = some c) (a : List Char) :
    isAffixChar c = false ∧ ∃ r, t.back ++ a = c :: r := by
  cases t with
  | name n => simp [closer] at h
  | array t =>
    obtain rfl : ']' = c := Option.some.inj h
    exact ⟨rfl, _, back_array t a⟩
  | union ts =>
    obtain rfl : ')' = c := Option.some.inj h
    exact ⟨rfl, _, back_union ts a⟩
  | apply g t =>
    obtain rfl : '>' = c := Option.some.inj h
    exact ⟨rfl, _, back_apply g t a⟩

theorem back_of_name {t : TypeExpr} (ht : Plain t) (h : t.closer = none) (a : List Char) :
    ∃ c r, isAffixChar c = true ∧ t.back ++ a = c :: r := by
  cases ht with
  | @name n hne hn =>
    have hl : n.toList.reverse ≠ [] := by
      rw [ne_eq, List.reverse_eq_nil_iff]
      exact fun e => hne (String.toList_inj.mp e)
    obtain ⟨c, r, e⟩ := List.exists_cons_of_ne_nil hl
    have hc : c ∈ n.toList := List.mem_reverse.mp (by rw [e]; exact List.mem_cons_self)
    exact ⟨c, r ++ a, hn c hc, by rw [back_name, e, List.cons_append]⟩
  | array | union | apply => simp [closer] at h

/-- the last character tells what a type is -/
theorem closer_eq {t u : TypeExpr} (ht : Plain t) (hu : Plain u) {a b : List Char}
    (h : t.back ++ a = u.back ++ b) : t.closer = u.closer := by
  have clash : ∀ {x y : TypeExpr} {a b : List Char} {c : Char}, Plain x → x.closer = none →
      y.closer = some c → x.back ++ a ≠ y.back ++ b := by
    intro x y a b c hx hn hc e
    obtain ⟨d, r, hd, hr⟩ := back_of_name hx hn a
    obtain ⟨hc, q, hq⟩ := back_of_closer hc b
    rw [hr, hq] at e
    obtain rfl : d = c := (List.cons.inj e).1
    rw [hd] at hc
    exact Bool.noConfusion hc
  cases hct : t.closer with
  | none =>
    cases hcu : u.closer with
    | none => rfl
    | some d => exact absurd h (clash ht hct hcu)
  | some c =>
    cases hcu : u.closer with
    | none => exact absurd h.symm (clash hu hcu hct)
    | some d =>
      obtain ⟨_, r, hr⟩ := back_of_closer hct a
      obtain ⟨_, q, hq⟩ := back_of_closer hcu b
      rw [hr, hq] at h
      rw [(List.cons.inj h).1]

/-- no type ends with an opening parenthesis -/
theorem back_ne_paren {t : TypeExpr} (ht : Plain t) (a b : List Char) : t.back ++ a ≠ '(' :: b := by
  intro h
  cases hc : t.closer with
  | none =>
    obtain ⟨c, r, ha, hr⟩ := back_of_name ht hc a
    rw [hr] at h
    obtain rfl : c = '(' := (List.cons.inj h).1
    exact Bool.noConfusion ha
  | some c =>
    obtain ⟨_, r, hr⟩ := back_of_closer hc a
    rw [hr] at h
    obtain rfl : c = '(' := (List.cons.inj h).1
    cases t <;> simp [closer] at hc

/-! ## types written alike -/

/-- the characters that do not stand in names -/
def endsName (c : Char) : Bool := !isAffixChar c

/-- from its end the text of a type can be read -/
theorem readable_back {t : TypeExpr} (ht : Plain t) :
    Text.Readable endsName Plain back Eq t := by
  have chars : ∀ {n : String}, (∀ c ∈ n.toList, isAffixChar c = true) →
      ∀ c ∈ n.toList.reverse, endsName c = false := by
    intro n hn c hc
    rw [endsName, hn c (List.mem_reverse.mp hc)]
    rfl
  have names : ∀ {m n : String} {a b : List Char}, (∀ c ∈ m.toList, isAffixChar c = true) →
      (∀ c ∈ n.toList, isAffixChar c = true) → Text.Ends endsName a → Text.Ends endsName b →
      m.toList.reverse ++ a = n.toList.reverse ++ b → m = n ∧ a = b := by
    intro m n a b hm hn ha hb h
    obtain ⟨e, hab⟩ := Text.append_inj_of_ends (chars hm) (chars hn) ha hb h
    exact ⟨String.toList_inj.mp (List.reverse_inj.mp e), hab⟩
  induction ht with
  | name hne hn =>
    intro u a b hu ha hb h
    have hc := closer_eq (.name hne hn) hu h
    cases hu with
    | name _ hm =>
      rw [back_name, back_name] at h
      obtain ⟨rfl, hab⟩ := names hn hm ha hb h
      exact ⟨rfl, hab⟩
    | array | union | apply => simp [closer] at hc
  | array ht ih =>
    intro u a b hu ha hb h
    have hc := closer_eq (.array ht) hu h
    cases hu with
    | array hu =>
      rw [back_array, back_array] at h
      obtain ⟨rfl, hab⟩ := ih _ a b hu ha hb (List.cons.inj (List.cons.inj h).2).2
      exact ⟨rfl, hab⟩
    | name | union | apply => simp [closer] at hc
  | @union ts hts ih =>
    intro u a b hu ha hb h
    have hc := closer_eq (.union hts) hu h
    cases hu with
    | @union us hus =>
      rw [back_union, back_union] at h
      obtain ⟨hf, hab⟩ := Text.joined_inj rfl rfl (by decide) (fun t a b ht => back_ne_paren ht a b)
        (fun t ht => ⟨hts t (List.mem_reverse.mp ht), ih t (List.mem_reverse.mp ht)⟩)
        (fun t ht => hus t (List.mem_reverse.mp ht)) (List.cons.inj h).2
      exact ⟨congrArg union (List.reverse_inj.mp (List.forall₂_eq_eq_eq ▸ hf)), hab⟩
    | name | array | apply => simp [closer] at hc
  | @apply g t hne hg ht ih =>
    intro u a b hu ha hb h
    have hc := closer_eq (.apply hne hg ht) hu h
    cases hu with
    | @apply f u _ hf hu =>
      rw [back_apply, back_apply] at h
      have ends : ∀ r : List Char, Text.Ends endsName ('<' :: r) :=
        fun _ => (rfl : endsName '<' = true)
      obtain ⟨rfl, hr⟩ := ih _ _ _ hu (ends _) (ends _) (List.cons.inj h).2
      obtain ⟨rfl, hab⟩ := names hg hf ha hb (List.cons.inj hr).2
      exact ⟨rfl, hab⟩
    | name | array | union => simp [closer] at hc

/-- types written alike are equal -/
theorem text_inj {t u : TypeExpr} (ht : Plain t) (hu : Plain u) (h : t.text = u.text) : t = u := by
  have e : t.back ++ [] = u.back ++ [] := by
    rw [List.append_nil, List.append_nil, back, back, h]
  exact (readable_back ht u [] [] hu trivial trivial e).1

/-- whether a type is an array -/
def isArray : TypeExpr → Bool
  | .array _ => true
  | _ => false

/-- only arrays are written as arrays -/
theorem isArrayText_eq {t : TypeExpr} (ht : Plain t) : t.isArrayText = t.isArray := by
  have h : t.isArrayText = [']', '['].isPrefixOf t.back := rfl
  have ha : t.back ++ [] = t.back := List.append_nil _
  cases hc : t.closer with
  | none =>
    obtain ⟨c, r, hr, e⟩ := back_of_name ht hc []
    have hne : (']' == c) = false := by
      refine beq_eq_false_iff_ne.mpr ?_
      rintro rfl
      exact Bool.noConfusion hr
    rw [h, ← ha, e, List.isPrefixOf_cons_cons, hne]
    cases t <;> first | rfl | simp [closer] at hc
  | some c =>
    cases t with
    | name n => simp [closer] at hc
    | array t => exact isArrayText_array t
    | union ts =>
      rw [h, ← ha, back_union]
      rfl
    | apply g t =>
      rw [h, ← ha, back_apply]
      rfl

end SampleTypes.TypeExpr
