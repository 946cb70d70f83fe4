import Mathlib.Data.List.Forall2
import SampleTypes.Json.Printer

/-!
# Texts between separators can be read

A text can be read if, followed by a delimiter or by nothing, it determines what it is the text
of, and the rest.  Then so can a list of such texts, with separators between them and a closing
character after them.

* `Ends D a`             `a` is nothing, or begins with a delimiter;
* `Readable D P f R x`   the text `f x` determines `x` up to `R`, among all things with `P`;
* `joined_inj`           texts that can be read, between separators.
-/

namespace SampleTypes.Text

open Json (joinWith joinWith_cons_cons)

/-- what can follow a text: nothing, or a delimiter and anything -/
def Ends (D : Char → Bool) : List Char → Prop
  | [] => True
  | c :: _ => D c = true

section
variable {D : Char → Bool}

/-- up to a delimiter two equal texts are equal, and so are the rests -/
theorem append_inj_of_ends {t u a b : List Char} (ht : ∀ c ∈ t, D c = false)
    (hu : ∀ c ∈ u, D c = false) (ha : Ends D a) (hb : Ends D b) (h : t ++ a = u ++ b) :
    t = u ∧ a = b := by
  induction t generalizing u with
  | nil =>
    cases u with
    | nil => exact ⟨rfl, h⟩
    | cons d u =>
      obtain rfl : a = d :: (u ++ b) := h
      exact absurd ha (by simp [Ends, hu d])
  | cons c t ih =>
    cases u with
    | nil =>
      obtain rfl : c :: (t ++ a) = b := h
      exact absurd hb (by simp [Ends, ht c])
    | cons d u =>
      obtain ⟨rfl, h'⟩ := List.cons.inj h
      obtain ⟨rfl, hab⟩ := ih (fun c hc => ht c (List.mem_cons_of_mem _ hc))
        (fun c hc => hu c (List.mem_cons_of_mem _ hc)) h'
      exact ⟨rfl, hab⟩

end

section
variable {α : Type}

/-- the text `f x`, before a delimiter or the end, determines `x` up to `R`, and the rest -/
def Readable (D : Char → Bool) (P : α → Prop) (f : α → List Char) (R : α → α → Prop) (x : α) :
    Prop :=
  ∀ y a b, P y → Ends D a → Ends D b → f x ++ a = f y ++ b → R x y ∧ a = b

/-- what follows the first of some texts in a list of them that `close` ends -/
def afterFirst (sep : List Char) (f : α → List Char) (close : Char) (a : List Char) :
    List α → List Char
  | [] => close :: a
  | xs => sep ++ (joinWith sep (xs.map f) ++ close :: a)

theorem joinWith_append (sep : List Char) (f : α → List Char) (close : Char) (a : List Char)
    (x : α) (xs : List α) :
    joinWith sep ((x :: xs).map f) ++ close :: a = f x ++ afterFirst sep f close a xs := by
  cases xs with
  | nil => rfl
  | cons y ys =>
    rw [List.map_cons, List.map_cons, joinWith_cons_cons, afterFirst, List.map_cons,
      List.append_assoc, List.append_assoc]
    exact fun e => List.cons_ne_nil _ _ e

variable {D : Char → Bool} {P : α → Prop} {f : α → List Char} {R : α → α → Prop} {close s : Char}
  {sep : List Char}

theorem ends_afterFirst (hc : D close = true) (hs : D s = true) (a : List Char) (xs : List α) :
    Ends D (afterFirst (s :: sep) f close a xs) := by
  cases xs with
  | nil => exact hc
  | cons x xs => exact hs

/-- texts that can be read, between separators that begin with `s` -/
theorem joined_inj (hc : D close = true) (hs : D s = true) (hne : close ≠ s)
    (hf : ∀ x a b, P x → f x ++ a ≠ close :: b) {xs ys : List α}
    (hx : ∀ x ∈ xs, P x ∧ Readable D P f R x) (hy : ∀ y ∈ ys, P y) {a b : List Char}
    (h : joinWith (s :: sep) (xs.map f) ++ close :: a =
      joinWith (s :: sep) (ys.map f) ++ close :: b) : List.Forall₂ R xs ys ∧ a = b := by
  induction xs generalizing ys with
  | nil =>
    cases ys with
    | nil => exact ⟨List.Forall₂.nil, (List.cons.inj h).2⟩
    | cons y ys =>
      rw [joinWith_append] at h
      exact absurd h.symm (hf y _ a (hy y (by simp)))
  | cons x xs ih =>
    rw [joinWith_append] at h
    obtain ⟨hp, hread⟩ := hx x (by simp)
    cases ys with
    | nil => exact absurd h (hf x _ b hp)
    | cons y ys =>
      rw [joinWith_append] at h
      obtain ⟨hxy, hr⟩ := hread y _ _ (hy y (by simp)) (ends_afterFirst hc hs a xs)
        (ends_afterFirst hc hs b ys) h
      have hrest : List.Forall₂ R xs ys ∧ a = b := by
        cases xs with
        | nil =>
          cases ys with
          | nil => exact ⟨List.Forall₂.nil, (List.cons.inj hr).2⟩
          | cons z zs => exact absurd (List.cons.inj hr).1 hne
        | cons z zs =>
          cases ys with
          | nil => exact absurd (List.cons.inj hr).1.symm hne
          | cons u us =>
            refine ih (fun x hm => hx x (List.mem_cons_of_mem _ hm))
              (fun y hm => hy y (List.mem_cons_of_mem _ hm)) ?_
            exact List.append_cancel_left hr
      exact ⟨List.Forall₂.cons hxy hrest.1, hrest.2⟩

end

end SampleTypes.Text
