import Mathlib.Data.List.Infix
import SampleTypes.Json.Printer
import SampleTypes.Text.Blank
import SampleTypes.Text.Lines

/-!
# Lines and what stands on them

* `infix_of_mem_splitAt`, `trimWith_isInfix`   lines and trimmed texts are parts of the text;
* `splitAt_joinWith`                           pieces with a separator between each two come back;
* `splitAt_append_cons`, `splitAt_joinWith_flatMap`   the pieces of a text in parts;
* `joinWith_splitAt`                           the pieces of a text make up the text;
* `lines_eq_self_iff`                          a text of one line;
* `flatMap_lines_eq_self_iff`                  texts of one line each are their own lines;
* `trimWith_of_ends`                           a text that is trimmed already.
-/

namespace SampleTypes.Text

open Json (joinWith joinWith_cons_cons)

theorem splitAt_cons {sep c : Char} {cs l : List Char} {ls : List (List Char)} (h : c ≠ sep)
    (hl : splitAt sep cs = l :: ls) : splitAt sep (c :: cs) = (c :: l) :: ls := by
  rw [splitAt, if_neg h, hl]

/-- the first piece starts the text, and every piece is a part of it -/
theorem infix_of_mem_splitAt (sep : Char) (cs : List Char) :
    (∀ l ∈ (splitAt sep cs).head?, l <+: cs) ∧ ∀ l ∈ splitAt sep cs, l <:+: cs := by
  induction cs with
  | nil => simp [splitAt]
  | cons c cs ih =>
    have hcons := List.suffix_cons c cs
    by_cases h : c = sep
    · rw [splitAt, if_pos h]
      refine ⟨by simp, fun l hl => ?_⟩
      rcases List.mem_cons.mp hl with rfl | hl
      · exact List.nil_infix
      · exact (ih.2 l hl).trans hcons.isInfix
    · obtain ⟨first, rest, hsplit⟩ := List.exists_cons_of_ne_nil (splitAt_ne_nil sep cs)
      rw [hsplit] at ih
      rw [splitAt_cons h hsplit]
      have hfirst : c :: first <+: c :: cs := List.prefix_cons_inj c |>.mpr (ih.1 first rfl)
      refine ⟨by simpa using hfirst, fun l hl => ?_⟩
      rcases List.mem_cons.mp hl with rfl | hl
      · exact hfirst.isInfix
      · exact (ih.2 l (List.mem_cons_of_mem _ hl)).trans hcons.isInfix

theorem dropEndWhile_isPrefix (p : Char → Bool) (cs : List Char) : dropEndWhile p cs <+: cs := by
  have h := List.dropWhile_suffix p (l := cs.reverse)
  rw [← List.reverse_prefix, List.reverse_reverse] at h
  exact h

theorem trimWith_isInfix (p : Char → Bool) (cs : List Char) : trimWith p cs <:+: cs :=
  (dropEndWhile_isPrefix p _).isInfix.trans (List.dropWhile_suffix p).isInfix

theorem splitAt_of_notMem {sep : Char} {l : List Char} (h : sep ∉ l) : splitAt sep l = [l] := by
  induction l with
  | nil => rfl
  | cons c l ih =>
    have hc : c ≠ sep := fun e => h (e ▸ List.mem_cons_self)
    exact splitAt_cons hc (ih fun hl => h (List.mem_cons_of_mem c hl))

theorem splitAt_append {sep : Char} {l : List Char} (h : sep ∉ l) (cs : List Char) :
    splitAt sep (l ++ sep :: cs) = l :: splitAt sep cs := by
  induction l with
  | nil => exact if_pos rfl
  | cons c l ih =>
    have hc : c ≠ sep := fun e => h (e ▸ List.mem_cons_self)
    exact splitAt_cons hc (ih fun hl => h (List.mem_cons_of_mem c hl))

/-- pieces without the separator come back, whether the text ends after the last of them or goes
on after one more separator -/
theorem splitAt_joinWith {sep : Char} {ls : List (List Char)} (hne : ls ≠ [])
    (h : ∀ l ∈ ls, sep ∉ l) : splitAt sep (joinWith [sep] ls) = ls ∧
      ∀ cs, splitAt sep (joinWith [sep] ls ++ sep :: cs) = ls ++ splitAt sep cs := by
  induction ls with
  | nil => exact absurd rfl hne
  | cons l ls ih =>
    have hl : sep ∉ l := h l List.mem_cons_self
    cases ls with
    | nil => exact ⟨splitAt_of_notMem hl, splitAt_append hl⟩
    | cons m ls =>
      obtain ⟨hall, hmore⟩ := ih (List.cons_ne_nil m ls) fun k hk => h k (List.mem_cons_of_mem l hk)
      rw [joinWith_cons_cons, List.append_assoc, List.singleton_append]
      refine ⟨by rw [splitAt_append hl, hall], fun cs => ?_⟩
      rw [List.append_assoc, List.cons_append, splitAt_append hl, hmore]
      rfl

theorem splitAt_append_cons (sep : Char) (l cs : List Char) :
    splitAt sep (l ++ sep :: cs) = splitAt sep l ++ splitAt sep cs := by
  induction l with
  | nil => exact if_pos rfl
  | cons c l ih =>
    by_cases hc : c = sep
    · rw [List.cons_append, splitAt, if_pos hc, splitAt, if_pos hc, ih, List.cons_append]
    · obtain ⟨first, rest, hsplit⟩ := List.exists_cons_of_ne_nil (splitAt_ne_nil sep l)
      rw [hsplit, List.cons_append] at ih
      rw [List.cons_append, splitAt_cons hc ih, splitAt_cons hc hsplit, List.cons_append]

/-- the pieces of texts with a separator between each two are the pieces of each -/
theorem splitAt_joinWith_flatMap (sep : Char) {ls : List (List Char)} (hne : ls ≠ []) :
    splitAt sep (joinWith [sep] ls) = ls.flatMap (splitAt sep) := by
  induction ls with
  | nil => exact absurd rfl hne
  | cons l ls ih =>
    cases ls with
    | nil => rw [joinWith, List.flatMap_singleton]
    | cons m ls =>
      rw [joinWith_cons_cons, List.append_assoc, List.singleton_append, splitAt_append_cons,
        List.flatMap_cons, ih (List.cons_ne_nil m ls)]

theorem joinWith_splitAt (sep : Char) (cs : List Char) :
    joinWith [sep] (splitAt sep cs) = cs := by
  induction cs with
  | nil => rfl
  | cons c cs ih =>
    obtain ⟨l, ls, hsplit⟩ := List.exists_cons_of_ne_nil (splitAt_ne_nil sep cs)
    rw [hsplit] at ih
    by_cases hc : c = sep
    · rw [splitAt, if_pos hc, hsplit, joinWith_cons_cons, ih, hc]
      rfl
    · rw [splitAt_cons hc hsplit]
      cases ls with
      | nil => exact congrArg (c :: ·) ih
      | cons m ls => exact congrArg (c :: ·) ih

theorem lines_eq_self_iff {cs : List Char} : lines cs = [cs] ↔ '\n' ∉ cs := by
  constructor
  · intro h hm
    obtain ⟨before, after, rfl⟩ := List.append_of_mem hm
    rw [lines, splitAt_append_cons] at h
    have hlen := congrArg List.length h
    have hbefore := List.length_pos_of_ne_nil (splitAt_ne_nil '\n' before)
    have hafter := List.length_pos_of_ne_nil (splitAt_ne_nil '\n' after)
    rw [List.length_append, List.length_singleton] at hlen
    omega
  · exact splitAt_of_notMem

theorem length_le_length_flatMap_lines (ls : List (List Char)) :
    ls.length ≤ (ls.flatMap lines).length := by
  induction ls with
  | nil => exact Nat.le_refl 0
  | cons l ls ih =>
    have hl := List.length_pos_of_ne_nil (splitAt_ne_nil '\n' l)
    rw [List.flatMap_cons, List.length_append, List.length_cons, lines]
    omega

/-- texts are their own lines if each of them is one line -/
theorem flatMap_lines_eq_self_iff {ls : List (List Char)} :
    ls.flatMap lines = ls ↔ ∀ l ∈ ls, '\n' ∉ l := by
  induction ls with
  | nil => simp
  | cons l ls ih =>
    rw [List.forall_mem_cons, ← ih, ← lines_eq_self_iff, List.flatMap_cons]
    constructor
    · intro h
      -- the other texts have as many lines as they are at least, so `l` has one
      obtain ⟨first, rest, hsplit⟩ := List.exists_cons_of_ne_nil (splitAt_ne_nil '\n' l)
      have hlines : lines l = first :: rest := hsplit
      rw [hlines, List.cons_append] at h
      obtain ⟨rfl, htail⟩ := List.cons.inj h
      have hlen := congrArg List.length htail
      have hle := length_le_length_flatMap_lines ls
      rw [List.length_append] at hlen
      obtain rfl : rest = [] := List.length_eq_zero_iff.mp (by omega)
      exact ⟨hlines, htail⟩
    · rintro ⟨hl, hls⟩
      rw [hl, hls, List.singleton_append]

/-- a text stays as it is if neither its first nor its last character is trimmed -/
theorem trimWith_of_ends {p : Char → Bool} {first last : Char} (hfirst : p first = false)
    (hlast : p last = false) (cs : List Char) :
    trimWith p (first :: (cs ++ [last])) = first :: (cs ++ [last]) := by
  unfold trimWith
  rw [List.dropWhile_cons_of_neg (by simp [hfirst])]
  exact dropEndWhile_append_of_neg (first :: cs) hlast

end SampleTypes.Text
