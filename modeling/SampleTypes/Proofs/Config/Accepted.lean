import Mathlib.Data.List.Forall2
import SampleTypes.Config.Model
import SampleTypes.Proofs.Except

/-!
# What validators accept

A validator enforces the forms if what it accepts as a value of a form is one: within the limits,
with the text that was given, with what stands in the absence of a setting, and without keys that
are no settings.  How it reads numbers and truth values is left to it.

* `SettingForm.Accepts`      data and a value of a form that it can be accepted as;
* `Validator.Enforces`       a validator that accepts nothing else;
* `enforces_check`           the checks of this project do so;
* `SettingForm.Closed`       data of a form without unknown keys at any level;
* `SettingForm.closed_of_accepts`    what is accepted is such data;
* `SettingForm.closed_of_expanded`   and it was before its references were replaced.
-/

namespace SampleTypes

/-- an integer within limits -/
structure IntLimits.Admits (l : IntLimits) (n : Int) : Prop where
  least : ∀ m, l.least = some m → m ≤ n
  greatest : ∀ m, l.greatest = some m → n ≤ m
  bound : ∀ m, l.bound = some m → m < n

namespace Checked

/-- every key is a name of one of the settings, and the one that it is read from -/
def Known (names : List SettingName) (es : List (Key × Data)) : Prop :=
  ∀ k ∈ es.map (·.1), ∃ n ∈ names, ∃ name, (name = n.written ∨ name = n.plain) ∧
    (settingAt? es n).map (·.1) = some name ∧ k = .text name

/-- the value of a setting, accepted by `R`, or what stands in its absence -/
def Given (es : List (Key × Data)) (n : SettingName) (absent : Option SettingValue)
    (R : Data → SettingValue → Prop) (x : SettingValue) : Prop :=
  match settingAt? es n with
  | some (_, v) => R v x
  | none => absent = some x

/-- the items of a list, or the members of a set in some order -/
def Lists (v : Data) (vs : List Data) : Prop :=
  v = .list vs ∨ ∃ ks, v = .set ks ∧ vs.Perm (ks.map .ofKey)

/-- an entry with its value accepted by `R`; a key that is a text stays as it is -/
def KeepsKey (R : Data → SettingValue → Prop) (e : Key × Data) (p : String × SettingValue) :
    Prop :=
  (∀ s, e.1 = .text s → p.1 = s) ∧ R e.2 p.2

end Checked

open Checked

mutual

/-- data and a value of a form that it can be accepted as -/
def SettingForm.Accepts : SettingForm → Data → SettingValue → Prop
  | .text least, v, x => ∃ s, x = .text s ∧ least ≤ s.length ∧ ∀ t, v = .text t → s = t
  | .bool, v, x => ∃ b, x = .bool b ∧ ∀ c, v = .bool c → b = c
  | .int limits, v, x => ∃ n, x = .int n ∧ limits.Admits n ∧ ∀ m, v = .int m → n = m
  | .choice names, v, x => ∃ s ∈ names, v = .text s ∧ x = .text s
  | .optional f, v, x => v = .null ∧ x = .null ∨ v ≠ .null ∧ f.Accepts v x
  | .list f, v, x => ∃ vs xs, Lists v vs ∧ x = .list xs ∧ List.Forall₂ f.Accepts vs xs
  | .mapping f, v, x => ∃ es ps, v = .mapping es ∧ x = .mapping (Fields.ofPairs ps) ∧
      List.Forall₂ (KeepsKey f.Accepts) es ps
  | .either f g, v, x => f.Accepts v x ∨ g.Accepts v x
  | .model _ ss, v, x => ∃ es ps, v = .mapping es ∧ x = .mapping ps ∧ Known ss.names es ∧
      ss.Accept es ps

/-- entries and the values of settings that they can be accepted as, under their plain names -/
def SettingList.Accept :
    SettingList → List (Key × Data) → List (String × SettingValue) → Prop
  | .nil, _, ps => ps = []
  | .cons n absent f rest, es, ps => ∃ x qs, ps = (n.plain, x) :: qs ∧
      Given es n absent f.Accepts x ∧ rest.Accept es qs

end

/-- a validator that accepts data only as a value of the form -/
def Validator.Enforces (validate : Validator) : Prop :=
  ∀ f v x, validate f v = .accepted x → f.Accepts v x

/-! ## the checks of this project -/

theorem IntLimits.admits_of_complaint {l : IntLimits} {n : Int} (h : l.complaint? n = none) :
    l.Admits n := by
  simp only [complaint?, Option.orElse_eq_orElse, Option.orElse_eq_or, Option.or_eq_none_iff,
    Option.map_eq_none_iff, Option.filter_eq_none_iff, decide_eq_true_eq] at h
  obtain ⟨hleast, hgreatest, hbound⟩ := h
  exact ⟨fun m hm => Int.not_lt.mp (hleast m hm), fun m hm => Int.not_lt.mp (hgreatest m hm),
    fun m hm => Int.not_le.mp (hbound m hm)⟩

namespace Checked

section
variable {α β : Type}

theorem map_accepted_iff {f : α → β} {x : Checked α} {b : β} :
    x.map f = .accepted b ↔ ∃ a, x = .accepted a ∧ f a = b := by
  cases x <;> simp [map]

theorem all_accepted_iff {xs : List (Checked α)} {as : List α} :
    all xs = .accepted as ↔ xs = as.map .accepted := by
  induction xs generalizing as with
  | nil => cases as <;> simp [all]
  | cons x xs ih =>
    rw [all, both_accepted_iff]
    cases as with
    | nil => cases x <;> simp [map]
    | cons a as => cases x <;> simp [map, ih, and_comm, and_assoc]

theorem itemsOf_accepted_iff {check : Data → Checked α} {xs : List Data} {as : List α} :
    itemsOf check xs = .accepted as ↔ List.Forall₂ (fun x a => check x = .accepted a) xs as := by
  rw [itemsOf, all_accepted_iff]
  generalize 0 = i
  induction xs generalizing i as with
  | nil => cases as <;> simp
  | cons x xs ih =>
    cases as with
    | nil => simp
    | cons a as =>
      rw [List.zipIdx_cons, List.map_cons, List.map_cons, List.cons.injEq, List.forall₂_cons, ih]
      exact and_congr_left' within_accepted_iff

theorem either_accepted {x y : Checked α} {a : α} (h : either x y = .accepted a) :
    x = .accepted a ∨ y = .accepted a := by
  cases x with
  | accepted b => exact .inl h
  | rejected ps =>
    cases y with
    | accepted b => exact .inr h
    | rejected qs => cases h

end

section
variable {es : List (Key × Data)}

theorem Given.read_or_absent {n : SettingName} {absent : Option SettingValue}
    {R : Data → SettingValue → Prop} {x : SettingValue} (h : Given es n absent R x) :
    (∃ v, R v x) ∨ absent = some x := by
  unfold Given at h
  split at h
  · exact .inl ⟨_, h⟩
  · exact .inr h

theorem settingAt?_name {n : SettingName} {name : String} {v : Data}
    (h : settingAt? es n = some (name, v)) : name = n.written ∨ name = n.plain := by
  rw [settingAt?] at h
  cases hw : valueAt? es n.written with
  | some w =>
    rw [hw] at h
    exact .inl (Prod.mk.inj (Option.some.inj h)).1.symm
  | none =>
    rw [hw] at h
    obtain ⟨_, _, h⟩ := Option.map_eq_some_iff.mp h
    exact .inr (Prod.mk.inj h).1.symm

theorem strays_eq_nil_iff {names : List SettingName} : strays es names = [] ↔ Known names es := by
  rw [strays, List.filterMap_eq_nil_iff, Known, List.forall_mem_map]
  refine forall₂_congr fun e _ => ?_
  constructor
  · intro h
    cases hk : e.1 with
    | text s =>
      have hmem : s ∈ names.filterMap fun n => (settingAt? es n).map (·.1) := by
        by_contra hno
        simp [stray?, hk, hno] at h
      obtain ⟨n, hn, hname⟩ := List.mem_filterMap.mp hmem
      obtain ⟨⟨name, v⟩, hv, rfl⟩ := Option.map_eq_some_iff.mp hname
      exact ⟨n, hn, name, settingAt?_name hv, hname, rfl⟩
    | _ => simp [stray?, hk] at h
  · rintro ⟨n, hn, name, -, hname, hk⟩
    have hmem : name ∈ names.filterMap fun n => (settingAt? es n).map (·.1) :=
      List.mem_filterMap.mpr ⟨n, hn, hname⟩
    simp [stray?, hk, hmem]

end

section
variable {check : Data → Checked SettingValue} {R : Data → SettingValue → Prop}
  (hR : ∀ v x, check v = .accepted x → R v x)
include hR

theorem given_of_settingOf {es : List (Key × Data)} {n : SettingName}
    {absent : Option SettingValue} {x : SettingValue}
    (h : settingOf check absent es n = .accepted x) : Given es n absent R x := by
  unfold settingOf at h
  unfold Given
  cases hs : settingAt? es n with
  | some p =>
    rw [hs] at h
    exact hR _ _ (within_accepted_iff.mp h)
  | none =>
    rw [hs] at h
    cases absent with
    | some y => exact congrArg some (accepted.inj h)
    | none => cases h

theorem forall₂_of_itemsOf {vs : List Data} {xs : List SettingValue}
    (h : itemsOf check vs = .accepted xs) : List.Forall₂ R vs xs :=
  (itemsOf_accepted_iff.mp h).imp hR

theorem lists_of_listOf {v : Data} {xs : List SettingValue} (h : listOf check v = .accepted xs) :
    ∃ vs, Lists v vs ∧ List.Forall₂ R vs xs := by
  cases v with
  | list vs => exact ⟨vs, .inl rfl, forall₂_of_itemsOf hR h⟩
  | set ks => exact ⟨_, .inr ⟨ks, rfl, .refl _⟩, forall₂_of_itemsOf hR h⟩
  | _ => cases h

theorem keepsKey_of_entryOf {e : Key × Data} {p : String × SettingValue}
    (h : entryOf check e = .accepted p) : KeepsKey R e p := by
  obtain ⟨g, x, hg, hx, rfl⟩ := both_accepted_iff.mp (within_accepted_iff.mp h)
  obtain ⟨s, hs, rfl⟩ := map_accepted_iff.mp hg
  refine ⟨fun t ht => ?_, hR _ _ hx⟩
  rw [within_accepted_iff, ht] at hs
  exact (accepted.inj hs).symm

theorem entries_of_entriesOf {v : Data} {qs : List (String × SettingValue)}
    (h : entriesOf check v = .accepted qs) :
    ∃ es ps, v = .mapping es ∧ qs = Fields.ofPairs ps ∧ List.Forall₂ (KeepsKey R) es ps := by
  cases v with
  | mapping es =>
    obtain ⟨ps, hps, rfl⟩ := map_accepted_iff.mp h
    refine ⟨es, ps, rfl, rfl, ?_⟩
    rw [all_accepted_iff] at hps
    have hpairs : List.Forall₂ (fun e p => entryOf check e = .accepted p) es ps :=
      List.forall₂_map_left_iff.mp (List.forall₂_map_right_iff.mp
        (hps ▸ List.forall₂_eq_eq_eq ▸ rfl))
    exact hpairs.imp fun e p => keepsKey_of_entryOf hR
  | _ => cases h

theorem orNull_accepted {v : Data} {x : SettingValue} (h : orNull check v = .accepted x) :
    v = .null ∧ x = .null ∨ v ≠ .null ∧ R v x := by
  cases v with
  | null => exact .inl ⟨rfl, (accepted.inj h).symm⟩
  | _ => exact .inr ⟨by simp, hR _ _ h⟩

end

end Checked

mutual

theorem SettingForm.accepts_of_check :
    ∀ (f : SettingForm) (v : Data) (x : SettingValue), f.check v = .accepted x → f.Accepts v x
  | .text least, v, x, h => by
    obtain ⟨s, hs, h⟩ := andThen_accepted_iff.mp h
    split at h
    · cases h
    · next hlen =>
      refine ⟨s, (accepted.inj h).symm, Nat.not_lt.mp hlen, fun t ht => ?_⟩
      rw [ht] at hs
      exact (accepted.inj hs).symm
  | .bool, v, x, h => by
    obtain ⟨b, hb, rfl⟩ := map_accepted_iff.mp h
    refine ⟨b, rfl, fun c hc => ?_⟩
    rw [hc] at hb
    exact (accepted.inj hb).symm
  | .int limits, v, x, h => by
    obtain ⟨n, hn, h⟩ := andThen_accepted_iff.mp h
    split at h
    · cases h
    · next hfine =>
      refine ⟨n, (accepted.inj h).symm, IntLimits.admits_of_complaint hfine, fun m hm => ?_⟩
      rw [hm] at hn
      exact (accepted.inj hn).symm
  | .choice names, v, x, h => by
    cases v with
    | text s =>
      by_cases hs : s ∈ names
      · refine ⟨s, hs, rfl, ?_⟩
        rw [SettingForm.check, choiceOf, if_pos (List.contains_iff_mem.mpr hs)] at h
        exact (accepted.inj h).symm
      · rw [SettingForm.check, choiceOf, if_neg (by simpa using hs)] at h
        cases h
    | _ => cases h
  | .optional f, v, x, h => orNull_accepted (SettingForm.accepts_of_check f) h
  | .list f, v, x, h => by
    obtain ⟨xs, hxs, rfl⟩ := map_accepted_iff.mp h
    obtain ⟨vs, hvs, hall⟩ := lists_of_listOf (SettingForm.accepts_of_check f) hxs
    exact ⟨vs, xs, hvs, rfl, hall⟩
  | .mapping f, v, x, h => by
    obtain ⟨qs, hqs, rfl⟩ := map_accepted_iff.mp h
    obtain ⟨es, ps, rfl, rfl, hall⟩ := entries_of_entriesOf (SettingForm.accepts_of_check f) hqs
    exact ⟨es, ps, rfl, rfl, hall⟩
  | .either f g, v, x, h => (either_accepted h).imp
      (fun h => SettingForm.accepts_of_check f v x (within_accepted_iff.mp h))
      (fun h => SettingForm.accepts_of_check g v x (within_accepted_iff.mp h))
  | .model name ss, v, x, h => by
    cases v with
    | mapping es =>
      obtain ⟨hx, hnone⟩ := besides_accepted_iff.mp h
      obtain ⟨ps, hps, rfl⟩ := map_accepted_iff.mp hx
      exact ⟨es, ps, rfl, rfl, strays_eq_nil_iff.mp hnone, SettingList.accept_of_check ss es ps hps⟩
    | _ => cases h

theorem SettingList.accept_of_check :
    ∀ (ss : SettingList) (es : List (Key × Data)) (ps : List (String × SettingValue)),
      ss.check es = .accepted ps → ss.Accept es ps
  | .nil, es, ps, h => (accepted.inj h).symm
  | .cons n absent f rest, es, ps, h => by
    obtain ⟨g, qs, hg, hqs, rfl⟩ := both_accepted_iff.mp h
    obtain ⟨x, hx, rfl⟩ := map_accepted_iff.mp hg
    exact ⟨x, qs, rfl, given_of_settingOf (SettingForm.accepts_of_check f) hx,
      SettingList.accept_of_check rest es qs hqs⟩

end

theorem enforces_check : Validator.Enforces SettingForm.check := SettingForm.accepts_of_check

/-! ## data without unknown keys -/

mutual

/-- data of the shape of a form in which no key is unknown at any level -/
def SettingForm.Closed : SettingForm → Data → Prop
  | .optional f, v => v = .null ∨ f.Closed v
  | .list f, v => ∃ vs, Lists v vs ∧ ∀ w ∈ vs, f.Closed w
  | .mapping f, v => ∃ es, v = .mapping es ∧ ∀ e ∈ es, f.Closed e.2
  | .either f g, v => f.Closed v ∨ g.Closed v
  | .model _ ss, v => ∃ es, v = .mapping es ∧ Known ss.names es ∧ ss.Closed es
  | _, _ => True

def SettingList.Closed : SettingList → List (Key × Data) → Prop
  | .nil, _ => True
  | .cons n _ f rest, es =>
    (∀ name v, settingAt? es n = some (name, v) → f.Closed v) ∧ rest.Closed es

end

/-- an item of the left of two lists whose items belong together has its item of the right -/
theorem exists_of_forall₂ {α β : Type} {R : α → β → Prop} {as : List α} {bs : List β}
    (h : List.Forall₂ R as bs) : ∀ {a}, a ∈ as → ∃ b ∈ bs, R a b := by
  induction h with
  | nil => simp
  | cons head _ ih =>
    intro a ha
    rcases List.mem_cons.mp ha with rfl | ha
    · exact ⟨_, List.mem_cons_self, head⟩
    · obtain ⟨b, hb, hab⟩ := ih ha
      exact ⟨b, List.mem_cons_of_mem _ hb, hab⟩

theorem forall_of_forall₂ {α β : Type} {R : α → β → Prop} {P : α → Prop} {as : List α}
    {bs : List β} (h : List.Forall₂ R as bs) (hP : ∀ a b, R a b → P a) : ∀ a ∈ as, P a :=
  fun a ha => let ⟨b, _, hab⟩ := exists_of_forall₂ h ha; hP a b hab

mutual

theorem SettingForm.closed_of_accepts :
    ∀ (f : SettingForm) (v : Data) (x : SettingValue), f.Accepts v x → f.Closed v
  | .optional f, v, x, h => h.imp And.left fun h => SettingForm.closed_of_accepts f v x h.2
  | .list f, v, x, h => by
    obtain ⟨vs, xs, hvs, -, hall⟩ := h
    exact ⟨vs, hvs, forall_of_forall₂ hall (SettingForm.closed_of_accepts f)⟩
  | .mapping f, v, x, h => by
    obtain ⟨es, ps, rfl, -, hall⟩ := h
    exact ⟨es, rfl, forall_of_forall₂ hall fun e p h =>
      SettingForm.closed_of_accepts f e.2 p.2 h.2⟩
  | .either f g, v, x, h =>
    h.imp (SettingForm.closed_of_accepts f v x) (SettingForm.closed_of_accepts g v x)
  | .model _ ss, v, x, h => by
    obtain ⟨es, ps, rfl, -, hknown, hall⟩ := h
    exact ⟨es, rfl, hknown, SettingList.closed_of_accept ss es ps hall⟩
  | .text _, _, _, _ => trivial
  | .bool, _, _, _ => trivial
  | .int _, _, _, _ => trivial
  | .choice _, _, _, _ => trivial

theorem SettingList.closed_of_accept :
    ∀ (ss : SettingList) (es : List (Key × Data)) (ps : List (String × SettingValue)),
      ss.Accept es ps → ss.Closed es
  | .nil, _, _, _ => trivial
  | .cons n absent f rest, es, ps, h => by
    obtain ⟨x, qs, rfl, hgiven, hrest⟩ := h
    refine ⟨fun name v hv => ?_, SettingList.closed_of_accept rest es qs hrest⟩
    rw [Given, hv] at hgiven
    exact SettingForm.closed_of_accepts f v x hgiven

end

/-! ## the replacement of references -/

namespace Data

variable {env : Environment}

theorem expandItems_ok_iff {xs ys : List Data} :
    expandItems env xs = .ok ys ↔ List.Forall₂ (fun x y => x.expand env = .ok y) xs ys := by
  induction xs generalizing ys with
  | nil => simp [expandItems, eq_comm]
  | cons x xs ih =>
    rw [List.forall₂_cons_left_iff]
    simp only [expandItems]
    cases hx : x.expand env with
    | error name => simp [bind, Except.bind]
    | ok y =>
      cases hxs : expandItems env xs with
      | error name => simp [bind, Except.bind, ← ih, hxs]
      | ok zs =>
        simp only [bind, Except.bind, pure, Except.pure, ← ih, hxs, Except.ok.injEq]
        constructor
        · rintro rfl
          exact ⟨y, zs, rfl, rfl, rfl⟩
        · rintro ⟨_, _, rfl, rfl, rfl⟩
          rfl

theorem expandEntries_ok_iff {es es' : List (Key × Data)} :
    expandEntries env es = .ok es' ↔
      List.Forall₂ (fun e e' => e.1 = e'.1 ∧ e.2.expand env = .ok e'.2) es es' := by
  induction es generalizing es' with
  | nil => simp [expandEntries, eq_comm]
  | cons e es ih =>
    obtain ⟨k, v⟩ := e
    rw [List.forall₂_cons_left_iff]
    simp only [expandEntries]
    cases hv : v.expand env with
    | error name => simp [bind, Except.bind]
    | ok w =>
      cases hes : expandEntries env es with
      | error name => simp [bind, Except.bind, ← ih, hes]
      | ok fs =>
        simp only [bind, Except.bind, pure, Except.pure, ← ih, hes, Except.ok.injEq, Prod.exists]
        constructor
        · rintro rfl
          exact ⟨k, w, fs, ⟨rfl, rfl⟩, rfl, rfl⟩
        · rintro ⟨_, _, _, ⟨rfl, rfl⟩, rfl, rfl⟩
          rfl

/-- only a list becomes a list, by its items -/
theorem expand_list_iff {v : Data} {ys : List Data} :
    v.expand env = .ok (.list ys) ↔ ∃ xs, v = .list xs ∧ expandItems env xs = .ok ys := by
  cases v <;> simp [expand, map_ok_iff]

theorem expand_mapping_iff {v : Data} {es' : List (Key × Data)} :
    v.expand env = .ok (.mapping es') ↔
      ∃ es, v = .mapping es ∧ expandEntries env es = .ok es' := by
  cases v <;> simp [expand, map_ok_iff]

/-- null stays, and nothing else becomes null -/
theorem expand_null_iff {v : Data} : v.expand env = .ok .null ↔ v = .null := by
  cases v <;> simp [expand, map_ok_iff]

theorem expand_set_iff {v : Data} {ks : List Key} : v.expand env = .ok (.set ks) ↔ v = .set ks := by
  cases v <;> simp [expand, map_ok_iff]

end Data

namespace Checked

variable {env : Environment} {es es' : List (Key × Data)}

/-- the settings of entries before and after the replacement -/
theorem settingAt?_expanded (h : Data.expandEntries env es = .ok es') (n : SettingName) :
    Option.Rel (fun p p' => p.1 = p'.1 ∧ p.2.expand env = .ok p'.2) (settingAt? es n)
      (settingAt? es' n) := by
  have hvalue (name : String) : Option.Rel (fun v v' => Data.expand env v = .ok v')
      (valueAt? es name) (valueAt? es' name) := by
    have h := Data.expandEntries_ok_iff.mp h
    clear * - h
    induction h with
    | nil => exact .none
    | @cons e e' es es' head _ ih =>
      rw [valueAt?, valueAt?, List.find?_cons, List.find?_cons, head.1]
      cases e'.1 == .text name with
      | true => exact .some head.2
      | false => exact ih
  have hwritten := hvalue n.written
  have hplain := hvalue n.plain
  rw [settingAt?, settingAt?]
  generalize valueAt? es n.written = v, valueAt? es' n.written = v' at hwritten
  generalize valueAt? es n.plain = w, valueAt? es' n.plain = w' at hplain
  cases hwritten with
  | some h => exact .some ⟨rfl, h⟩
  | none => cases hplain with
    | some h => exact .some ⟨rfl, h⟩
    | none => exact .none

theorem known_expanded {names : List SettingName} (h : Data.expandEntries env es = .ok es') :
    Known names es' ↔ Known names es := by
  have hname (n : SettingName) : (settingAt? es' n).map (·.1) = (settingAt? es n).map (·.1) := by
    have hsetting := settingAt?_expanded h n
    generalize settingAt? es n = p, settingAt? es' n = p' at hsetting
    cases hsetting with
    | some h => exact congrArg some h.1.symm
    | none => rfl
  have hkeys : es'.map (·.1) = es.map (·.1) := by
    have h := Data.expandEntries_ok_iff.mp h
    clear * - h
    induction h with
    | nil => rfl
    | cons head _ ih => rw [List.map_cons, List.map_cons, head.1, ih]
  rw [Known, Known, hkeys]
  simp only [hname]

theorem lists_expanded {v v' : Data} {vs' : List Data} (hv : v.expand env = .ok v')
    (h : Lists v' vs') :
    ∃ vs, Lists v vs ∧ List.Forall₂ (fun w w' => w.expand env = .ok w' ∨ w = w') vs vs' := by
  obtain rfl | ⟨ks, rfl, hperm⟩ := h
  · obtain ⟨vs, rfl, hvs⟩ := Data.expand_list_iff.mp hv
    exact ⟨vs, .inl rfl, (Data.expandItems_ok_iff.mp hvs).imp fun _ _ => .inl⟩
  · obtain rfl := Data.expand_set_iff.mp hv
    exact ⟨vs', .inr ⟨ks, rfl, hperm⟩, List.forall₂_same.mpr fun _ _ => .inr rfl⟩

end Checked

mutual

theorem SettingForm.closed_of_expanded {env : Environment} :
    ∀ (f : SettingForm) (v v' : Data), v.expand env = .ok v' → f.Closed v' → f.Closed v
  | .optional f, v, v', hv, h => h.imp
      (fun hnull => Data.expand_null_iff.mp (hnull ▸ hv))
      (SettingForm.closed_of_expanded f v v' hv)
  | .list f, v, v', hv, h => by
    obtain ⟨vs', hvs', hall⟩ := h
    obtain ⟨vs, hvs, hpairs⟩ := lists_expanded hv hvs'
    refine ⟨vs, hvs, fun w hw => ?_⟩
    obtain ⟨w', hw', hpair⟩ := exists_of_forall₂ hpairs hw
    rcases hpair with hexpand | rfl
    · exact SettingForm.closed_of_expanded f w w' hexpand (hall w' hw')
    · exact hall w hw'
  | .mapping f, v, v', hv, h => by
    obtain ⟨es', rfl, hall⟩ := h
    obtain ⟨es, rfl, hes⟩ := Data.expand_mapping_iff.mp hv
    refine ⟨es, rfl, fun e he => ?_⟩
    obtain ⟨e', he', -, hexpand⟩ := exists_of_forall₂ (Data.expandEntries_ok_iff.mp hes) he
    exact SettingForm.closed_of_expanded f e.2 e'.2 hexpand (hall e' he')
  | .either f g, v, v', hv, h => h.imp (SettingForm.closed_of_expanded f v v' hv)
      (SettingForm.closed_of_expanded g v v' hv)
  | .model _ ss, v, v', hv, h => by
    obtain ⟨es', rfl, hknown, hall⟩ := h
    obtain ⟨es, rfl, hes⟩ := Data.expand_mapping_iff.mp hv
    exact ⟨es, rfl, (known_expanded hes).mp hknown,
      SettingList.closed_of_expanded ss es es' hes hall⟩
  | .text _, _, _, _, _ => trivial
  | .bool, _, _, _, _ => trivial
  | .int _, _, _, _, _ => trivial
  | .choice _, _, _, _, _ => trivial

theorem SettingList.closed_of_expanded {env : Environment} :
    ∀ (ss : SettingList) (es es' : List (Key × Data)), Data.expandEntries env es = .ok es' →
      ss.Closed es' → ss.Closed es
  | .nil, _, _, _, _ => trivial
  | .cons n _ f rest, es, es', hes, h => by
    refine ⟨fun name v hv => ?_, SettingList.closed_of_expanded rest es es' hes h.2⟩
    have hsetting := settingAt?_expanded hes n
    rw [hv] at hsetting
    generalize hp : settingAt? es' n = p at hsetting
    cases hsetting with
    | some hpair => exact SettingForm.closed_of_expanded f _ _ hpair.2 (h.1 _ _ hp)

end

end SampleTypes
