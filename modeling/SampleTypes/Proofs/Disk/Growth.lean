import SampleTypes.Disk.Write

/-!
# How a disk grows

Nothing is ever removed from a disk.  Making directories adds directories where nothing was, and
saving a text adds at most one file or replaces the bytes of one.  So a pathname that leads
somewhere, or that is refused for another reason than a missing item, does so ever after.

* `IsTree d`          every item stands in a directory, and relative pathnames start at one;
* `Extended d d'`     `d'` is `d` with more directories;
* `Grows d d'`        directories stay directories and files stay files;
* `locate_of_grows`   what a pathname leads to stays there;
* `save_cases`        what saving a text does to a disk;
* `IsTree.save`       the disk stays a tree.
-/

namespace SampleTypes

namespace Disk

structure IsTree (d : Disk) : Prop where
  here : d.item? d.here = some .directory
  parent : ∀ p i, d.item? p = some i → d.item? p.parent = some .directory

structure Extended (d d' : Disk) : Prop where
  here_eq : d'.here = d.here
  item : ∀ q, d'.item? q = d.item? q ∨ d.item? q = none ∧ d'.item? q = some .directory

structure Grows (d d' : Disk) : Prop where
  here_eq : d'.here = d.here
  directory : ∀ q, d.item? q = some .directory → d'.item? q = some .directory
  file : ∀ q bs, d.item? q = some (.file bs) → ∃ bs', d'.item? q = some (.file bs')

/-- where the steps of a pathname start -/
def start (d : Disk) (p : Pathname) : Place := if p.isRelative then d.here else .root

variable {d d' d'' : Disk} {p q : Place}

/-- a disk whose items stand in directories, as far as they are listed, is a tree -/
theorem isTree_of_items (hhere : d.item? d.here = some .directory)
    (h : ∀ e ∈ d.items, d.item? e.1.parent = some .directory) : d.IsTree := by
  refine ⟨hhere, fun p i hi => ?_⟩
  by_cases hp : p = .root
  · rw [hp]
    exact d.item?_root
  · rw [item?, if_neg hp, List.lookup_eq_some_iff] at hi
    obtain ⟨before, after, hitems, -⟩ := hi
    exact h (p, i) (by simp [hitems])

theorem ne_root_of_item (h : d.item? p ≠ some .directory) : p ≠ .root := by
  rintro rfl
  exact h d.item?_root

/-! ## growth -/

theorem Extended.refl (d : Disk) : Extended d d := ⟨rfl, fun _ => .inl rfl⟩

theorem Extended.trans (h : Extended d d') (h' : Extended d' d'') : Extended d d'' := by
  refine ⟨h'.here_eq.trans h.here_eq, fun q => ?_⟩
  rcases h'.item q with e | ⟨hnone, hdir⟩
  · rw [e]
    exact h.item q
  · rcases h.item q with e | ⟨_, hdir'⟩
    · exact .inr ⟨e ▸ hnone, hdir⟩
    · rw [hdir'] at hnone
      exact absurd hnone (by simp)

theorem Extended.item_eq (h : Extended d d') {i : Item} (hq : d.item? q = some i) :
    d'.item? q = some i := by
  rcases h.item q with e | ⟨hnone, _⟩
  · rw [e, hq]
  · rw [hq] at hnone
    exact absurd hnone (by simp)

theorem Extended.grows (h : Extended d d') : Grows d d' :=
  ⟨h.here_eq, fun _ hq => h.item_eq hq, fun _ bs hq => ⟨bs, h.item_eq hq⟩⟩

theorem Grows.refl (d : Disk) : Grows d d := (Extended.refl d).grows

theorem Grows.trans (h : Grows d d') (h' : Grows d' d'') : Grows d d'' := by
  refine ⟨h'.here_eq.trans h.here_eq, fun q hq => h'.directory q (h.directory q hq), ?_⟩
  intro q bs hq
  obtain ⟨bs', hq'⟩ := h.file q bs hq
  exact h'.file q bs' hq'

theorem Grows.some_iff (h : Grows d d') {i : Item} (hq : d.item? q = some i) :
    ∃ i', d'.item? q = some i' ∧ (i' = .directory ↔ i = .directory) := by
  cases i with
  | directory => exact ⟨_, h.directory q hq, Iff.rfl⟩
  | file bs =>
    obtain ⟨bs', hq'⟩ := h.file q bs hq
    exact ⟨_, hq', by simp⟩

theorem extended_put (h : d.item? p = none) : Extended d (d.put p .directory) := by
  have hp : p ≠ .root := ne_root_of_item (d := d) (by simp [h])
  refine ⟨rfl, fun q => ?_⟩
  by_cases hq : q = p
  · rw [hq]
    exact .inr ⟨h, item?_put_self d hp _⟩
  · exact .inl (item?_put_of_ne d hq _)

theorem grows_put_file (h : d.item? p ≠ some .directory) (bs : List Nat) :
    Grows d (d.put p (.file bs)) := by
  have hp := ne_root_of_item h
  refine ⟨rfl, fun q hq => ?_, fun q cs hq => ?_⟩
  · have hne : q ≠ p := fun e => h (e ▸ hq)
    rw [item?_put_of_ne d hne, hq]
  · by_cases hne : q = p
    · rw [hne]
      exact ⟨bs, item?_put_self d hp _⟩
    · exact ⟨cs, by rw [item?_put_of_ne d hne, hq]⟩

/-! ## walks -/

theorem walk_cons (d : Disk) (p : Place) (s : String) (ss : List String) :
    d.walk p (s :: ss) = match d.item? p with
      | none => .error .notFound
      | some (.file _) => .error .notDirectory
      | some .directory =>
        if stepCeiling < s.utf8ByteSize then .error .nameTooLong else d.walk (p.step s) ss := rfl

theorem walk_of_grows (h : Grows d d') {ss : List String} {p : Place}
    (hw : d.walk p ss ≠ .error .notFound) : d'.walk p ss = d.walk p ss := by
  induction ss generalizing p with
  | nil => rfl
  | cons s ss ih =>
    rw [walk_cons] at hw
    rw [walk_cons, walk_cons]
    cases hp : d.item? p with
    | none => simp [hp] at hw
    | some i =>
      cases i with
      | file bs =>
        obtain ⟨bs', hp'⟩ := h.file p bs hp
        rw [hp']
      | directory =>
        rw [h.directory p hp]
        simp only [hp] at hw
        show (if _ then _ else _) = (if _ then _ else _)
        split
        · rfl
        · rename_i hs
          rw [if_neg hs] at hw
          exact ih hw

theorem walk_ne_null (d : Disk) (p : Place) (ss : List String) :
    d.walk p ss ≠ .error .nullCharacter := by
  induction ss generalizing p with
  | nil => simp [walk]
  | cons s ss ih =>
    rw [walk_cons]
    split
    · simp
    · simp
    · split
      · simp
      · exact ih _

/-- a walk ends in a directory, or just below one -/
theorem IsTree.walk_parent (ht : d.IsTree) {ss : List String} {p q : Place}
    (hp : d.item? p = some .directory) (hw : d.walk p ss = .ok q)
    (hq : d.item? q ≠ some .directory) : d.item? q.parent = some .directory := by
  induction ss generalizing p with
  | nil =>
    rw [walk_nil, Except.ok.injEq] at hw
    exact absurd (hw ▸ hp) hq
  | cons s ss ih =>
    simp only [walk_cons, hp] at hw
    split at hw
    · simp at hw
    · by_cases hstep : d.item? (p.step s) = some .directory
      · exact ih hstep hw
      · have hlast : ss = [] := by
          cases ss with
          | nil => rfl
          | cons s' ss =>
            rw [walk_cons] at hw
            split at hw
            · simp at hw
            · simp at hw
            · rename_i hdir
              exact absurd hdir hstep
        rw [hlast, walk_nil, Except.ok.injEq] at hw
        rw [← hw, Place.step]
        rw [Place.step] at hstep
        split at hstep
        · exact absurd hp hstep
        · split at hstep
          · exact absurd (ht.parent p _ hp) hstep
          · rename_i hidle hup
            rw [if_neg hidle, if_neg hup, Place.parent_child]
            exact hp

theorem locate_eq (d : Disk) (p : Pathname) :
    d.locate p = if p.hasNull then .error .nullCharacter
      else if pathnameCeiling < p.text.utf8ByteSize then .error .nameTooLong
      else d.walk (d.start p) p.steps := rfl

theorem Grows.start_eq (h : Grows d d') (p : Pathname) : d'.start p = d.start p := by
  rw [start, start, h.here_eq]

theorem IsTree.start (ht : d.IsTree) (p : Pathname) :
    d.item? (d.start p) = some .directory := by
  rw [Disk.start]
  split
  · exact ht.here
  · exact d.item?_root

theorem locate_of_grows (h : Grows d d') {p : Pathname}
    (hl : d.locate p ≠ .error .notFound) : d'.locate p = d.locate p := by
  rw [locate_eq] at hl
  rw [locate_eq, locate_eq]
  split
  · rfl
  · split
    · rfl
    · rename_i hnull hlong
      rw [if_neg hnull, if_neg hlong] at hl
      rw [h.start_eq]
      exact walk_of_grows h hl

theorem locate_ne_null {p : Pathname} (h : p.hasNull = false) :
    d.locate p ≠ .error .nullCharacter := by
  rw [locate_eq, h, if_neg (by simp)]
  split
  · simp
  · exact walk_ne_null d _ _

theorem IsTree.locate_parent (ht : d.IsTree) {p : Pathname} {q : Place}
    (hl : d.locate p = .ok q) (hq : d.item? q ≠ some .directory) :
    d.item? q.parent = some .directory := by
  rw [locate_eq] at hl
  split at hl
  · simp at hl
  · split at hl
    · simp at hl
    · exact ht.walk_parent (ht.start p) hl hq

theorem IsTree.put (ht : d.IsTree) (hp : d.item? p ≠ some .directory)
    (hparent : d.item? p.parent = some .directory) (i : Item) : (d.put p i).IsTree := by
  have hroot := ne_root_of_item hp
  have hkeep : ∀ q, d.item? q = some .directory → (d.put p i).item? q = some .directory := by
    intro q hq
    have hne : q ≠ p := fun e => hp (e ▸ hq)
    rw [item?_put_of_ne d hne, hq]
  refine ⟨hkeep _ ht.here, fun q j hq => ?_⟩
  by_cases hne : q = p
  · rw [hne]
    exact hkeep _ hparent
  · rw [item?_put_of_ne d hne] at hq
    exact hkeep _ (ht.parent q j hq)

/-! ## making directories -/

theorem makeDir_eq (d : Disk) (p : Pathname) : d.makeDir p = match d.locate p with
    | .error r => .error r
    | .ok q => match d.item? q with
      | some _ => .error Refusal.exists
      | none => .ok (d.put q .directory) := by
  unfold makeDir
  cases d.locate p with
  | error r => rfl
  | ok q =>
    show (match d.item? q with
        | some _ => throw Refusal.exists
        | none => pure (d.put q .directory)) =
      match d.item? q with
        | some _ => Except.error Refusal.exists
        | none => Except.ok (d.put q .directory)
    cases d.item? q <;> rfl

theorem makeDir_ok {p : Pathname} (h : d.makeDir p = .ok d') :
    ∃ q, d.locate p = .ok q ∧ d.item? q = none ∧ d' = d.put q .directory := by
  rw [makeDir_eq] at h
  split at h
  · simp at h
  · rename_i q hl
    split at h
    · simp at h
    · rename_i hq
      exact ⟨q, hl, hq, (Except.ok.inj h).symm⟩

/-- what every new directory keeps, all of them together keep -/
theorem makeDirsBackward_keeps {R : Disk → Prop}
    (hR : ∀ e p e', R e → e.makeDir p = .ok e' → R e') {d : Disk} (hd : R d) (slashes : Nat)
    (ss : List String) : R (d.makeDirsBackward slashes ss).2 := by
  induction ss generalizing d with
  | nil =>
    rw [makeDirsBackward]
    split
    · rename_i h
      exact hR _ _ _ hd h
    · exact hd
  | cons s ss ih =>
    rw [makeDirsBackward]
    split
    · rename_i h
      exact hR _ _ _ hd h
    · have habove := ih hd
      split
      · rename_i h
        rwa [h] at habove
      · rename_i h
        rw [h] at habove
        split
        · rename_i h'
          exact hR _ _ _ habove h'
        · exact habove
    · exact hd

theorem extended_makeDirs (d : Disk) (p : Pathname) : Extended d (d.makeDirs p).2 := by
  refine makeDirsBackward_keeps (R := Extended d) ?_ (Extended.refl d) _ _
  intro e p e' he h
  obtain ⟨q, _, hnone, rfl⟩ := makeDir_ok h
  exact he.trans (extended_put hnone)

theorem IsTree.makeDirs (ht : d.IsTree) (p : Pathname) : (d.makeDirs p).2.IsTree := by
  refine makeDirsBackward_keeps (R := IsTree) ?_ ht _ _
  intro e p e' he h
  obtain ⟨q, hl, hnone, rfl⟩ := makeDir_ok h
  have hq : e.item? q ≠ some .directory := by simp [hnone]
  exact he.put hq (he.locate_parent hl hq) _

theorem unlessDirectory_error {p : Pathname} {r : Refusal} {f : Failure}
    (h : d.unlessDirectory p r = .error f) : f = ⟨r, p⟩ := by
  unfold unlessDirectory at h
  split at h
  · simpa using h.symm
  · simpa using h.symm
  · simp at h
  · simpa using h.symm

theorem makeDir_ne_null {p : Pathname} (h : p.hasNull = false) :
    d.makeDir p ≠ .error .nullCharacter := by
  rw [makeDir_eq]
  split
  · rename_i r hl
    intro e
    exact locate_ne_null h (Except.error.inj e ▸ hl)
  · split <;> simp

/-- without a null character in its steps no directory is refused for one -/
theorem makeDirsBackward_ne_null {slashes : Nat} {ss : List String} {f : Failure}
    (h : Pathname.hasNull ⟨slashes, ss.reverse⟩ = false)
    (hf : (d.makeDirsBackward slashes ss).1 = .error f) : f.refusal ≠ .nullCharacter := by
  have hrefused : ∀ {e : Disk} {q : Pathname} {r : Refusal}, q.hasNull = false →
      e.makeDir q = .error r → e.unlessDirectory q r = .error f →
      f.refusal ≠ .nullCharacter := by
    intro e q r hq hr hu hnull
    rw [unlessDirectory_error hu] at hnull
    have hnull' : r = .nullCharacter := hnull
    exact makeDir_ne_null hq (hnull' ▸ hr)
  induction ss generalizing d with
  | nil =>
    rw [makeDirsBackward] at hf
    split at hf
    · simp at hf
    · rename_i hr
      exact hrefused h hr hf
  | cons s ss ih =>
    have habove : Pathname.hasNull ⟨slashes, ss.reverse⟩ = false := by
      simp only [Pathname.hasNull, List.any_reverse, List.any_cons, Bool.or_eq_false_iff] at h ⊢
      exact h.2
    rw [makeDirsBackward] at hf
    split at hf
    · simp at hf
    · split at hf
      · rename_i he
        rw [Except.error.injEq] at hf
        exact hf ▸ ih habove (d := d) (by rw [he, hf])
      · split at hf
        · simp at hf
        · rename_i hr
          exact hrefused h hr hf
    · rename_i hr
      exact hrefused h hr hf

/-! ## saving -/

theorem write_ok {p : Pathname} {bs : List Nat} (h : d.write p bs = .ok d') :
    ∃ q, d.locate p = .ok q ∧ d.item? q ≠ some .directory ∧ d' = d.put q (.file bs) := by
  unfold write at h
  cases hl : d.locate p with
  | error r => simp [hl] at h
  | ok q =>
    simp only [hl] at h
    split at h
    · simp at h
    · rename_i hq
      exact ⟨q, rfl, hq, (Except.ok.inj h).symm⟩

/-- A text is saved at a place where no directory is, after some directories are made; or at most
directories are made. -/
theorem save_cases (d : Disk) (p : Pathname) (content : String) (policy : Policy) :
    let saved := d.save p content policy
    (∃ d₁ q, saved.result = .ok true ∧ policy.dryRun = false ∧ d₁ = (d.makeDirs p.parent).2 ∧
      d₁.locate p = .ok q ∧ d₁.item? q ≠ some .directory ∧
      saved.disk = d₁.put q (.file (Text.utf8 content))) ∨
    ((saved.disk = d ∨ saved.disk = (d.makeDirs p.parent).2) ∧
      (saved.result = .ok true → policy.dryRun = true)) := by
  intro saved
  show (∃ d₁ q, (d.save p content policy).result = _ ∧ _ ∧ _ ∧ _ ∧ _ ∧
    (d.save p content policy).disk = _) ∨ (((d.save p content policy).disk = _ ∨
      (d.save p content policy).disk = _) ∧ ((d.save p content policy).result = _ → _))
  unfold save
  split
  · exact .inr ⟨.inl rfl, fun h => by simp at h⟩
  · split
    · exact .inr ⟨.inl rfl, fun h => by simp at h⟩
    · split
      · rename_i hdry
        exact .inr ⟨.inl rfl, fun _ => hdry⟩
      · rename_i hdry
        unfold saveThrough
        cases hdirs : d.makeDirs p.parent with
        | mk made d₁ =>
          cases made with
          | error f => exact .inr ⟨.inr rfl, fun h => by simp at h⟩
          | ok u =>
            cases hw : d₁.write p (Text.utf8 content) with
            | error f =>
              refine .inr ⟨.inr ?_, fun h => ?_⟩
              · simp [hw]
              · simp [hw] at h
            | ok d₂ =>
              obtain ⟨q, hl, hq, rfl⟩ := write_ok hw
              refine .inl ⟨d₁, q, ?_, by simpa using hdry, rfl, hl, hq, ?_⟩
              · simp [hw]
              · simp [hw]

theorem grows_save (d : Disk) (p : Pathname) (content : String) (policy : Policy) :
    Grows d (d.save p content policy).disk := by
  have hdirs := (extended_makeDirs d p.parent).grows
  rcases save_cases d p content policy with ⟨d₁, q, -, -, rfl, -, hq, hdisk⟩ | ⟨hdisk | hdisk, -⟩
  · rw [hdisk]
    exact hdirs.trans (grows_put_file hq _)
  · rw [hdisk]
    exact Grows.refl d
  · rw [hdisk]
    exact hdirs

theorem IsTree.save (ht : d.IsTree) (p : Pathname) (content : String) (policy : Policy) :
    (d.save p content policy).disk.IsTree := by
  have hdirs := ht.makeDirs p.parent
  rcases save_cases d p content policy with ⟨d₁, q, -, -, rfl, hl, hq, hdisk⟩ | ⟨hdisk | hdisk, -⟩
  · rw [hdisk]
    exact hdirs.put hq (hdirs.locate_parent hl hq) _
  · rw [hdisk]
    exact ht
  · rw [hdisk]
    exact hdirs

theorem status_error {p : Pathname} {r : Refusal} (h : d.status p = .error r) :
    r = .nameTooLong := by
  unfold status at h
  split at h
  · simp at h
  · exact (Except.error.inj h).symm
  · simp at h

theorem makeDirs_ne_null {p : Pathname} (h : p.hasNull = false) {f : Failure}
    (hf : (d.makeDirs p).1 = .error f) : f.refusal ≠ .nullCharacter := by
  have hsteps : Pathname.hasNull ⟨p.slashes, p.steps.reverse.reverse⟩ = false := by
    rw [List.reverse_reverse]
    exact h
  exact makeDirsBackward_ne_null hsteps hf

theorem write_ne_null {p : Pathname} (h : p.hasNull = false) {bs : List Nat} {f : Failure}
    (hf : d.write p bs = .error f) : f.refusal ≠ .nullCharacter := by
  unfold write at hf
  split at hf
  · rename_i r hl
    rw [← Except.error.inj hf]
    intro hnull
    have hnull' : r = .nullCharacter := hnull
    exact locate_ne_null h (hnull' ▸ hl)
  · split at hf
    · rw [← Except.error.inj hf]
      simp
    · simp at hf

/-- without a null character in its steps no pathname is refused for one -/
theorem save_ne_null {p : Pathname} (h : p.hasNull = false) {content : String} {policy : Policy}
    {f : Failure} (hf : (d.save p content policy).result = .error f) :
    f.refusal ≠ .nullCharacter := by
  have hparent : p.parent.hasNull = false := by
    simp only [Pathname.hasNull, Pathname.parent, List.any_eq_false] at h ⊢
    exact fun s hs => h s (List.dropLast_subset _ hs)
  unfold save at hf
  split at hf
  · rename_i r hr
    rw [← Except.error.inj hf, status_error hr]
    simp
  · split at hf
    · simp at hf
    · split at hf
      · simp at hf
      · unfold saveThrough at hf
        split at hf
        · rename_i g d₁ hdirs
          exact Except.error.inj hf ▸ makeDirs_ne_null hparent (congrArg Prod.fst hdirs)
        · split at hf
          · rename_i g hw
            exact Except.error.inj hf ▸ write_ne_null h hw
          · simp at hf

/-- a dry run refuses only names that are too long -/
theorem save_dryRun_ne_null {p : Pathname} {content : String} {policy : Policy}
    (hdry : policy.dryRun = true) {f : Failure}
    (hf : (d.save p content policy).result = .error f) : f.refusal ≠ .nullCharacter := by
  unfold save at hf
  split at hf
  · rename_i r hr
    rw [← Except.error.inj hf, status_error hr]
    simp
  · rw [if_pos hdry] at hf
    split at hf <;> simp at hf

end Disk

end SampleTypes
