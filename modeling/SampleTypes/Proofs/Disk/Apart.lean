import SampleTypes.Proofs.Disk.Save

/-!
# Saving at pathnames apart

A text saved at a pathname changes the item at its place and adds directories on the way.  So
another pathname does not notice, if neither leads to the place of the other or above it, and a
disk that several texts were saved on holds what each of them changes by itself.

* `Overlap`          a pathname leads to the place of another, or above it;
* `Apart d₀ d p`     `d` is `d₀`, changed away from `p`;
* `Agrees`           saving at a pathname does the same on two disks;
* `Apart.agrees`     it does, where the disk is changed away from the pathname;
* `Joined d₀ es d`   `d` holds the changes that each of the disks `es` holds;
* `Joined.save`      it goes on holding them;
* `Joined.unique`    there is one such disk.
-/

namespace SampleTypes

namespace Disk

variable {d₀ d d' : Disk} {p p' : Pathname} {q : Place}

/-- one of two pathnames leads to the place of the other, or above it -/
def Overlap (d : Disk) (p p' : Pathname) : Prop :=
  (d.place p).names <+: (d.place p').names ∨ (d.place p').names <+: (d.place p).names

theorem Overlap.symm (h : d.Overlap p p') : d.Overlap p' p := Or.symm h

/-- a disk with changes that a pathname does not notice -/
structure Apart (d₀ d : Disk) (p : Pathname) : Prop where
  grows : Grows d₀ d
  tree : d.IsTree
  same : d.item? (d₀.place p) = d₀.item? (d₀.place p)
  way : ∀ q, q.names <+: (d₀.place p).names → d₀.item? q = none → d.item? q = none ∨
    d.item? q = some .directory

theorem Apart.refl (ht : d.IsTree) (p : Pathname) : Apart d d p :=
  ⟨Grows.refl d, ht, rfl, fun _ _ hnone => .inl hnone⟩

theorem Grows.place_eq (h : Grows d₀ d) (p : Pathname) : d.place p = d₀.place p := by
  rw [place, place, h.start_eq]

theorem Grows.none_of_new (h : Grows d d') (hdir : d'.item? q = some .directory)
    (hne : d'.item? q ≠ d.item? q) : d.item? q = none := by
  rcases hi : d.item? q with _ | _ | bs
  · rfl
  · exact absurd (hdir.trans hi.symm) hne
  · obtain ⟨bs', hf⟩ := h.file q bs hi
    exact absurd (hdir.symm.trans hf) (by simp)

/-! ## what saving a text changes -/

/-- a text saved changes the item at its place, and puts directories on the way to it -/
theorem save_changes (ht : d.IsTree) (hplain : p.isPlain = true) (hnull : p.hasNull = false)
    (content : String) (overwrite : Bool)
    (hq : (d.save p content ⟨overwrite, false⟩).disk.item? q ≠ d.item? q) :
    q = d.place p ∨ (q.names <+: (d.place p).names ∧
      (d.save p content ⟨overwrite, false⟩).disk.item? q = some .directory) := by
  rcases ht.locate_cases hplain hnull with hlong | ⟨hu, hblocked⟩ | ⟨hu, hopen⟩
  · rw [save_status_error (status_long hlong)] at hq
    exact absurd rfl hq
  · rw [save_blocked hu hblocked] at hq
    exact absurd rfl hq
  · have hlanded := save_open ht hplain hu hopen content overwrite
    by_contra hno
    rw [not_or, not_and] at hno
    refine hq (hlanded.elsewhere q hno.1 ?_)
    rintro ts hts rfl
    refine hno.2 ?_ (hlanded.way ts hts)
    exact (List.prefix_append_right_inj _).mpr
      ((hts.trans (reach_le _)).trans (List.dropLast_prefix _))

theorem Apart.save (h : Apart d₀ d p) (hplain : p'.isPlain = true) (hnull : p'.hasNull = false)
    (hoverlap : ¬ d₀.Overlap p' p) (content : String) (overwrite : Bool) :
    Apart d₀ (d.save p' content ⟨overwrite, false⟩).disk p := by
  have hplace := h.grows.place_eq p'
  refine ⟨h.grows.trans (grows_save ..), h.tree.save .., ?_, fun q hq hnone => ?_⟩
  · by_contra hne
    rw [← h.same] at hne
    rcases save_changes h.tree hplain hnull content overwrite hne with e | ⟨hbelow, -⟩
    · exact hoverlap (.inl ((e.trans hplace).symm ▸ List.prefix_refl _))
    · exact hoverlap (.inr (hplace ▸ hbelow))
  · by_cases hne : (d.save p' content ⟨overwrite, false⟩).disk.item? q = d.item? q
    · rw [hne]
      exact h.way q hq hnone
    · rcases save_changes h.tree hplain hnull content overwrite hne with e | ⟨-, hdir⟩
      · exact absurd (.inl (hplace ▸ e ▸ hq)) hoverlap
      · exact .inr hdir

/-! ## saving on two disks -/

/-- a name on the way to a pathname is too long, and the refusal quotes the way up to some name -/
def IsTooLong (p : Pathname) (result : Except Failure Bool) : Prop :=
  p.steps.dropLast.all isShort = false ∧
    ∃ ts, ts <+: p.steps ∧ result = .error ⟨.nameTooLong, ⟨p.slashes, ts⟩⟩

/-- Saving at a pathname does the same on two disks, but for the name that a refusal quotes: what
it changes on the first disk, it changes on the second one too, and nothing else. -/
structure Agrees (d₀ d : Disk) (p : Pathname) (saved₀ saved : Saved) : Prop where
  result : saved.result = saved₀.result ∨ (IsTooLong p saved.result ∧ IsTooLong p saved₀.result)
  changed : ∀ q, saved₀.disk.item? q ≠ d₀.item? q → saved.disk.item? q = saved₀.disk.item? q
  unchanged : ∀ q, saved₀.disk.item? q = d₀.item? q → saved.disk.item? q = d.item? q

theorem Agrees.of_unchanged {r : Except Failure Bool} {log log' : Log} :
    Agrees d₀ d p ⟨r, d₀, log⟩ ⟨r, d, log'⟩ :=
  ⟨.inl rfl, fun _ h => absurd rfl h, fun _ _ => rfl⟩

theorem IsOpen.of_apart (h : Apart d₀ d p) (hopen : d₀.IsOpen p) : d.IsOpen p := by
  intro ts hts hne bs hf
  rw [h.grows.start_eq] at hf
  rcases hi : d₀.item? ((d₀.start p).below ts) with _ | _ | cs
  · rcases h.way _ ((List.prefix_append_right_inj _).mpr hts) hi with e | e
    · exact absurd (hf.symm.trans e) (by simp)
    · exact absurd (hf.symm.trans e) (by simp)
  · exact absurd (hf.symm.trans (h.grows.directory _ hi)) (by simp)
  · exact hopen ts hts hne cs hi

theorem prefix_of_quoted {ss ts : List String} {c : Prop} [Decidable c]
    (h : if c then ts = ss else ts <+: ss.dropLast) : ts <+: ss := by
  split at h
  · exact h ▸ List.prefix_refl ts
  · exact h.trans (List.dropLast_prefix ss)

theorem Landed.result_agrees {bytes : List Nat} {overwrite : Bool} {saved₀ saved : Saved}
    (h : Apart d₀ d p) (h₀ : Landed d₀ p bytes overwrite saved₀)
    (h₁ : Landed d p bytes overwrite saved) :
    saved.result = saved₀.result ∨ (IsTooLong p saved.result ∧ IsTooLong p saved₀.result) := by
  cases hall : p.steps.all isShort with
  | true => exact .inl (by rw [h₁.result hall, h₀.result hall, h.grows.place_eq p, h.same])
  | false =>
    obtain ⟨ts, hr, hts⟩ := h₁.refused hall
    obtain ⟨ts₀, hr₀, hts₀⟩ := h₀.refused hall
    cases habove : p.steps.dropLast.all isShort with
    | true =>
      rw [if_pos (.inl habove)] at hts hts₀
      exact .inl (by rw [hr, hr₀, hts, hts₀])
    | false => exact .inr ⟨⟨habove, ts, prefix_of_quoted hts, hr⟩, habove, ts₀,
        prefix_of_quoted hts₀, hr₀⟩

theorem Landed.agrees {bytes : List Nat} {overwrite : Bool} {saved₀ saved : Saved}
    (h : Apart d₀ d p) (h₀ : Landed d₀ p bytes overwrite saved₀)
    (h₁ : Landed d p bytes overwrite saved) : Agrees d₀ d p saved₀ saved := by
  have hplace := h.grows.place_eq p
  have hstart := h.grows.start_eq p
  have hresult := Landed.result_agrees h h₀ h₁
  have hok : saved.result = .ok true ↔ saved₀.result = .ok true := by
    rcases hresult with e | ⟨⟨-, ts, -, hr⟩, -, ts₀, -, hr₀⟩
    · rw [e]
    · rw [hr, hr₀]
      simp
  refine ⟨hresult, fun q hq => ?_, fun q hq => ?_⟩
  · by_cases hat : q = d₀.place p
    · subst hat
      have hw₀ : saved₀.result = .ok true := by
        by_contra hno
        exact hq (h₀.kept hno)
      rw [h₀.written hw₀, ← hplace, h₁.written (hok.mpr hw₀)]
    · by_contra hne
      refine hq (h₀.elsewhere q hat fun ts hts e => hne ?_)
      rw [e, h₀.way ts hts, ← hstart, h₁.way ts hts]
  · by_cases hat : q = d₀.place p
    · subst hat
      by_cases hw : saved.result = .ok true
      · rw [h.same, ← hq, h₀.written (hok.mp hw), ← hplace, h₁.written hw]
      · rw [← hplace]
        exact h₁.kept hw
    · by_contra hne
      refine hne (h₁.elsewhere q (hplace ▸ hat) fun ts hts e => hne ?_)
      have hdir₀ : d₀.item? q = some .directory := by
        rw [← hq, e, hstart]
        exact h₀.way ts hts
      rw [h.grows.directory q hdir₀, e]
      exact h₁.way ts hts

/-- saving at a pathname does not notice changes apart from it -/
theorem Apart.agrees (h : Apart d₀ d p) (ht : d₀.IsTree) (hplain : p.isPlain = true)
    (hnull : p.hasNull = false) (content : String) (overwrite : Bool) :
    Agrees d₀ d p (d₀.save p content ⟨overwrite, false⟩)
      (d.save p content ⟨overwrite, false⟩) := by
  have hkeeps : ∀ {p r}, d₀.locate p = .error r → r ≠ .notFound → d.locate p = .error r :=
    fun {p r} hl hr => (locate_of_grows h.grows (by simpa [hl] using hr)).trans hl
  rcases ht.locate_cases hplain hnull with hlong | ⟨hu, hblocked⟩ | ⟨hu, hopen⟩
  · rw [save_status_error (status_long hlong),
      save_status_error (status_long (hkeeps hlong (by simp)))]
    exact Agrees.of_unchanged
  · have hblockage : d.blockage p = d₀.blockage p := by
      have hparent : d₀.locate p.parent ≠ .error .notFound := by
        rcases locate_parent_of_blocked hu hblocked with ⟨q, bs, hq, -⟩ | habove
        · simp [hq]
        · simp [habove]
      rw [blockage, blockage, locate_of_grows h.grows hparent]
    rw [save_blocked hu hblocked, save_blocked hu (hkeeps hblocked (by simp)), hblockage]
    exact Agrees.of_unchanged
  · exact Landed.agrees h (save_open ht hplain hu hopen content overwrite)
      (save_open h.tree hplain hu (IsOpen.of_apart h hopen) content overwrite)

/-! ## the changes of several disks -/

/-- a disk that holds what each of some disks changes, and no other change -/
structure Joined (d₀ : Disk) (es : List Disk) (d : Disk) : Prop where
  changed : ∀ e ∈ es, ∀ q, e.item? q ≠ d₀.item? q → d.item? q = e.item? q
  unchanged : ∀ q, (∀ e ∈ es, e.item? q = d₀.item? q) → d.item? q = d₀.item? q

theorem Joined.nil (d : Disk) : Joined d [] d :=
  ⟨fun _ he => absurd he List.not_mem_nil, fun _ _ => rfl⟩

theorem Joined.unique {es es' : List Disk} (h : Joined d₀ es d)
    (h' : Joined d₀ es' d') (hmem : ∀ e, e ∈ es ↔ e ∈ es') (q : Place) :
    d.item? q = d'.item? q := by
  by_cases hno : ∀ e ∈ es, e.item? q = d₀.item? q
  · rw [h.unchanged q hno, h'.unchanged q fun e he => hno e ((hmem e).mpr he)]
  · push Not at hno
    obtain ⟨e, he, hne⟩ := hno
    rw [h.changed e he q hne, h'.changed e ((hmem e).mp he) q hne]

theorem Joined.of_same {es : List Disk} (h : ∀ e ∈ es, e = d) : Joined d es d :=
  ⟨fun e he _ hne => absurd (h e he ▸ rfl) hne, fun _ _ => rfl⟩

/-- a disk that changes nothing may be counted -/
theorem Joined.concat_self {es : List Disk} (h : Joined d₀ es d) : Joined d₀ (es ++ [d₀]) d := by
  refine ⟨fun e he q hne => ?_, fun q hq => ?_⟩
  · rcases List.mem_append.mp he with he | he
    · exact h.changed e he q hne
    · exact absurd (List.mem_singleton.mp he ▸ rfl) hne
  · exact h.unchanged q fun e he => hq e (List.mem_append_left _ he)

/-- where only one of the disks has a change, the disk with all changes holds that one -/
theorem Joined.item_eq {es : List Disk} (h : Joined d₀ es d) {e : Disk} (he : e ∈ es)
    (hother : ∀ e' ∈ es, e' = e ∨ e'.item? q = d₀.item? q) : d.item? q = e.item? q := by
  by_cases hq : e.item? q = d₀.item? q
  · rw [hq]
    refine h.unchanged q fun e' he' => ?_
    rcases hother e' he' with rfl | hsame
    · exact hq
    · exact hsame
  · exact h.changed e he q hq

/-- A text saved apart from those before it leaves what they changed, and adds what it changes by
itself. -/
theorem Joined.save {es : List Disk} {content : String} {overwrite : Bool} (h : Joined d₀ es d)
    (hapart : Apart d₀ d p) (ht : d₀.IsTree) (hplain : p.isPlain = true)
    (hnull : p.hasNull = false) :
    Joined d₀ (es ++ [(d₀.save p content ⟨overwrite, false⟩).disk])
      (d.save p content ⟨overwrite, false⟩).disk := by
  have hagrees := hapart.agrees ht hplain hnull content overwrite
  refine ⟨fun e he q hne => ?_, fun q hq => ?_⟩
  · rcases List.mem_append.mp he with he | he
    · have hitem := h.changed e he q hne
      by_cases hself : (d₀.save p content ⟨overwrite, false⟩).disk.item? q = d₀.item? q
      · rw [hagrees.unchanged q hself, hitem]
      · rw [hagrees.changed q hself]
        rcases save_changes ht hplain hnull content overwrite hself with e' | ⟨hway, hdir⟩
        · exact absurd (hitem.symm.trans (e' ▸ hapart.same)) hne
        · -- both made this directory
          have hnone := (grows_save d₀ p content ⟨overwrite, false⟩).none_of_new hdir hself
          rcases hapart.way q hway hnone with hd | hd
          · exact absurd (hitem.symm.trans (hd.trans hnone.symm)) hne
          · rw [hdir, ← hitem, hd]
    · rw [List.mem_singleton] at he
      subst he
      exact hagrees.changed q hne
  · rw [hagrees.unchanged q (hq _ (by simp))]
    exact h.unchanged q fun e he => hq e (List.mem_append_left _ he)

end Disk

end SampleTypes
