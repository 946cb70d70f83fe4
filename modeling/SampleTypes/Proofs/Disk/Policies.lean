import SampleTypes.Proofs.Disk.Save
import SampleTypes.Proofs.Text.Utf8

/-!
# Saving under the policies

What an attempt to save a text may do to a disk.  A dry run does nothing, and neither does a text
that is not written.  A text that is written stands where its pathname leads; besides there are at
most new directories, and all of them lie on the way to it.

Whether something stands at a pathname is asked before the directories on its way are made, and
making them can change the answer: in `a/../x`, with no `a`, nothing is found at first, and then
`x` is.  So a file can be written over that was to be kept, but only in this way.

* `MadeOnWay`         a directory that is new and lies on the way to a pathname;
* `makeDirs_onWay`    nothing else is made;
* `LeadsLater`        a pathname that leads to a place once its directories are made, and nowhere
                      before;
* `save_overwrites`   what is written over though it was to be kept;
* `save_file_kept`    without a step up nothing is;
* `save_respects_policies`   the main statement.
-/

namespace SampleTypes

namespace Disk

variable {d d' d₁ : Disk} {p : Pathname} {q : Place} {content : String}

/-! ## new directories -/

/-- a directory that is new and lies on the way to a pathname, or at its end -/
structure MadeOnWay (d d' : Disk) (p : Pathname) (q : Place) : Prop where
  before : d.item? q = none
  after : d'.item? q = some .directory
  way : ∃ ts, ts <+: p.steps ∧ d'.locate ⟨p.slashes, ts⟩ = .ok q

/-- what is on the way stays there -/
theorem MadeOnWay.later (h : MadeOnWay d d₁ p q) (hgrows : Grows d₁ d') : MadeOnWay d d' p q := by
  obtain ⟨ts, hts, hl⟩ := h.way
  exact ⟨h.before, hgrows.directory q h.after,
    ts, hts, (locate_of_grows hgrows (by simp [hl])).trans hl⟩

theorem MadeOnWay.longer {slashes : Nat} {ss ts : List String}
    (h : MadeOnWay d d' ⟨slashes, ss⟩ q) (hss : ss <+: ts) : MadeOnWay d d' ⟨slashes, ts⟩ q := by
  obtain ⟨us, hus, hl⟩ := h.way
  exact ⟨h.before, h.after, us, hus.trans hss, hl⟩

theorem grows_attempt (d : Disk) (p : Pathname) : Grows d (d.attempt p).2 := by
  unfold attempt
  split
  · rename_i h
    obtain ⟨q, -, hnone, rfl⟩ := makeDir_ok h
    exact (extended_put hnone).grows
  · exact Grows.refl d

/-- an attempt to make a directory makes this one or none -/
theorem attempt_onWay (d : Disk) (p : Pathname) (q : Place) :
    (d.attempt p).2.item? q = d.item? q ∨ MadeOnWay d (d.attempt p).2 p q := by
  have hgrows := grows_attempt d p
  unfold attempt at hgrows ⊢
  split
  · rename_i d₁ h
    obtain ⟨q₁, hl, hnone, rfl⟩ := makeDir_ok h
    rw [h] at hgrows
    by_cases hq : q = q₁
    · subst hq
      have hroot := ne_root_of_item (d := d) (p := q) (by simp [hnone])
      exact .inr ⟨hnone, item?_put_self d hroot _, p.steps, List.prefix_refl _,
        (locate_of_grows hgrows (by simp [hl])).trans hl⟩
    · exact .inl (item?_put_of_ne d hq _)
  · exact .inl rfl

/-- new directories before an attempt, and the one that the attempt may make -/
theorem onWay_attempt {slashes : Nat} {ss : List String} {s : String}
    (h : ∀ q, d₁.item? q = d.item? q ∨ MadeOnWay d d₁ ⟨slashes, ss⟩ q) (q : Place) :
    (d₁.attempt ⟨slashes, ss ++ [s]⟩).2.item? q = d.item? q ∨
      MadeOnWay d (d₁.attempt ⟨slashes, ss ++ [s]⟩).2 ⟨slashes, ss ++ [s]⟩ q := by
  have hgrows := grows_attempt d₁ ⟨slashes, ss ++ [s]⟩
  rcases h q with hsame | hmade
  · rcases attempt_onWay d₁ ⟨slashes, ss ++ [s]⟩ q with hq | hq
    · exact .inl (hq.trans hsame)
    · exact .inr ⟨hsame ▸ hq.before, hq.after, hq.way⟩
  · exact .inr ((hmade.longer (List.prefix_append ss [s])).later hgrows)

/-- making the directories on a way makes nothing else -/
theorem makeDirs_onWay (d : Disk) (p : Pathname) (q : Place) :
    (d.makeDirs p).2.item? q = d.item? q ∨ MadeOnWay d (d.makeDirs p).2 p q := by
  obtain ⟨slashes, ss⟩ := p
  show (d.makeDirsBackward slashes ss.reverse).2.item? q = d.item? q ∨
    MadeOnWay d (d.makeDirsBackward slashes ss.reverse).2 ⟨slashes, ss⟩ q
  induction ss using List.reverseRecOn generalizing q with
  | nil => exact attempt_onWay d ⟨slashes, []⟩ q
  | append_singleton ss s ih =>
    rw [makeDirsBackward_concat]
    split_ifs with hl
    · generalize d.makeDirsBackward slashes ss.reverse = r at ih
      obtain ⟨made, d₁⟩ := r
      cases made with
      | error f => exact (ih q).imp_right fun h => h.longer (List.prefix_append ss [s])
      | ok u => exact onWay_attempt ih q
    · exact onWay_attempt (fun _ => .inl rfl) q

/-! ## texts that are written -/

/-- a file keeps its bytes, unless a text is written where it stands -/
theorem save_file {q : Place} {bs : List Nat} (hq : d.item? q = some (.file bs)) (p : Pathname)
    (content : String) (policy : Policy) :
    (d.save p content policy).disk.item? q = some (.file bs) ∨
      ((d.save p content policy).result = .ok true ∧
        (d.save p content policy).disk.locate p = .ok q) := by
  have hdirs := (extended_makeDirs d p.parent).item_eq hq
  rcases save_cases d p content policy with ⟨d₁, q₁, hresult, -, rfl, hl, hq₁, hdisk⟩ |
    ⟨hdisk | hdisk, -⟩
  · by_cases hat : q = q₁
    · refine .inr ⟨hresult, ?_⟩
      rw [hdisk, locate_of_grows (grows_put_file hq₁ _) (by simp [hl]), hl, hat]
    · rw [hdisk, item?_put_of_ne _ hat]
      exact .inl hdirs
  · rw [hdisk]
    exact .inl hq
  · rw [hdisk]
    exact .inl hdirs

theorem usable_of_locate {q : Place} (hl : d.locate p = .ok q) : IsUsable p := by
  rw [locate_eq] at hl
  split at hl
  · simp at hl
  · rename_i hnull
    split at hl
    · simp at hl
    · rename_i hlong
      exact ⟨by simpa using hnull, Nat.le_of_not_lt hlong⟩

/-- what stands in a tree could be found before -/
theorem IsTree.locate_of_later (ht : d.IsTree) {d' : Disk} (hgrows : Grows d d')
    (hplain : p.isPlain = true) {q : Place} {i : Item} (hl : d'.locate p = .ok q)
    (hq : d.item? q = some i) : d.locate p = .ok q := by
  have hdown := List.all_eq_true.mp hplain
  have hu := usable_of_locate hl
  rw [locate_of_usable hu, hgrows.start_eq] at hl
  obtain ⟨rfl, hall, -⟩ := walk_ok hdown hl
  rw [locate_of_usable hu]
  exact walk_of_directories hdown hall fun ts hts hne => ht.above hts hne hq

/-- a text that is written goes to the place its pathname leads to once the directories on its way
are made -/
theorem save_through {overwrite : Bool}
    (h : (d.save p content ⟨overwrite, false⟩).result = .ok true) :
    ∃ d₁ q, d.makeDirs p.parent = (.ok (), d₁) ∧ d₁.locate p = .ok q ∧
      d₁.item? q ≠ some .directory ∧
      (d.save p content ⟨overwrite, false⟩).disk = d₁.put q (.file (Text.utf8 content)) := by
  unfold save at h ⊢
  split at h
  · simp at h
  · split at h
    · simp at h
    · rename_i hskip
      rw [if_neg (by simp)] at h
      simp only [if_neg hskip, Bool.false_eq_true, if_false]
      unfold saveThrough at h ⊢
      split at h
      · simp at h
      · rename_i d₁ hdirs
        split at h
        · simp at h
        · rename_i d₂ hw
          obtain ⟨q, hl, hq, rfl⟩ := write_ok hw
          exact ⟨d₁, q, hdirs, hl, hq, rfl⟩

/-- what is left of a disk besides the place that a text is written to -/
theorem save_elsewhere {overwrite : Bool}
    (h : (d.save p content ⟨overwrite, false⟩).result = .ok true) :
    ∃ q, d.item? q ≠ some .directory ∧
      (d.save p content ⟨overwrite, false⟩).disk.locate p = .ok q ∧
      (d.save p content ⟨overwrite, false⟩).disk.item? q = some (.file (Text.utf8 content)) ∧
      ∀ q', q' ≠ q → (d.save p content ⟨overwrite, false⟩).disk.item? q' = d.item? q' ∨
        MadeOnWay d (d.save p content ⟨overwrite, false⟩).disk p.parent q' := by
  obtain ⟨d₁, q, hdirs, hl, hq, hdisk⟩ := save_through h
  have honWay := makeDirs_onWay d p.parent
  have hextended := extended_makeDirs d p.parent
  rw [hdirs] at honWay hextended
  have hgrows := grows_put_file hq (Text.utf8 content)
  have hroot := ne_root_of_item hq
  rw [hdisk]
  refine ⟨q, fun hdir => hq (hextended.item_eq hdir), ?_, item?_put_self d₁ hroot _, ?_⟩
  · exact (locate_of_grows hgrows (by simp [hl])).trans hl
  · intro q' hne
    rw [item?_put_of_ne d₁ hne]
    exact (honWay q').imp_right fun hmade => hmade.later hgrows

/-- a text that is written can be read where its pathname leads -/
theorem save_written {overwrite : Bool}
    (h : (d.save p content ⟨overwrite, false⟩).result = .ok true) :
    ∃ q, (d.save p content ⟨overwrite, false⟩).disk.locate p = .ok q ∧
      (d.save p content ⟨overwrite, false⟩).disk.item? q = some (.file (Text.utf8 content)) := by
  obtain ⟨q, -, hl, hitem, -⟩ := save_elsewhere h
  exact ⟨q, hl, hitem⟩

/-- a text that is refused leaves new directories at most -/
theorem save_refused {policy : Policy} {f : Failure}
    (h : (d.save p content policy).result = .error f) (q : Place) :
    (d.save p content policy).disk.item? q = d.item? q ∨
      MadeOnWay d (d.save p content policy).disk p.parent q := by
  rcases save_cases d p content policy with ⟨_, _, hwritten, -⟩ | ⟨hdisk | hdisk, -⟩
  · rw [h] at hwritten
    simp at hwritten
  · rw [hdisk]
    exact .inl rfl
  · rw [hdisk]
    exact makeDirs_onWay d p.parent q

/-- a text that is not written leaves the disk alone -/
theorem save_skipped {policy : Policy} (h : (d.save p content policy).result = .ok false) :
    (d.save p content policy).disk = d := by
  unfold save at h ⊢
  split at h
  · simp at h
  · split at h
    · rename_i hskip
      simp only [if_pos hskip]
    · split at h
      · simp at h
      · unfold saveThrough at h
        split at h
        · simp at h
        · split at h <;> simp at h

/-! ## files that are to be kept -/

/-- a pathname that leads nowhere, but to a place once the directories on its way are made -/
structure LeadsLater (d : Disk) (p : Pathname) (q : Place) : Prop where
  before : d.locate p = .error .notFound
  after : ∃ d₁, d.makeDirs p.parent = (.ok (), d₁) ∧ d₁.locate p = .ok q

/-- then the text is written whatever stands there -/
theorem LeadsLater.save (h : LeadsLater d p q) {bs : List Nat}
    (hq : d.item? q = some (.file bs)) (content : String) (overwrite : Bool) :
    (d.save p content ⟨overwrite, false⟩).result = .ok true ∧
      (d.save p content ⟨overwrite, false⟩).disk.item? q = some (.file (Text.utf8 content)) := by
  obtain ⟨d₁, hdirs, hl⟩ := h.after
  have hextended := extended_makeDirs d p.parent
  rw [hdirs] at hextended
  have hfile := hextended.item_eq hq
  have hdir : d₁.item? q ≠ some .directory := by simp [hfile]
  have hstatus := status_missing h.before (by simp)
  have hsave : d.save p content ⟨overwrite, false⟩ =
      ⟨.ok true, d₁.put q (.file (Text.utf8 content)), [writtenEntry p]⟩ := by
    simp [Disk.save, hstatus, saveThrough, hdirs, write_file hl hdir]
  rw [hsave]
  exact ⟨rfl, item?_put_self d₁ (ne_root_of_item hdir) _⟩

/-- a file that is to be kept is written over only where nothing led to it at first -/
theorem leadsLater_of_written {bs : List Nat} (hq : d.item? q = some (.file bs))
    (hw : (d.save p content ⟨false, false⟩).result = .ok true)
    (hl : (d.save p content ⟨false, false⟩).disk.locate p = .ok q) : LeadsLater d p q := by
  obtain ⟨d₁, q₁, hdirs, hl₁, hq₁, hdisk⟩ := save_through hw
  have hsame : q₁ = q := by
    rw [hdisk, locate_of_grows (grows_put_file hq₁ _) (by simp [hl₁]), hl₁] at hl
    exact Except.ok.inj hl
  refine ⟨?_, d₁, hdirs, hsame ▸ hl₁⟩
  by_contra hfound
  have hbefore := (locate_of_grows (grows_save ..) hfound).symm.trans hl
  rw [Disk.save, status_found hbefore, hq] at hw
  simp at hw

/-- what becomes of a file that is to be kept -/
theorem save_overwrites {bs : List Nat} (hq : d.item? q = some (.file bs)) (p : Pathname)
    (content : String) :
    LeadsLater d p q ∧
        (d.save p content ⟨false, false⟩).disk.item? q = some (.file (Text.utf8 content)) ∨
      ¬ LeadsLater d p q ∧ (d.save p content ⟨false, false⟩).disk.item? q = some (.file bs) := by
  by_cases hlater : LeadsLater d p q
  · exact .inl ⟨hlater, (hlater.save hq content false).2⟩
  · refine .inr ⟨hlater, ?_⟩
    rcases save_file hq p content ⟨false, false⟩ with h | ⟨hw, hl⟩
    · exact h
    · exact absurd (leadsLater_of_written hq hw hl) hlater

/-- in a tree only a step up lets a pathname lead to an item later -/
theorem IsTree.not_leadsLater (ht : d.IsTree) (hplain : p.isPlain = true) {i : Item}
    (hq : d.item? q = some i) : ¬ LeadsLater d p q := by
  rintro ⟨hbefore, d₁, hdirs, hl⟩
  have hextended := extended_makeDirs d p.parent
  rw [hdirs] at hextended
  rw [ht.locate_of_later hextended.grows hplain hl hq] at hbefore
  simp at hbefore

/-- without overwriting and without a step up nothing is written where a file stands -/
theorem save_file_kept (ht : d.IsTree) (hplain : p.isPlain = true) {bs : List Nat}
    (hq : d.item? q = some (.file bs)) :
    (d.save p content ⟨false, false⟩).disk.item? q = some (.file bs) :=
  ((save_overwrites hq p content).resolve_left fun h => ht.not_leadsLater hplain hq h.1).2

theorem bytes_of_item {bs : List Nat} (hl : d.locate p = .ok q)
    (hq : d.item? q = some (.file bs)) : d.bytes p = .ok bs := by
  rw [bytes, hl]
  simp only [bind, Except.bind, hq]
  rfl

/-- What saving a text does under the policies.  A dry run changes nothing, nor does a text that is
not written.  A text that is written is what its pathname reads as, and one that is written or
refused leaves nothing else behind but new directories on its way.  Without overwriting a file is
written over exactly where the pathname leads to it only once the directories on its way are made,
which takes a step up. -/
theorem save_respects_policies (d : Disk) (t content : String) (overwrite dryRun : Bool) :
    let p := Pathname.ofText t
    let saved := d.save p content ⟨overwrite, dryRun⟩
    (dryRun = true ∨ saved.result = .ok false → saved.disk = d) ∧
    (saved.result = .ok true → dryRun = false →
      saved.disk.bytes p = .ok (Text.utf8 content) ∧
      Text.decode .utf8 (Text.utf8 content) = .ok content.toList ∧
      ∃ q, saved.disk.locate p = .ok q ∧ d.item? q ≠ some .directory ∧
        ∀ q', q' ≠ q → saved.disk.item? q' = d.item? q' ∨ MadeOnWay d saved.disk p.parent q') ∧
    (∀ f, saved.result = .error f →
      ∀ q, saved.disk.item? q = d.item? q ∨ MadeOnWay d saved.disk p.parent q) ∧
    (overwrite = false → ∀ q bs, d.item? q = some (.file bs) →
      (dryRun = false ∧ LeadsLater d p q ∧
          saved.disk.item? q = some (.file (Text.utf8 content)) ∨
        ¬ (dryRun = false ∧ LeadsLater d p q) ∧ saved.disk.item? q = some (.file bs)) ∧
      (d.IsTree → ".." ∉ p.steps → ¬ LeadsLater d p q)) := by
  intro p saved
  have hdry : dryRun = true → saved.disk = d := by
    rintro rfl
    exact save_dryRun_disk d p content overwrite
  refine ⟨fun h => h.elim hdry save_skipped, ?_, fun f => save_refused, ?_⟩
  · rintro hw rfl
    obtain ⟨q, hq, hl, hitem, hothers⟩ := save_elsewhere hw
    exact ⟨bytes_of_item hl hitem, Text.decode_utf8 content, q, hl, hq, hothers⟩
  · rintro rfl q bs hq
    refine ⟨?_, fun ht hup => ht.not_leadsLater ((Pathname.isPlain_ofText_iff t).mpr hup) hq⟩
    cases dryRun with
    | true =>
      rw [hdry rfl]
      exact .inr ⟨by simp, hq⟩
    | false =>
      rcases save_overwrites hq p content with ⟨hlater, hover⟩ | ⟨hlater, hkept⟩
      · exact .inl ⟨rfl, hlater, hover⟩
      · exact .inr ⟨fun h => hlater h.2, hkept⟩

/-- a file is written over though it was to be kept: a directory that is missing hides it at
first -/
theorem hidden_file_overwritten :
    let d : Disk := { items := [(⟨["x.ts"]⟩, .file (Text.utf8 "old"))] }
    let saved := d.save (.ofText "a/../x.ts") "new" ⟨false, false⟩
    d.IsTree ∧ d.item? ⟨["x.ts"]⟩ = some (.file (Text.utf8 "old")) ∧ saved.result = .ok true ∧
      saved.disk.item? ⟨["x.ts"]⟩ = some (.file (Text.utf8 "new")) ∧
      Text.utf8 "new" ≠ Text.utf8 "old" :=
  ⟨isTree_of_items rfl (by decide +kernel), rfl, rfl, rfl, by decide +kernel⟩

end Disk

end SampleTypes
