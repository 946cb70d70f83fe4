import SampleTypes.Proofs.Disk.Plain

/-!
# Saving at a pathname without a step up

Unless a file stands in the way, the directories on the way are made as far as their names are
short enough, and what becomes of the text is said by the item at its place alone.  A file in the
way stops the attempt before anything is made.

* `Made`          what making the directories on a way comes to;
* `landing`       what becomes of a text by the item at its place;
* `Landed`        what saving a text comes to where no file stands in the way;
* `save_open`, `save_blocked`   the two cases.
-/

namespace SampleTypes

namespace Disk

open Pathname (isDown)

variable {d : Disk} {p : Pathname} {slashes : Nat} {ss : List String} {s : String}

/-! ## pathnames that a disk can be asked for -/

theorem utf8ByteSize_text_le (slashes : Nat) {ts : List String} (h : ts <+: ss) :
    (Pathname.mk slashes ts).text.utf8ByteSize ≤
      max 1 (Pathname.mk slashes ss).text.utf8ByteSize := by
  obtain ⟨us, rfl⟩ := h
  by_cases hts : ts = []
  · subst hts
    by_cases hs : slashes = 0
    · have hdot : (Pathname.mk slashes []).text = "." := by simp [Pathname.text, hs]
      rw [hdot]
      exact Nat.le_max_left 1 _
    · have htext : ∀ us, (Pathname.mk slashes us).text =
          String.ofList (List.replicate slashes '/') ++ String.intercalate "/" us := by
        intro us
        simp [Pathname.text, hs]
      rw [htext, htext, String.utf8ByteSize_append, String.utf8ByteSize_append]
      show _ + 0 ≤ _
      omega
  · have htext : ∀ us, (Pathname.mk slashes (ts ++ us)).text =
        String.ofList (List.replicate slashes '/') ++ String.intercalate "/" (ts ++ us) := by
      intro us
      simp [Pathname.text, hts]
    have hself := htext []
    rw [List.append_nil] at hself
    rw [htext us, hself]
    by_cases hus : us = []
    · rw [hus, List.append_nil]
      exact Nat.le_max_right 1 _
    · rw [String.intercalate_append_of_ne_nil hts hus]
      simp only [String.utf8ByteSize_append]
      omega

theorem IsUsable.above (hu : IsUsable ⟨slashes, ss⟩) {ts : List String} (h : ts <+: ss) :
    IsUsable ⟨slashes, ts⟩ := by
  refine ⟨?_, ?_⟩
  · have hnull := hu.1
    rw [Pathname.hasNull, List.any_eq_false] at hnull ⊢
    exact fun t hts => hnull t (h.subset hts)
  · have hle := utf8ByteSize_text_le slashes h
    have hceiling : 1 ≤ pathnameCeiling := by decide
    have hss := hu.2
    omega

theorem locate_of_usable {p : Pathname} (hu : IsUsable p) (d : Disk) :
    d.locate p = d.walk (d.start p) p.steps := by
  rw [locate_eq, hu.1, if_neg (by simp), if_neg (Nat.not_lt.mpr hu.2)]

theorem status_found {q : Place} (hl : d.locate p = .ok q) : d.status p = .ok (d.item? q) := by
  simp only [status, hl]

theorem status_long (hl : d.locate p = .error .nameTooLong) :
    d.status p = .error .nameTooLong := by
  rw [status, hl]

theorem status_missing {r : Refusal} (hl : d.locate p = .error r) (hr : r ≠ .nameTooLong) :
    d.status p = .ok none := by
  rw [status, hl]
  cases r <;> first | rfl | exact absurd rfl hr

/-! ## directories on a way -/

theorem not_concat_le (ss : List String) (s : String) : ¬ ss ++ [s] <+: ss := by
  intro h
  have hlen := h.length_le
  simp only [List.length_append, List.length_singleton] at hlen
  omega

/-- the directories of a way, made as far as their names are short enough -/
structure Made (d : Disk) (b : Place) (slashes : Nat) (ss : List String)
    (r : Except Failure Unit × Disk) : Prop where
  inside : ∀ ts, ts <+: reach ss → r.2.item? (b.below ts) = some .directory
  outside : ∀ q, (∀ ts, ts <+: reach ss → q ≠ b.below ts) → r.2.item? q = d.item? q
  done : ss.all isShort = true → r.1 = .ok ()
  refused : ss.all isShort = false →
    ∃ ts, ts <+: ss ∧ r.1 = .error ⟨.nameTooLong, ⟨slashes, ts⟩⟩

theorem isDirectory_of_locate {p : Pathname} {q : Place} (hl : d.locate p = .ok q) :
    d.isDirectory p = .ok (d.item? q == some .directory) := by
  rw [isDirectory, status_found hl]
  rfl

theorem unlessDirectory_exists {p : Pathname} {q : Place} (hl : d.locate p = .ok q)
    (hq : d.item? q = some .directory) : d.unlessDirectory p .exists = .ok () := by
  have hdir := isDirectory_of_locate hl
  rw [hq] at hdir
  unfold unlessDirectory
  rw [hdir]
  rfl

theorem unlessDirectory_long {p : Pathname} (hl : d.locate p = .error .nameTooLong) :
    d.unlessDirectory p .nameTooLong = .error ⟨.nameTooLong, p⟩ := by
  have hdir : d.isDirectory p = .error .nameTooLong := by
    rw [isDirectory, status_long hl]
    rfl
  unfold unlessDirectory
  rw [hdir]

/-- one attempt to make a directory that may be there already -/
def attempt (d : Disk) (p : Pathname) : Except Failure Unit × Disk :=
  match d.makeDir p with
  | .ok d => (.ok (), d)
  | .error r => (d.unlessDirectory p r, d)

theorem attempt_missing {p : Pathname} {q : Place} (hl : d.locate p = .ok q)
    (hq : d.item? q = none) : d.attempt p = (.ok (), d.put q .directory) := by
  have hmake := makeDir_eq d p
  simp only [hl, hq] at hmake
  rw [attempt, hmake]

theorem attempt_present {p : Pathname} {q : Place} {i : Item} (hl : d.locate p = .ok q)
    (hq : d.item? q = some i) : d.attempt p = (d.unlessDirectory p .exists, d) := by
  have hmake := makeDir_eq d p
  simp only [hl, hq] at hmake
  rw [attempt, hmake]

theorem attempt_error {p : Pathname} {r : Refusal} (hl : d.locate p = .error r) :
    d.attempt p = (d.unlessDirectory p r, d) := by
  have hmake := makeDir_eq d p
  simp only [hl] at hmake
  rw [attempt, hmake]

theorem makeDirsBackward_nil (d : Disk) (slashes : Nat) :
    d.makeDirsBackward slashes [] = d.attempt ⟨slashes, []⟩ := rfl

theorem makeDirsBackward_concat (d : Disk) (slashes : Nat) (ss : List String) (s : String) :
    d.makeDirsBackward slashes (ss ++ [s]).reverse =
      if d.locate ⟨slashes, ss ++ [s]⟩ = .error .notFound then
        match d.makeDirsBackward slashes ss.reverse with
        | (.error f, d) => (.error f, d)
        | (.ok (), d) => d.attempt ⟨slashes, ss ++ [s]⟩
      else d.attempt ⟨slashes, ss ++ [s]⟩ := by
  have hback : (s :: ss.reverse).reverse = ss ++ [s] := by simp
  rw [List.reverse_append, List.reverse_singleton, List.singleton_append, makeDirsBackward, hback]
  have hmake := makeDir_eq d ⟨slashes, ss ++ [s]⟩
  split_ifs with hl
  · rw [hl] at hmake
    rw [hmake]
    rfl
  · cases hl' : d.locate ⟨slashes, ss ++ [s]⟩ with
    | error r =>
      rw [hl'] at hmake hl
      rw [attempt, hmake]
      cases r <;> first | rfl | exact absurd rfl hl
    | ok q =>
      cases hq : d.item? q <;> simp only [hl', hq] at hmake <;> rw [attempt, hmake]

/-- past a name that is too long nothing can be asked for -/
theorem made_long (hdown : ∀ t ∈ ss, isDown t = true) (hu : IsUsable ⟨slashes, ss⟩)
    (hl : d.locate ⟨slashes, ss⟩ = .error .nameTooLong) :
    Made d (d.start ⟨slashes, []⟩) slashes ss (d.attempt ⟨slashes, ss⟩) := by
  have hwalk := (locate_of_usable hu d).symm.trans hl
  rcases walk_error hdown hwalk with ⟨hr, -⟩ | ⟨hr, -⟩ | ⟨-, hnot, hdirs⟩
  · simp at hr
  · simp at hr
  · rw [attempt_error hl, unlessDirectory_long hl]
    exact ⟨hdirs, fun _ _ => rfl, fun h => absurd h (by simp [hnot]),
      fun _ => ⟨ss, List.prefix_refl ss, rfl⟩⟩

/-- below directories with short names the attempt makes the last directory of a way -/
theorem made_attempt (hdown : ∀ t ∈ ss ++ [s], isDown t = true)
    (hu : IsUsable ⟨slashes, ss ++ [s]⟩) (hall : ss.all isShort = true)
    (hdirs : ∀ ts, ts <+: ss → d.item? ((d.start ⟨slashes, []⟩).below ts) = some .directory)
    (hfile : ∀ bs, d.item? ((d.start ⟨slashes, []⟩).below (ss ++ [s])) ≠ some (.file bs)) :
    Made d (d.start ⟨slashes, []⟩) slashes (ss ++ [s]) (d.attempt ⟨slashes, ss ++ [s]⟩) := by
  cases hs : isShort s with
  | false =>
    exact made_long hdown hu ((locate_of_usable hu d).trans (walk_of_long hdown hs hdirs))
  | true =>
    have hshort : (ss ++ [s]).all isShort = true := by simp [List.all_append, hs, hall]
    have hreach := reach_of_all hshort
    have habove : ∀ ts, ts <+: ss ++ [s] → ts ≠ ss ++ [s] →
        d.item? ((d.start ⟨slashes, []⟩).below ts) = some .directory := fun ts hts hne =>
      hdirs ts ((List.prefix_concat_iff.mp hts).resolve_left hne)
    have hok : d.locate ⟨slashes, ss ++ [s]⟩ = .ok ((d.start ⟨slashes, []⟩).below (ss ++ [s])) :=
      (locate_of_usable hu d).trans (walk_of_directories hdown hshort habove)
    have hnot : (ss ++ [s]).all isShort ≠ false := by simp [hshort]
    cases hi : d.item? ((d.start ⟨slashes, []⟩).below (ss ++ [s])) with
    | none =>
      have hroot := ne_root_of_item (d := d) fun e => absurd (hi.symm.trans e) (by simp)
      rw [attempt_missing hok hi]
      refine ⟨fun ts hts => ?_, fun q hq => ?_, fun _ => rfl, fun h => absurd h hnot⟩
      · by_cases hne : ts = ss ++ [s]
        · rw [hne]
          exact item?_put_self d hroot _
        · have hother : (d.start ⟨slashes, []⟩).below ts ≠
              (d.start ⟨slashes, []⟩).below (ss ++ [s]) := fun e => hne (Place.below_inj e)
          exact (item?_put_of_ne d hother _).trans (habove ts (hreach ▸ hts) hne)
      · exact item?_put_of_ne d (hq _ (hreach.symm ▸ List.prefix_refl _)) _
    | some i =>
      cases i with
      | file bs => exact absurd hi (hfile bs)
      | directory =>
        rw [attempt_present hok hi]
        refine ⟨fun ts hts => ?_, fun _ _ => rfl, fun _ => unlessDirectory_exists hok hi,
          fun h => absurd h hnot⟩
        by_cases hne : ts = ss ++ [s]
        · rw [hne]
          exact hi
        · exact habove ts (hreach ▸ hts) hne

/-- where a directory above cannot be made, nothing more is tried -/
theorem Made.concat_error {b : Place} {f : Failure} {d₁ : Disk}
    (h : Made d b slashes ss (.error f, d₁)) (hall : ss.all isShort = false) (s : String) :
    Made d b slashes (ss ++ [s]) (.error f, d₁) := by
  have hreach := reach_append_of_not_all hall [s]
  have hnot : (ss ++ [s]).all isShort = false := by simp [List.all_append, hall]
  obtain ⟨ts, hts, hp⟩ := h.refused hall
  exact ⟨fun ts hts => h.inside ts (hreach ▸ hts),
    fun q hq => h.outside q fun ts hts => hq ts (hreach.symm ▸ hts),
    fun hdone => absurd hdone (by simp [hnot]),
    fun _ => ⟨ts, hts.trans (List.prefix_append ss [s]), hp⟩⟩

/-- the directories above are made, and the last one is tried -/
theorem Made.concat_done {d₁ : Disk}
    (h : Made d (d.start ⟨slashes, []⟩) slashes ss (.ok (), d₁)) (hall : ss.all isShort = true)
    (hstart : d₁.start ⟨slashes, []⟩ = d.start ⟨slashes, []⟩)
    (hdown : ∀ t ∈ ss ++ [s], isDown t = true) (hu : IsUsable ⟨slashes, ss ++ [s]⟩)
    (hfile : ∀ bs, d.item? ((d.start ⟨slashes, []⟩).below (ss ++ [s])) ≠ some (.file bs)) :
    Made d (d.start ⟨slashes, []⟩) slashes (ss ++ [s]) (d₁.attempt ⟨slashes, ss ++ [s]⟩) := by
  have hreach := reach_of_all hall
  have hsame : d₁.item? ((d.start ⟨slashes, []⟩).below (ss ++ [s])) =
      d.item? ((d.start ⟨slashes, []⟩).below (ss ++ [s])) := by
    refine h.outside _ fun ts hts e => not_concat_le ss s ?_
    rw [hreach, ← Place.below_inj e] at hts
    exact hts
  have hlast := @made_attempt d₁ slashes ss s hdown hu hall
  rw [hstart] at hlast
  have hnew := hlast (fun ts hts => h.inside ts (hreach.symm ▸ hts)) fun bs => hsame ▸ hfile bs
  refine ⟨hnew.inside, fun q hq => ?_, hnew.done, hnew.refused⟩
  rw [hnew.outside q hq]
  exact h.outside q fun ts hts => hq ts (hts.trans (reach_append_le ss [s]))

theorem made_makeDirs (ht : d.IsTree) (hdown : ∀ t ∈ ss, isDown t = true)
    (hu : IsUsable ⟨slashes, ss⟩)
    (hopen : ∀ ts, ts <+: ss → ∀ bs,
      d.item? ((d.start ⟨slashes, []⟩).below ts) ≠ some (.file bs)) :
    Made d (d.start ⟨slashes, []⟩) slashes ss (d.makeDirsBackward slashes ss.reverse) := by
  -- the attempt begins at the end of the way, and goes up while there is nothing above
  induction ss using List.reverseRecOn with
  | nil =>
    have hl : d.locate ⟨slashes, []⟩ = .ok (d.start ⟨slashes, []⟩) := locate_of_usable hu d
    have hb := ht.start ⟨slashes, []⟩
    rw [List.reverse_nil, makeDirsBackward_nil, attempt_present hl hb]
    refine ⟨fun ts hts => ?_, fun _ _ => rfl, fun _ => unlessDirectory_exists hl hb,
      fun h => absurd h (by simp)⟩
    rw [List.prefix_nil.mp hts, Place.below_nil]
    exact hb
  | append_singleton ss s ih =>
    have hss : ss <+: ss ++ [s] := List.prefix_append ss [s]
    have hwalk := locate_of_usable hu d
    have hend := hopen _ (List.prefix_refl _)
    rw [makeDirsBackward_concat]
    split_ifs with hl
    · have hmade := ih (fun t h => hdown t (List.mem_append_left _ h)) (hu.above hss)
        fun ts hts => hopen ts (hts.trans hss)
      have hstart := (extended_makeDirs d ⟨slashes, ss⟩).grows.start_eq ⟨slashes, []⟩
      simp only [makeDirs] at hstart
      generalize d.makeDirsBackward slashes ss.reverse = r at hstart hmade
      obtain ⟨made, d₁⟩ := r
      cases hall : ss.all isShort with
      | false =>
        obtain ⟨ts, -, rfl⟩ := hmade.refused hall
        exact hmade.concat_error hall s
      | true =>
        obtain rfl := hmade.done hall
        exact hmade.concat_done hall hstart hdown hu hend
    · cases hw : d.walk (d.start ⟨slashes, []⟩) (ss ++ [s]) with
      | ok q =>
        obtain ⟨rfl, hall, hdirs⟩ := walk_ok hdown hw
        refine made_attempt hdown hu ?_ (fun ts hts => hdirs ts (hts.trans hss) fun e => ?_) hend
        · rw [List.all_append, Bool.and_eq_true] at hall
          exact hall.1
        · exact not_concat_le ss s (e ▸ hts)
      | error r =>
        rcases walk_error hdown hw with ⟨rfl, -⟩ | ⟨-, ts, bs, hts, -, hf⟩ | ⟨rfl, -⟩
        · exact absurd (hwalk.trans hw) hl
        · exact absurd hf (hopen ts hts bs)
        · exact made_long hdown hu (hwalk.trans hw)

/-! ## a text on an open way -/

/-- no file stands on the way to a pathname -/
def IsOpen (d : Disk) (p : Pathname) : Prop :=
  ∀ ts, ts <+: p.steps → ts ≠ p.steps → ∀ bs, d.item? ((d.start p).below ts) ≠ some (.file bs)

/-- what becomes of a text by the item at its place -/
def landing (item : Option Item) (p : Pathname) (overwrite : Bool) : Except Failure Bool :=
  match item with
  | none => .ok true
  | some (.file _) => .ok overwrite
  | some .directory => if overwrite then .error ⟨.isDirectory, p⟩ else .ok false

theorem landing_ok_true_iff {item : Option Item} {p : Pathname} {overwrite : Bool} :
    landing item p overwrite = .ok true ↔
      item = none ∨ overwrite = true ∧ ∃ bs, item = some (.file bs) := by
  rcases item with _ | _ | bs <;> cases overwrite <;> simp [landing]

/-- what saving a text comes to where no file stands in the way -/
structure Landed (d : Disk) (p : Pathname) (bytes : List Nat) (overwrite : Bool) (saved : Saved) :
    Prop where
  way : ∀ ts, ts <+: reach p.steps.dropLast →
    saved.disk.item? ((d.start p).below ts) = some .directory
  elsewhere : ∀ q, q ≠ d.place p → (∀ ts, ts <+: reach p.steps.dropLast →
    q ≠ (d.start p).below ts) → saved.disk.item? q = d.item? q
  result : p.steps.all isShort = true → saved.result = landing (d.item? (d.place p)) p overwrite
  refused : p.steps.all isShort = false →
    ∃ ts, saved.result = .error ⟨.nameTooLong, ⟨p.slashes, ts⟩⟩ ∧
      if p.steps.dropLast.all isShort = true ∨ d.locate p = .error .nameTooLong then ts = p.steps
      else ts <+: p.steps.dropLast
  written : saved.result = .ok true → saved.disk.item? (d.place p) = some (.file bytes)
  kept : saved.result ≠ .ok true → saved.disk.item? (d.place p) = d.item? (d.place p)

theorem all_dropLast (h : ss.all isShort = true) : ss.dropLast.all isShort = true :=
  List.all_eq_true.mpr fun s hs => List.all_eq_true.mp h s (List.dropLast_subset _ hs)

theorem not_prefix_dropLast (hss : ss ≠ []) : ¬ ss <+: ss.dropLast := by
  intro h
  have hlen := h.length_le
  have hpos := List.length_pos_iff.mpr hss
  rw [List.length_dropLast] at hlen
  omega

theorem prefix_dropLast {ts : List String} (h : ts <+: ss) (hne : ts ≠ ss) :
    ts <+: ss.dropLast := by
  rcases ss.eq_nil_or_concat with rfl | ⟨us, s, rfl⟩
  · exact absurd (List.prefix_nil.mp h) hne
  · rw [List.concat_eq_append] at h hne ⊢
    rw [List.dropLast_concat]
    exact (List.prefix_concat_iff.mp h).resolve_left hne

theorem IsOpen.made (hopen : d.IsOpen p) (ht : d.IsTree) (hplain : p.isPlain = true)
    (hu : IsUsable p) : Made d (d.start p) p.slashes p.steps.dropLast (d.makeDirs p.parent) := by
  have hdown := List.all_eq_true.mp hplain
  have hparent : IsUsable p.parent := hu.above (List.dropLast_prefix p.steps)
  refine made_makeDirs ht (fun s hs => hdown s (List.dropLast_subset _ hs)) hparent ?_
  intro ts hts bs
  by_cases hne : ts = p.steps
  · have hnil : p.steps = [] := by
      by_contra hsteps
      exact not_prefix_dropLast hsteps (hne ▸ hts)
    have hstart : d.item? ((d.start p).below []) = some .directory := by
      rw [Place.below_nil]
      exact ht.start p
    rw [hne, hnil]
    intro hf
    exact absurd (hstart.symm.trans hf) (by simp)
  · exact hopen ts (hts.trans (List.dropLast_prefix _)) hne bs

/-- making the directories on the way leaves the item at the end of the way alone -/
theorem Made.item_place {r : Except Failure Unit × Disk}
    (h : Made d (d.start p) p.slashes p.steps.dropLast r) (ht : d.IsTree) :
    r.2.item? (d.place p) = d.item? (d.place p) := by
  by_cases hnil : p.steps = []
  · have hstart := ht.start p
    have hdir := h.inside [] List.nil_prefix
    rw [Place.below_nil] at hdir
    rw [place, hnil, Place.below_nil, hdir, hstart]
  · refine h.outside _ fun ts hts e => not_prefix_dropLast hnil ?_
    have hsteps : p.steps = ts := Place.below_inj e
    rw [← hsteps] at hts
    exact hts.trans (reach_le _)

theorem write_error {r : Refusal} (hl : d.locate p = .error r) (bytes : List Nat) :
    d.write p bytes = .error ⟨r, p⟩ := by
  rw [write, hl]

theorem write_directory {q : Place} (hl : d.locate p = .ok q)
    (hq : d.item? q = some .directory) (bytes : List Nat) :
    d.write p bytes = .error ⟨.isDirectory, p⟩ := by
  unfold write
  simp only [hl, hq]

theorem write_file {q : Place} (hl : d.locate p = .ok q) (hq : d.item? q ≠ some .directory)
    (bytes : List Nat) : d.write p bytes = .ok (d.put q (.file bytes)) := by
  unfold write
  simp only [hl]

section
variable {made : Except Failure Unit} {d₁ : Disk}

/-- what is made on the way stays when the text is refused -/
theorem Made.landed_error (h : Made d (d.start p) p.slashes p.steps.dropLast (made, d₁))
    (ht : d.IsTree) {f : Failure} {bytes : List Nat} {log : Log}
    (hresult : p.steps.all isShort = true → .error f = landing (d.item? (d.place p)) p true)
    (hrefused : p.steps.all isShort = false → ∃ ts, f = ⟨.nameTooLong, ⟨p.slashes, ts⟩⟩ ∧
      if p.steps.dropLast.all isShort = true ∨ d.locate p = .error .nameTooLong then ts = p.steps
      else ts <+: p.steps.dropLast) :
    Landed d p bytes true ⟨.error f, d₁, log⟩ where
  way := h.inside
  elsewhere := fun q _ hq => h.outside q hq
  result := hresult
  refused := fun hs => by
    obtain ⟨ts, rfl, hts⟩ := hrefused hs
    exact ⟨ts, rfl, hts⟩
  written := fun hok => by simp at hok
  kept := fun _ => h.item_place ht

theorem Made.landed_put (h : Made d (d.start p) p.slashes p.steps.dropLast (made, d₁))
    (ht : d.IsTree) (hall : p.steps.all isShort = true)
    (hdir : d₁.item? (d.place p) ≠ some .directory) (bytes : List Nat) {log : Log} :
    Landed d p bytes true ⟨.ok true, d₁.put (d.place p) (.file bytes), log⟩ where
  way := fun ts hts => by
    have hother : (d.start p).below ts ≠ d.place p := fun e => hdir (e ▸ h.inside ts hts)
    exact (item?_put_of_ne d₁ hother _).trans (h.inside ts hts)
  elsewhere := fun q hne hq => (item?_put_of_ne d₁ hne _).trans (h.outside q hq)
  result := fun _ => by
    rw [h.item_place ht] at hdir
    refine (landing_ok_true_iff.mpr ?_).symm
    rcases hi : d.item? (d.place p) with _ | _ | bs
    · exact .inl rfl
    · exact absurd hi hdir
    · exact .inr ⟨rfl, bs, rfl⟩
  refused := fun hs => absurd hs (by simp [hall])
  written := fun _ => item?_put_self d₁ (ne_root_of_item hdir) _
  kept := fun hno => absurd rfl hno

/-- once the directories on the way are made, only the last name can be too long -/
theorem Made.locate (h : Made d (d.start p) p.slashes p.steps.dropLast (made, d₁))
    (hstart : d₁.start p = d.start p) (hplain : p.isPlain = true) (hu : IsUsable p)
    (hall : p.steps.dropLast.all isShort = true) :
    d₁.locate p =
      if p.steps.all isShort = true then .ok (d.place p) else .error .nameTooLong := by
  have hdown := List.all_eq_true.mp hplain
  have hreach := reach_of_all hall
  rw [locate_of_usable hu, hstart]
  split_ifs with hs
  · exact walk_of_directories hdown hs fun ts hts hne =>
      h.inside ts (hreach.symm ▸ prefix_dropLast hts hne)
  · rw [Bool.not_eq_true] at hs
    rcases p.steps.eq_nil_or_concat with hnil | ⟨ss, s, hsteps⟩
    · simp [hnil] at hs
    · rw [List.concat_eq_append] at hsteps
      rw [hsteps, List.dropLast_concat] at hall hreach h
      rw [hsteps, List.all_append, hall] at hs
      rw [hsteps]
      exact walk_of_long (hsteps ▸ hdown) (by simpa using hs)
        fun ts hts => h.inside ts (hreach.symm ▸ hts)

end

theorem saveThrough_open (ht : d.IsTree) (hplain : p.isPlain = true) (hu : IsUsable p)
    (hopen : d.IsOpen p) (hlocate : d.locate p ≠ .error .nameTooLong) (content : String) :
    Landed d p (Text.utf8 content) true (d.saveThrough p content) := by
  have hmade := hopen.made ht hplain hu
  have hplace := hmade.item_place ht
  have hstart := (extended_makeDirs d p.parent).grows.start_eq p
  unfold saveThrough
  generalize d.makeDirs p.parent = r at hmade hplace hstart
  obtain ⟨made, d₁⟩ := r
  -- a long name is met while the directories are made, but the last one only by the write
  cases hall : p.steps.dropLast.all isShort with
  | false =>
    obtain ⟨ts, hts, rfl⟩ := hmade.refused hall
    exact hmade.landed_error ht (fun h => absurd (all_dropLast h) (by simp [hall]))
      fun _ => ⟨ts, rfl, by rwa [if_neg (by simp [hall, hlocate])]⟩
  | true =>
    obtain rfl := hmade.done hall
    have hl := hmade.locate hstart hplain hu hall
    cases hs : p.steps.all isShort with
    | false =>
      rw [if_neg (by simp [hs])] at hl
      simp only [write_error hl]
      exact hmade.landed_error ht (fun h => absurd h (by simp [hs]))
        fun _ => ⟨p.steps, rfl, by rw [if_pos (.inl hall)]⟩
    | true =>
      rw [if_pos hs] at hl
      by_cases hdir : d₁.item? (d.place p) = some .directory
      · simp only [write_directory hl hdir]
        refine hmade.landed_error ht (fun _ => ?_) fun h => absurd h (by simp [hs])
        rw [← hplace, hdir]
        rfl
      · simp only [write_file hl hdir]
        exact hmade.landed_put ht hs hdir _

theorem IsTree.way (ht : d.IsTree) {i : Item} (hi : d.item? (d.place p) = some i)
    {ts : List String} (hts : ts <+: p.steps.dropLast) :
    d.item? ((d.start p).below ts) = some .directory := by
  by_cases hne : ts = p.steps
  · have hnil : p.steps = [] := by
      by_contra hsteps
      exact not_prefix_dropLast hsteps (hne ▸ hts)
    rw [hne, hnil, Place.below_nil]
    exact ht.start p
  · exact ht.above (hts.trans (List.dropLast_prefix _)) hne hi

/-- on an open way only a name that is too long is refused before the text is saved -/
theorem IsOpen.status (hopen : d.IsOpen p) (ht : d.IsTree) (hplain : p.isPlain = true)
    (hu : IsUsable p) :
    (d.locate p = .error .nameTooLong ∧ p.steps.all isShort = false ∧
      ∀ ts, ts <+: reach p.steps → d.item? ((d.start p).below ts) = some .directory) ∨
    (d.status p = .ok (d.item? (d.place p)) ∧
      (p.steps.all isShort = true ∨ d.item? (d.place p) = none)) := by
  have hdown := List.all_eq_true.mp hplain
  have hlocate := locate_of_usable hu d
  cases hw : d.walk (d.start p) p.steps with
  | ok q =>
    obtain ⟨rfl, hall, -⟩ := walk_ok hdown hw
    exact .inr ⟨status_found (hlocate.trans hw), .inl hall⟩
  | error r =>
    rcases walk_error hdown hw with ⟨rfl, ts, hts, -, hnone, -⟩ | ⟨-, ts, bs, hts, hne, hf⟩ |
      ⟨rfl, hnot, hdirs⟩
    · have hplace := ht.none_below hts hnone
      refine .inr ⟨?_, .inr hplace⟩
      rw [status_missing (hlocate.trans hw) (by simp), place, hplace]
    · exact absurd hf (hopen ts hts hne bs)
    · exact .inl ⟨hlocate.trans hw, hnot, hdirs⟩

theorem save_status_error {r : Refusal} (hs : d.status p = .error r) (content : String)
    (policy : Policy) : d.save p content policy = ⟨.error ⟨r, p⟩, d, []⟩ := by
  rw [save, hs]

theorem save_open (ht : d.IsTree) (hplain : p.isPlain = true) (hu : IsUsable p)
    (hopen : d.IsOpen p) (content : String) (overwrite : Bool) :
    Landed d p (Text.utf8 content) overwrite (d.save p content ⟨overwrite, false⟩) := by
  rcases hopen.status ht hplain hu with ⟨hlong, hnot, hdirs⟩ | ⟨hstatus, hitem⟩
  · rw [save_status_error (status_long hlong)]
    exact {
      way := fun ts hts => hdirs ts (hts.trans (reach_mono (List.dropLast_prefix _)))
      elsewhere := fun _ _ _ => rfl
      result := fun h => absurd h (by simp [hnot])
      refused := fun _ => ⟨p.steps, rfl, by rw [if_pos (.inr hlong)]⟩
      written := fun h => by simp at h
      kept := fun _ => rfl }
  · by_cases hskip : (d.item? (d.place p)).isSome = true ∧ overwrite = false
    · obtain ⟨hsome, rfl⟩ := hskip
      obtain ⟨i, hi⟩ := Option.isSome_iff_exists.mp hsome
      have hall : p.steps.all isShort = true := hitem.resolve_right (by simp [hi])
      have hsave : d.save p content ⟨false, false⟩ = ⟨.ok false, d, [skipEntry p]⟩ := by
        rw [save, hstatus, hi]
        rfl
      rw [hsave]
      exact {
        way := fun ts hts => ht.way hi (hts.trans (reach_le _))
        elsewhere := fun _ _ _ => rfl
        result := fun _ => by cases i <;> rw [hi] <;> rfl
        refused := fun h => absurd h (by simp [hall])
        written := fun h => by simp at h
        kept := fun _ => rfl }
    · have hthrough : d.save p content ⟨overwrite, false⟩ = d.saveThrough p content := by
        simp only [save, hstatus]
        rw [if_neg (by simpa using hskip)]
        rfl
      have hlocate : d.locate p ≠ .error .nameTooLong := by
        intro hlong
        simp [status_long hlong] at hstatus
      have hlanded := saveThrough_open ht hplain hu hopen hlocate content
      have hland : landing (d.item? (d.place p)) p overwrite =
          landing (d.item? (d.place p)) p true := by
        cases overwrite with
        | true => rfl
        | false =>
          have hnone : d.item? (d.place p) = none := by simpa using hskip
          rw [hnone]
          rfl
      rw [hthrough]
      exact { hlanded with result := fun h => hland ▸ hlanded.result h }

/-! ## a file in the way -/

/-- A pathname is too long, or one of its names past directories is; or a file stands in its way;
or its way is open. -/
theorem IsTree.locate_cases (ht : d.IsTree) (hplain : p.isPlain = true)
    (hnull : p.hasNull = false) :
    d.locate p = .error .nameTooLong ∨ (IsUsable p ∧ d.locate p = .error .notDirectory) ∨
      (IsUsable p ∧ d.IsOpen p) := by
  by_cases hlong : pathnameCeiling < p.text.utf8ByteSize
  · refine .inl ?_
    rw [locate_eq, hnull, if_neg (by simp), if_pos hlong]
  -- past this point only the steps are asked for
  have hu : IsUsable p := ⟨hnull, Nat.le_of_not_lt hlong⟩
  have hdown := List.all_eq_true.mp hplain
  have hlocate := locate_of_usable hu d
  cases hw : d.walk (d.start p) p.steps with
  | ok q =>
    obtain ⟨-, -, hdirs⟩ := walk_ok hdown hw
    refine .inr (.inr ⟨hu, fun ts hts hne bs => ?_⟩)
    simp [hdirs ts hts hne]
  | error r =>
    rcases walk_error hdown hw with ⟨rfl, ts, hts, -, hnone, hdirs⟩ | ⟨rfl, -⟩ | ⟨rfl, -⟩
    · refine .inr (.inr ⟨hu, fun us hus _ bs => ?_⟩)
      rcases List.prefix_or_prefix_of_prefix hus hts with hle | hle
      · by_cases hne : us = ts
        · simp [hne, hnone]
        · simp [hdirs us hle hne]
      · simp [ht.none_below hle hnone]
    · exact .inr (.inl ⟨hu, hlocate.trans hw⟩)
    · exact .inl (hlocate.trans hw)

theorem not_isOpen_of_blocked (hplain : p.isPlain = true) (hu : IsUsable p)
    (hl : d.locate p = .error .notDirectory) : ¬ d.IsOpen p := by
  intro hopen
  rw [locate_of_usable hu] at hl
  rcases walk_error (List.all_eq_true.mp hplain) hl with ⟨hr, -⟩ | ⟨-, ts, bs, hts, hne, hf⟩ |
    ⟨hr, -⟩
  · simp at hr
  · exact hopen ts hts hne bs hf
  · simp at hr

theorem walk_concat (d : Disk) (b : Place) (ss : List String) (s : String) :
    d.walk b (ss ++ [s]) = (d.walk b ss).bind fun q => d.walk q [s] := by
  induction ss generalizing b with
  | nil => rfl
  | cons t ss ih =>
    rw [List.cons_append, walk_cons, walk_cons]
    split
    · rfl
    · rfl
    · split
      · rfl
      · exact ih _

/-- why the directory above a pathname cannot be made when a file stands in the way -/
def blockage (d : Disk) (p : Pathname) : Failure :=
  match d.locate p.parent with
  | .ok _ => ⟨.exists, p.parent⟩
  | .error r => ⟨r, p.parent⟩

/-- what is above a file in the way is that file, or has a file in its way too -/
theorem locate_parent_of_blocked (hu : IsUsable p) (hl : d.locate p = .error .notDirectory) :
    (∃ q bs, d.locate p.parent = .ok q ∧ d.item? q = some (.file bs)) ∨
      d.locate p.parent = .error .notDirectory := by
  have hparent : IsUsable p.parent := hu.above (List.dropLast_prefix p.steps)
  have habove : d.locate p.parent = d.walk (d.start p) p.steps.dropLast :=
    locate_of_usable hparent d
  rw [locate_of_usable hu] at hl
  rw [habove]
  rcases p.steps.eq_nil_or_concat with hnil | ⟨ss, s, hsteps⟩
  · rw [hnil, walk_nil] at hl
    simp at hl
  · rw [List.concat_eq_append] at hsteps
    rw [hsteps, walk_concat] at hl
    rw [hsteps, List.dropLast_concat]
    cases hw : d.walk (d.start p) ss with
    | error r =>
      rw [hw] at hl
      exact .inr hl
    | ok q =>
      rw [hw] at hl
      have hlast : d.walk q [s] = .error .notDirectory := hl
      rw [walk_cons] at hlast
      split at hlast
      · simp at hlast
      · rename_i bs hq
        exact .inl ⟨q, bs, rfl, hq⟩
      · split at hlast <;> simp [walk_nil] at hlast

theorem makeDirs_of_found (hl : d.locate p ≠ .error .notFound) :
    d.makeDirs p = d.attempt p := by
  obtain ⟨slashes, ss⟩ := p
  rcases ss.eq_nil_or_concat with rfl | ⟨ss, s, rfl⟩
  · rfl
  · rw [List.concat_eq_append] at hl ⊢
    exact (makeDirsBackward_concat d slashes ss s).trans (if_neg hl)

theorem save_blocked (hu : IsUsable p) (hl : d.locate p = .error .notDirectory)
    (content : String) (overwrite : Bool) :
    d.save p content ⟨overwrite, false⟩ = ⟨.error (d.blockage p), d, []⟩ := by
  have hstatus := status_missing hl (by simp)
  have hdirs : d.makeDirs p.parent = (.error (d.blockage p), d) := by
    rcases locate_parent_of_blocked hu hl with ⟨q, bs, hq, hfile⟩ | habove
    · have hdir := isDirectory_of_locate hq
      rw [hfile] at hdir
      rw [makeDirs_of_found (by simp [hq]), attempt_present hq hfile, blockage, hq]
      unfold unlessDirectory
      rw [hdir]
      rfl
    · have hdir : d.isDirectory p.parent = .ok false := by
        rw [isDirectory, status_missing habove (by simp)]
        rfl
      rw [makeDirs_of_found (by simp [habove]), attempt_error habove, blockage, habove]
      unfold unlessDirectory
      rw [hdir]
  simp only [save, hstatus]
  rw [if_neg (by simp), if_neg (by simp), saveThrough, hdirs]

end Disk

end SampleTypes
