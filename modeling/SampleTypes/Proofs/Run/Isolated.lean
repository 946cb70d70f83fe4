import Mathlib.Data.List.Forall2
import Mathlib.Data.List.Pairwise
import SampleTypes.Proofs.Disk.Apart
import SampleTypes.Proofs.Run.Jobs

/-!
# Output files do not disturb each other

Output files whose pathnames keep apart come to the same in a run as alone, whatever becomes of
the others, and so the disk at the end does not depend on their order.

* `Source.Steady`          a source that says the same whenever it is asked;
* `TargetResult.Agrees`    the same result, but for the name quoted as too long;
* `Separate`               pathnames that keep apart;
* `Ran.isolated`           what a run comes to, from what its jobs come to alone;
* `all_isolated`           the main statement.
-/

namespace SampleTypes

def Sourced.ofFetched {ε : Type} : Except String (List Record) → Sourced ε
  | .ok rs => .samples rs
  | .error reason => .failed reason

/-- a source that says the same whenever it is asked -/
def Source.Steady {σ ε : Type} (source : Source σ ε)
    (fetched : Generator → Except String (List Record)) : Prop :=
  ∀ g s, (source g s).1 = .ofFetched (fetched g)

/-- The same result; or the same but for what is quoted where a directory's name is too long: each
quotes the pathname up to some step. -/
def TargetResult.Agrees (r r₀ : TargetResult) : Prop :=
  let p := Pathname.ofText r₀.path
  r = r₀ ∨ (p.steps.dropLast.all Disk.isShort = false ∧ r₀.written = false ∧
    ∃ ts ts₀, ts <+: p.steps ∧ ts₀ <+: p.steps ∧
      r₀.error = some (Run.notWritten r₀.path ⟨.nameTooLong, ⟨p.slashes, ts₀⟩⟩) ∧
      r = { r₀ with error := some (Run.notWritten r₀.path ⟨.nameTooLong, ⟨p.slashes, ts⟩⟩) })

/-- pathnames without a step up of which none leads to the place of another, or above it -/
structure Disk.Separate (d : Disk) (paths : List String) : Prop where
  plain : ∀ t ∈ paths, ".." ∉ (Pathname.ofText t).steps
  apart : paths.Pairwise fun t u => ¬ d.Overlap (.ofText t) (.ofText u)

namespace Run

open Disk (Apart Joined IsTree)

variable {ε : Type} {sys : System ε} {overwrite : Bool} {d₀ d d' : Disk} {j : Job ε}
  {js : List (Job ε)} {es : List Disk} {r : TargetResult} {rs : List TargetResult}

/-! ## one job -/

theorem Job.result_agrees (h : Apart d₀ d j.pathname) (ht : d₀.IsTree)
    (hplain : j.pathname.isPlain = true) (hnull : j.pathname.hasNull = false)
    (hr : j.result sys ⟨overwrite, false⟩ d = .ok r) :
    ∃ r₀, j.result sys ⟨overwrite, false⟩ d₀ = .ok r₀ ∧ r.Agrees r₀ := by
  rcases Job.result_cases hr with ⟨reason, hfailed, rfl⟩ | ⟨samples, hsamples, hdeep, hsaved⟩
  · exact ⟨_, Job.result_failed sys hfailed _ d₀, .inl rfl⟩
  rcases (h.agrees ht hplain hnull (sys.encodable (j.text samples)) overwrite).result with e |
    ⟨⟨hlong, ts, hts, e⟩, -, ts₀, hts₀, e₀⟩
  · have hsame : (j.saved sys ⟨overwrite, false⟩ d samples).result =
        (j.saved sys ⟨overwrite, false⟩ d₀ samples).result := e
    refine ⟨r, ?_, .inl rfl⟩
    rcases hsaved with ⟨written, ⟨hw, htext⟩, rfl⟩ | ⟨f, hw, hf, rfl⟩
    · exact Job.result_saved hsamples hdeep htext (hsame.symm.trans hw)
    · exact Job.result_refused hsamples hdeep (hsame.symm.trans hw) hf
  · have hquoted : r = { j.start samples.length with
        error := some (notWritten j.path ⟨.nameTooLong, ⟨j.pathname.slashes, ts⟩⟩) } :=
      Except.ok.inj (hr.symm.trans (Job.result_refused hsamples hdeep e (by simp)))
    exact ⟨_, Job.result_refused hsamples hdeep e₀ (by simp),
      .inr ⟨hlong, rfl, ts, ts₀, hts, hts₀, rfl, hquoted⟩⟩

theorem Job.after_apart {p : Pathname} (h : Apart d₀ d p) (hplain : j.pathname.isPlain = true)
    (hnull : j.pathname.hasNull = false) (hoverlap : ¬ d₀.Overlap j.pathname p) :
    Apart d₀ (j.after sys ⟨overwrite, false⟩ d) p := by
  rcases j.after_cases sys ⟨overwrite, false⟩ d with e | ⟨content, e⟩ <;> rw [e]
  · exact h
  · exact h.save hplain hnull hoverlap _ _

theorem Job.after_joined (sys : System ε) (overwrite : Bool) (hjoined : Joined d₀ es d)
    (h : Apart d₀ d j.pathname) (ht : d₀.IsTree) (hplain : j.pathname.isPlain = true)
    (hnull : j.pathname.hasNull = false) :
    Joined d₀ (es ++ [j.after sys ⟨overwrite, false⟩ d₀]) (j.after sys ⟨overwrite, false⟩ d) := by
  unfold Job.after
  split
  · split
    · exact hjoined.concat_self
    · exact hjoined.save h ht hplain hnull
  · exact hjoined.concat_self

/-! ## a run -/

/-- jobs whose pathnames keep apart -/
structure AllApart (d : Disk) (js : List (Job ε)) : Prop where
  plain : ∀ j ∈ js, j.pathname.isPlain = true
  sound : ∀ j ∈ js, j.pathname.hasNull = false
  apart : js.Pairwise fun i j => ¬ d.Overlap i.pathname j.pathname

theorem allApart_of_separate (h : d.Separate (js.map Job.path))
    (hnull : ∀ j ∈ js, j.pathname.hasNull = false) : AllApart d js := by
  refine ⟨fun j hj => ?_, hnull, List.pairwise_map.mp h.apart⟩
  exact (Pathname.isPlain_ofText_iff j.path).mpr (h.plain j.path (List.mem_map_of_mem hj))

/-- Each of the jobs that are left sees the disk it started from; so each comes to what it comes to
alone, and the disk at the end holds what each changes alone. -/
theorem Ran.isolated (ht : d₀.IsTree) (hjs : AllApart d₀ js)
    (hran : Ran sys ⟨overwrite, false⟩ js d rs d') (hjoined : Joined d₀ es d)
    (hapart : ∀ j ∈ js, Apart d₀ d j.pathname) :
    List.Forall₂ (fun j r => ∃ r₀, j.result sys ⟨overwrite, false⟩ d₀ = .ok r₀ ∧ r.Agrees r₀) js rs ∧
      Joined d₀ (es ++ js.map (·.after sys ⟨overwrite, false⟩ d₀)) d' := by
  -- `es` are the disks of the jobs that are done, each alone; no job in `js` notices them in `d`
  induction js generalizing es d rs with
  | nil =>
    cases hran
    exact ⟨.nil, by rwa [List.map_nil, List.append_nil]⟩
  | cons j js ih =>
    rcases hran with _ | ⟨head, tail⟩
    obtain ⟨hplain, hplains⟩ := List.forall_mem_cons.mp hjs.plain
    obtain ⟨hnull, hnulls⟩ := List.forall_mem_cons.mp hjs.sound
    obtain ⟨hothers, hpairs⟩ := List.pairwise_cons.mp hjs.apart
    obtain ⟨hself, hrest⟩ := List.forall_mem_cons.mp hapart
    have hnext := Job.after_joined sys overwrite hjoined hself ht hplain hnull
    obtain ⟨hresults, hlast⟩ := ih ⟨hplains, hnulls, hpairs⟩ tail hnext fun i hi =>
      Job.after_apart (hrest i hi) hplain hnull (hothers i hi)
    refine ⟨.cons (Job.result_agrees hself ht hplain hnull head) hresults, ?_⟩
    rwa [List.map_cons, List.append_cons]

theorem Job.after_dry (sys : System ε) (j : Job ε) (overwrite : Bool) (d : Disk) :
    j.after sys ⟨overwrite, true⟩ d = d := by
  rcases j.after_cases sys ⟨overwrite, true⟩ d with e | ⟨content, e⟩ <;> rw [e]
  exact d.save_dryRun_disk _ _ overwrite

/-- in a dry run every job sees the same disk -/
theorem Ran.dry (hran : Ran sys ⟨overwrite, true⟩ js d rs d') :
    d' = d ∧ List.Forall₂ (fun j r => j.result sys ⟨overwrite, true⟩ d = .ok r) js rs := by
  induction js generalizing d rs with
  | nil =>
    cases hran
    exact ⟨rfl, .nil⟩
  | cons j js ih =>
    rcases hran with _ | ⟨head, tail⟩
    obtain ⟨hlast, hresults⟩ := ih tail
    rw [Job.after_dry] at hlast hresults
    exact ⟨hlast, .cons head hresults⟩

/-! ## runs with a steady source -/

variable {σ : Type} {source : Source σ ε}
  {fetched : Generator → Except String (List Record)} {ts : Targets} {s : State σ}

/-- an output file of a steady source as a job -/
def steadyJob (fetched : Generator → Except String (List Record)) (t : String × Generator) :
    Job ε :=
  ⟨t.1, t.2, .ofFetched (fetched t.2)⟩

theorem pathname_steadyJob (fetched : Generator → Except String (List Record))
    (t : String × Generator) : (steadyJob fetched t : Job ε).pathname = .ofText t.1 := rfl

theorem sourced_steadyJob {t : String × Generator} {reason : String}
    (h : fetched t.2 = .error reason) : (steadyJob fetched t : Job ε).sourced = .failed reason := by
  rw [steadyJob, h]
  rfl

theorem jobs_steady (h : source.Steady fetched) (ts : Targets) (s : σ) :
    jobs source ts s = ts.map (steadyJob fetched) := by
  induction ts generalizing s with
  | nil => rfl
  | cons t ts ih =>
    obtain ⟨path, g⟩ := t
    rw [jobs, List.map_cons, ih, h g s]
    rfl

theorem returns_steadyJob (policy : Disk.Policy) {t : String × Generator}
    (h : (Pathname.ofText t.1).hasNull = false)
    (hsys : ∀ rs, fetched t.2 = .ok rs → sys.Handles t.2 rs) :
    (steadyJob fetched t).Returns sys policy := by
  refine ⟨fun stop => ?_, .inr h, fun rs hrs => hsys rs ?_⟩
  · show Sourced.ofFetched (fetched t.2) ≠ _
    cases fetched t.2 <;> simp [Sourced.ofFetched]
  · replace hrs : Sourced.ofFetched (fetched t.2) = .samples rs := hrs
    cases hfetched : fetched t.2 <;> simp_all [Sourced.ofFetched]

theorem exists_ran_steady (policy : Disk.Policy)
    (hnull : ∀ t ∈ ts, (Pathname.ofText t.1).hasNull = false)
    (hsys : ∀ t ∈ ts, ∀ rs, fetched t.2 = .ok rs → sys.Handles t.2 rs) (d : Disk) :
    ∃ rs d', Ran sys policy (ts.map (steadyJob fetched)) d rs d' := by
  refine exists_ran (fun j hj => ?_) d
  obtain ⟨t, ht, rfl⟩ := List.mem_map.mp hj
  exact returns_steadyJob policy (hnull t ht) (hsys t ht)

theorem allApart_steady (fetched : Generator → Except String (List Record))
    (h : d.Separate (ts.map Prod.fst))
    (hnull : ∀ t ∈ ts, (Pathname.ofText t.1).hasNull = false) :
    AllApart d (ts.map fun t => (steadyJob fetched t : Job ε)) := by
  refine allApart_of_separate ?_ fun j hj => ?_
  · rw [List.map_map]
    exact h
  · obtain ⟨t, ht, rfl⟩ := List.mem_map.mp hj
    exact hnull t ht

theorem Ran.append {policy : Disk.Policy} {js' : List (Job ε)} {rs' : List TargetResult} {d₁ : Disk}
    (h : Ran sys policy js d rs d₁) (h' : Ran sys policy js' d₁ rs' d') :
    Ran sys policy (js ++ js') d (rs ++ rs') d' := by
  induction h with
  | nil => exact h'
  | cons head _ ih => exact .cons head (ih h')

theorem Ran.one {policy : Disk.Policy} (h : j.result sys policy d = .ok r) :
    Ran sys policy [j] d [r] (j.after sys policy d) :=
  .cons h (.nil _)

/-- a run of jobs apart leaves a disk that holds what each changes alone -/
theorem Ran.joined {dryRun : Bool} (ht : d.IsTree) (hjs : AllApart d js)
    (hran : Ran sys ⟨overwrite, dryRun⟩ js d rs d') :
    List.Forall₂ (fun j r => ∃ r₀, j.result sys ⟨overwrite, dryRun⟩ d = .ok r₀ ∧ r.Agrees r₀) js rs ∧
      Joined d (js.map (·.after sys ⟨overwrite, dryRun⟩ d)) d' := by
  cases dryRun with
  | false =>
    exact hran.isolated ht hjs (Joined.nil d) fun j _ => Apart.refl ht j.pathname
  | true =>
    obtain ⟨rfl, hresults⟩ := hran.dry
    refine ⟨hresults.imp fun j r hr => ⟨r, hr, .inl rfl⟩, Joined.of_same fun e he => ?_⟩
    obtain ⟨j, -, rfl⟩ := List.mem_map.mp he
    exact j.after_dry sys overwrite d'

theorem Job.item_after {dryRun : Bool} {p : Pathname} (ht : d.IsTree)
    (hplain : j.pathname.isPlain = true) (hnull : j.pathname.hasNull = false)
    (hoverlap : ¬ d.Overlap j.pathname p) :
    (j.after sys ⟨overwrite, dryRun⟩ d).item? (d.place p) = d.item? (d.place p) := by
  cases dryRun with
  | false => exact (Job.after_apart (Apart.refl ht p) hplain hnull hoverlap).same
  | true => rw [j.after_dry sys overwrite d]

/-- at its own place the disk after a run is the disk after the job alone -/
theorem Ran.item_alone {dryRun : Bool} (ht : d.IsTree) (hjs : AllApart d js)
    (hran : Ran sys ⟨overwrite, dryRun⟩ js d rs d') (hj : j ∈ js) :
    d'.item? (d.place j.pathname) =
      (j.after sys ⟨overwrite, dryRun⟩ d).item? (d.place j.pathname) := by
  refine (hran.joined ht hjs).2.item_eq (List.mem_map_of_mem hj) fun e he => ?_
  obtain ⟨i, hi, rfl⟩ := List.mem_map.mp he
  by_cases hij : i = j
  · exact .inl (hij ▸ rfl)
  · have : Std.Symm fun i j : Job ε => ¬ d.Overlap i.pathname j.pathname :=
      ⟨fun _ _ h h' => h h'.symm⟩
    have hoverlap := hjs.apart.forall hi hj hij
    exact .inr (Job.item_after ht (hjs.plain i hi) (hjs.sound i hi) hoverlap)

theorem AllApart.perm {js' : List (Job ε)} (h : AllApart d js) (hperm : js'.Perm js) :
    AllApart d js' := by
  refine ⟨fun j hj => h.plain j (hperm.subset hj), fun j hj => h.sound j (hperm.subset hj), ?_⟩
  exact (hperm.pairwise_iff fun hij hji => hij hji.symm).mpr h.apart

theorem ran_all (hsource : source.Steady fetched) (dryRun : Bool) (c : Config)
    (hnull : ∀ t ∈ c.targets, (Pathname.ofText t.1).hasNull = false)
    (hsys : ∀ t ∈ c.targets, ∀ rs, fetched t.2 = .ok rs → sys.Handles t.2 rs) (s : State σ) :
    ∃ rs, (allOn sys source dryRun c s).1 = .ok rs ∧
      Ran sys ⟨c.overwrite, dryRun⟩ (c.targets.map (steadyJob fetched)) s.disk rs
        (allOn sys source dryRun c s).2.disk := by
  obtain ⟨rs, d', hran⟩ := exists_ran_steady ⟨c.overwrite, dryRun⟩ hnull hsys s.disk
  rw [← jobs_steady hsource c.targets s.source] at hran ⊢
  obtain ⟨hrs, rfl⟩ := targets_of_ran sys source _ hran
  exact ⟨rs, hrs, hran⟩

theorem Ran.failed {policy : Disk.Policy} (h : Ran sys policy js d rs d') :
    List.Forall₂ (fun j r => r.path = j.path ∧ r.indexName = j.generator.indexName ∧
      ∀ reason, j.sourced = .failed reason → r.isOk = false ∧ r.written = false) js rs := by
  induction h with
  | nil => exact .nil
  | cons head _ ih =>
    refine .cons ?_ ih
    rcases Job.result_cases head with ⟨reason, -, rfl⟩ |
      ⟨rs, hsamples, -, ⟨written, -, rfl⟩ | ⟨f, -, -, rfl⟩⟩
    · exact ⟨rfl, rfl, fun _ _ => ⟨rfl, rfl⟩⟩
    · exact ⟨rfl, rfl, fun reason h => by simp [hsamples] at h⟩
    · exact ⟨rfl, rfl, fun _ _ => ⟨rfl, rfl⟩⟩

/-- an output file without samples leaves the disk as it was -/
theorem disk_failed {policy : Disk.Policy} (hsource : source.Steady fetched)
    {t : String × Generator} {reason : String} (h : fetched t.2 = .error reason)
    (hnull : ∀ t ∈ ts, (Pathname.ofText t.1).hasNull = false)
    (hsys : ∀ t ∈ ts, ∀ rs, fetched t.2 = .ok rs → sys.Handles t.2 rs) (s : State σ) :
    (targets sys source policy (ts ++ [t]) s).2.disk =
      (targets sys source policy ts s).2.disk := by
  obtain ⟨rs, d₁, hran⟩ := exists_ran_steady policy hnull hsys s.disk
  have hfailed : (steadyJob fetched t : Job ε).sourced = .failed reason := sourced_steadyJob h
  have hafter : (steadyJob fetched t).after sys policy d₁ = d₁ := by rw [Job.after, hfailed]
  have hlast := Ran.one (Job.result_failed sys hfailed policy d₁)
  rw [hafter] at hlast
  have hboth := hran.append hlast
  rw [← List.map_singleton, ← List.map_append, ← jobs_steady hsource _ s.source] at hboth
  rw [← jobs_steady hsource _ s.source] at hran
  exact (targets_of_ran sys source policy hboth).2.trans
    (targets_of_ran sys source policy hran).2.symm

/-- a run of one output file is its job -/
theorem allOn_one (hsource : source.Steady fetched) {dryRun : Bool} {t : String × Generator}
    {r : TargetResult}
    (h : (steadyJob fetched t).result sys ⟨overwrite, dryRun⟩ s.disk = .ok r) :
    (allOn sys source dryRun ⟨overwrite, .one [t]⟩ s).1 = .ok [r] ∧
      (allOn sys source dryRun ⟨overwrite, .one [t]⟩ s).2.disk =
        (steadyJob fetched t).after sys ⟨overwrite, dryRun⟩ s.disk := by
  have hone := Ran.one h
  rw [← List.map_singleton, ← jobs_steady hsource [t] s.source] at hone
  exact targets_of_ran sys source _ hone

/-- Where the system handles the samples, a run comes to its end with one result for each output
file, in order, and leaves the disk alone at one without samples.  If the pathnames keep apart, each
result and each output file is what it is in a run of that output file alone, up to the name quoted
as too long, and no order of the output files changes the disk at the end. -/
theorem all_isolated {ε : Type} (sys : System ε) {source : Source σ ε}
    (hsource : source.Steady fetched) (dryRun : Bool) (c : Config) (s : State σ)
    (htree : s.disk.IsTree) (hnull : ∀ t ∈ c.targets, (Pathname.ofText t.1).hasNull = false)
    (hsys : ∀ t ∈ c.targets, ∀ rs, fetched t.2 = .ok rs → sys.Handles t.2 rs) :
    let alone := fun t => allOn sys source dryRun ⟨c.overwrite, .one [t]⟩ s
    let final := (allOn sys source dryRun c s).2.disk
    ∃ rs, (allOn sys source dryRun c s).1 = .ok rs ∧
      List.Forall₂ (fun t r => r.path = t.1 ∧ r.indexName = t.2.indexName ∧
        ∀ reason, fetched t.2 = .error reason → r.isOk = false ∧ r.written = false)
        c.targets rs ∧
      (∀ before t rest reason, c.targets = before ++ t :: rest → fetched t.2 = .error reason →
        (targets sys source ⟨c.overwrite, dryRun⟩ (before ++ [t]) s).2.disk =
          (targets sys source ⟨c.overwrite, dryRun⟩ before s).2.disk) ∧
      (s.disk.Separate (c.targets.map Prod.fst) →
        List.Forall₂ (fun t r => ∃ r₀, (alone t).1 = .ok [r₀] ∧ r.Agrees r₀) c.targets rs ∧
        (∀ t ∈ c.targets, final.item? (s.disk.place (.ofText t.1)) =
          (alone t).2.disk.item? (s.disk.place (.ofText t.1))) ∧
        ∀ c' : Config, c'.overwrite = c.overwrite → c'.targets.Perm c.targets →
          ∀ q, (allOn sys source dryRun c' s).2.disk.item? q = final.item? q) := by
  intro alone final
  obtain ⟨rs, hrs, hran⟩ := ran_all hsource dryRun c hnull hsys s
  refine ⟨rs, hrs, ?_, ?_, fun hseparate => ?_⟩
  · refine (List.forall₂_map_left_iff.mp hran.failed).imp fun t r h => ⟨h.1, h.2.1, ?_⟩
    exact fun reason hreason => h.2.2 reason (sourced_steadyJob hreason)
  · intro before t rest reason hsplit hreason
    have hbefore : ∀ t' ∈ before, t' ∈ c.targets := fun t' ht' => by
      rw [hsplit]
      exact List.mem_append_left _ ht'
    exact disk_failed hsource hreason (fun t' ht' => hnull t' (hbefore t' ht'))
      (fun t' ht' => hsys t' (hbefore t' ht')) s
  · have hjs : AllApart s.disk (c.targets.map fun t => (steadyJob fetched t : Job ε)) :=
      allApart_steady fetched hseparate hnull
    refine ⟨?_, ?_, ?_⟩
    · refine (List.forall₂_map_left_iff.mp (hran.joined htree hjs).1).imp ?_
      rintro t r ⟨r₀, hr₀, hagrees⟩
      exact ⟨r₀, (allOn_one hsource hr₀).1, hagrees⟩
    · intro t ht
      obtain ⟨r₀, hr₀⟩ :=
        (returns_steadyJob ⟨c.overwrite, dryRun⟩ (hnull t ht) (hsys t ht)).result s.disk
      have hitem := hran.item_alone htree hjs (List.mem_map_of_mem ht)
      rw [pathname_steadyJob, ← (allOn_one hsource hr₀).2] at hitem
      exact hitem
    · intro c' hoverwrite hperm q
      have hperm' := hperm.map fun t => (steadyJob fetched t : Job ε)
      obtain ⟨rs', -, hran'⟩ := ran_all hsource dryRun c'
        (fun t ht => hnull t (hperm.subset ht)) (fun t ht => hsys t (hperm.subset ht)) s
      rw [hoverwrite] at hran'
      refine (hran'.joined htree (hjs.perm hperm')).2.unique (hran.joined htree hjs).2 ?_ q
      intro e
      exact (hperm'.map _).mem_iff

/-- a file that is there, a source that fails, and a directory for two output files -/
theorem all_isolated_three :
    let g : String → Generator := fun name =>
      { appId := "app", searchKey := "key", indexName := name }
    let fetched : Generator → Except String (List Record) := fun g =>
      if g.indexName = "gone" then .error "no index" else .ok [[("k", .int 1)]]
    let source : Source Unit := fun g s => (.ofFetched (fetched g), [], s)
    let c : Config :=
      ⟨false, .one [("a/y.ts", g "books"), ("b/x.ts", g "gone"), ("b/z.ts", g "books")]⟩
    let s : State Unit :=
      { disk := { items := [(⟨["a"]⟩, .directory), (⟨["a", "y.ts"]⟩, .file [1])] }, source := () }
    source.Steady fetched ∧ s.disk.IsTree ∧
      (∀ t ∈ c.targets, (Pathname.ofText t.1).hasNull = false) ∧
      (∀ t ∈ c.targets, ∀ rs, fetched t.2 = .ok rs → ({} : System Empty).Handles t.2 rs) ∧
      s.disk.Separate (c.targets.map Prod.fst) ∧
      ∃ rs, (allOn {} source false c s).1 = .ok rs ∧
        List.Forall₂ (fun t r => ∃ r₀,
          (allOn {} source false ⟨false, .one [t]⟩ s).1 = .ok [r₀] ∧ r.Agrees r₀) c.targets rs := by
  intro g fetched source c s
  have hsource : source.Steady fetched := fun _ _ => rfl
  have htree : s.disk.IsTree := Disk.isTree_of_items rfl (by decide +kernel)
  have hnull : ∀ t ∈ c.targets, (Pathname.ofText t.1).hasNull = false := by decide +kernel
  have hseparate : s.disk.Separate (c.targets.map Prod.fst) := by
    refine ⟨by decide +kernel, ?_⟩
    simp only [Disk.Overlap]
    decide +kernel
  have hsys : ∀ t ∈ c.targets, ∀ rs, fetched t.2 = .ok rs →
      ({} : System Empty).Handles t.2 rs := fun _ _ _ _ => ⟨rfl, rfl⟩
  obtain ⟨rs, hrs, -, -, hapart⟩ := all_isolated {} hsource false c s htree hnull hsys
  exact ⟨hsource, htree, hnull, hsys, hseparate, rs, hrs, (hapart hseparate).1⟩

/-! ## which name is quoted -/

theorem toList_quoted {s : String} {cs : List Char} (h : s.toList = cs) :
    (Text.quoted s).toList = Text.quoteMark cs ::
      cs.flatMap (Text.quotedChar (Text.quoteMark cs)) ++ [Text.quoteMark cs] := by
  rw [Text.quoted, String.toList_ofList, h]

theorem message_inj {r : Refusal} {p q : Pathname}
    (h : Failure.message ⟨r, p⟩ = Failure.message ⟨r, q⟩) :
    Text.quoted p.text = Text.quoted q.text :=
  (String.append_right_inj ("[Errno " ++ toString r.code ++ "] " ++ r.message ++ ": ")).mp h

theorem notWritten_inj {path : String} {f f' : Failure}
    (h : notWritten path f = notWritten path f') : f.message = f'.message :=
  (String.append_right_inj ("Failed to write " ++ path ++ ": ")).mp h

section
variable {long : String} (hlong : long.toList = List.replicate 256 'n')
include hlong

theorem ne_long (t : String) (ht : t.toList.length < 256) : (long == t) = false := by
  refine beq_eq_false_iff_ne.mpr fun e => ?_
  rw [← e, hlong, List.length_replicate] at ht
  omega

theorem ofText_below_long :
    Pathname.ofText ("a/" ++ long ++ "/x.ts") = ⟨0, ["a", long, "x.ts"]⟩ := by
  have hsplit : Text.splitAt '/' ("a/" ++ long ++ "/x.ts").toList =
      ["a".toList, List.replicate 256 'n', "x.ts".toList] := by
    rw [String.toList_append, String.toList_append, hlong]
    decide +kernel
  have hidle : Pathname.isIdle long = false := by
    rw [Pathname.isIdle, ne_long hlong "" (by decide), ne_long hlong "." (by decide)]
    rfl
  have hothers : Pathname.isIdle "a" = false ∧ Pathname.isIdle "x.ts" = false := by decide
  rw [Pathname.ofText, Pathname.verbatim, hsplit, ← hlong]
  simp [Pathname.leadingSlashes, hidle, hothers]

theorem usable_below_long (hsize : long.utf8ByteSize = 256) :
    Disk.IsUsable ⟨0, ["a", long, "x.ts"]⟩ := by
  refine ⟨?_, ?_⟩
  · simp only [Pathname.hasNull, List.any_cons, hlong]
    decide +kernel
  · have htext : (Pathname.mk 0 ["a", long, "x.ts"]).text = "a/" ++ (long ++ "/x.ts") := by
      simp [Pathname.text, String.intercalate_cons_cons, String.append_assoc]
    rw [htext, String.utf8ByteSize_append, String.utf8ByteSize_append, hsize]
    decide

theorem quoted_below_long {ts : List String} (hts : ts <+: ["a", long]) :
    Text.quoted (Pathname.mk 0 ["a", long, "x.ts"]).text ≠
      Text.quoted (Pathname.mk 0 ts).text := by
  have hcases : ts = [] ∨ ts = ["a"] ∨ ts = ["a", long] := by
    rw [List.prefix_cons_iff] at hts
    rcases hts with rfl | ⟨us, rfl, hus⟩
    · exact .inl rfl
    · rw [List.prefix_cons_iff] at hus
      rcases hus with rfl | ⟨vs, rfl, hvs⟩
      · exact .inr (.inl rfl)
      · exact .inr (.inr (List.prefix_nil.mp hvs ▸ rfl))
  have htext : (Pathname.mk 0 ["a", long, "x.ts"]).text.toList =
      "a/".toList ++ (List.replicate 256 'n' ++ "/x.ts".toList) := by
    rw [← hlong, Pathname.text]
    simp [String.intercalate_cons_cons]
  have habove : (Pathname.mk 0 ["a", long]).text.toList =
      "a/".toList ++ List.replicate 256 'n' := by
    rw [← hlong, Pathname.text]
    simp [String.intercalate_cons_cons]
  intro e
  have hlists := congrArg String.toList e
  rw [toList_quoted htext] at hlists
  revert hlists
  rcases hcases with rfl | rfl | rfl
  · decide +kernel
  · decide +kernel
  · rw [toList_quoted habove]
    decide +kernel

end

section
variable {long : String} (hlong : long.toList = List.replicate 256 'n')
  (hsize : long.utf8ByteSize = 256)
include hlong hsize

theorem locate_below_long {d : Disk} (hhere : d.here = .root) :
    d.locate ⟨0, ["a", long, "x.ts"]⟩ = d.walk ⟨["a"]⟩ [long, "x.ts"] := by
  have hstart : d.start ⟨0, ["a", long, "x.ts"]⟩ = .root := hhere
  have hstep : Place.root.step "a" = ⟨["a"]⟩ := by decide
  rw [Disk.locate_of_usable (usable_below_long hlong hsize), hstart, Disk.walk_cons, d.item?_root]
  simp only [hstep]
  exact if_neg (by decide)

theorem save_below_long (content : String) : ∃ ts, ts <+: ["a", long] ∧
    (({} : Disk).save ⟨0, ["a", long, "x.ts"]⟩ content ⟨true, false⟩).result =
      .error ⟨.nameTooLong, ⟨0, ts⟩⟩ := by
  have hu := usable_below_long hlong hsize
  have hshort : Disk.isShort long = false := Disk.isShort_eq_false_iff.mpr (by rw [hsize]; decide)
  have hplain : Pathname.isPlain ⟨0, ["a", long, "x.ts"]⟩ = true := by
    have hdown : Pathname.isDown long = true := by
      rw [Pathname.isDown, Pathname.isIdle, ne_long hlong "" (by decide),
        ne_long hlong "." (by decide), bne, ne_long hlong ".." (by decide)]
      rfl
    rw [Pathname.isPlain, List.all_cons, List.all_cons, hdown]
    decide
  have hnone : ∀ q : Place, q ≠ .root → ({} : Disk).item? q = none := by
    intro q hq
    rw [Disk.item?, if_neg hq]
    rfl
  have hopen : ({} : Disk).IsOpen ⟨0, ["a", long, "x.ts"]⟩ := by
    intro ts _ _ bs
    by_cases hroot : (({} : Disk).start ⟨0, ["a", long, "x.ts"]⟩).below ts = .root
    · rw [hroot, Disk.item?_root]
      simp
    · rw [hnone _ hroot]
      simp
  have hlanded := Disk.save_open (Disk.isTree_of_items rfl (by simp)) hplain hu hopen content true
  obtain ⟨ts, hresult, hts⟩ := hlanded.refused (by simp [hshort])
  rw [if_neg] at hts
  · exact ⟨ts, hts, hresult⟩
  · have hlocate : ({} : Disk).locate ⟨0, ["a", long, "x.ts"]⟩ = .error .notFound := by
      rw [locate_below_long hlong hsize rfl, Disk.walk_cons, hnone _ (by decide)]
    simp [hlocate, hshort]

end

theorem all_quotes_other_name :
    let g : Generator := { appId := "app", searchKey := "key", indexName := "books" }
    let source : Source Unit := fun _ s => (.samples [[("k", .int 1)]], [], s)
    let near : String × Generator := ("a/y.ts", g)
    let far : String × Generator :=
      ("a/" ++ String.ofList (List.replicate 256 'n') ++ "/x.ts", g)
    let s : State Unit := { disk := {}, source := () }
    s.disk.Separate [near.1, far.1] ∧
      ∃ r₁ r₂ r, (all source false ⟨true, .one [near, far]⟩ s).1 = .ok [r₁, r₂] ∧
        (all source false ⟨true, .one [far]⟩ s).1 = .ok [r] ∧ r₂.error ≠ r.error := by
  have hlong : (String.ofList (List.replicate 256 'n')).toList = List.replicate 256 'n' :=
    String.toList_ofList
  have hsize : (String.ofList (List.replicate 256 'n')).utf8ByteSize = 256 := by decide +kernel
  generalize String.ofList (List.replicate 256 'n') = long at *
  intro g source near far s
  have hfar : Pathname.ofText far.1 = ⟨0, ["a", long, "x.ts"]⟩ := ofText_below_long hlong
  have hnear : Pathname.ofText near.1 = ⟨0, ["a", "y.ts"]⟩ := by decide
  let first : Job := ⟨near.1, g, .samples [[("k", .int 1)]]⟩
  let second : Job := ⟨far.1, g, .samples [[("k", .int 1)]]⟩
  let policy : Disk.Policy := ⟨true, false⟩
  obtain ⟨r₁, h₁⟩ : ∃ r₁, first.result {} policy s.disk = .ok r₁ := by
    refine Job.Returns.result ⟨by simp [first], .inr ?_, fun _ _ => ⟨rfl, rfl⟩⟩ s.disk
    show (Pathname.ofText near.1).hasNull = false
    rw [hnear]
    decide
  have hlocate : (first.after {} policy s.disk).locate (.ofText far.1) = .error .nameTooLong := by
    have hdir : (first.after {} policy s.disk).item? ⟨["a"]⟩ = some .directory := by decide +kernel
    rw [hfar, locate_below_long hlong hsize (by decide +kernel), Disk.walk_cons, hdir]
    exact if_pos (by rw [hsize]; decide)
  obtain ⟨r₂, h₂, herror₂⟩ : ∃ r₂, second.result {} policy (first.after {} policy s.disk) = .ok r₂ ∧
      r₂.error = some (notWritten far.1 ⟨.nameTooLong, .ofText far.1⟩) :=
    ⟨_, Job.result_refused rfl rfl
      (congrArg Disk.Saved.result (Disk.save_status_error (Disk.status_long hlocate) _ _))
      (by simp), rfl⟩
  obtain ⟨ts, hts, hsaved⟩ := save_below_long hlong hsize (second.text [[("k", .int 1)]])
  rw [← hfar] at hsaved
  obtain ⟨r, h₀, herror₀⟩ : ∃ r, second.result {} policy s.disk = .ok r ∧
      r.error = some (notWritten far.1 ⟨.nameTooLong, ⟨0, ts⟩⟩) :=
    ⟨_, Job.result_refused rfl rfl hsaved (by simp), rfl⟩
  have hboth : Ran {} policy (jobs source [near, far] s.source) s.disk _ _ :=
    .cons h₁ (.cons h₂ (.nil _))
  have halone : Ran {} policy (jobs source [far] s.source) s.disk _ _ := .one h₀
  refine ⟨⟨?_, ?_⟩, r₁, r₂, r, (targets_of_ran {} source policy hboth).1,
    (targets_of_ran {} source policy halone).1, fun e => ?_⟩
  · have hup := ne_long hlong ".." (by decide)
    rw [List.forall_mem_cons, List.forall_mem_singleton, hnear, hfar]
    simp [eq_comm, beq_eq_false_iff_ne.mp hup]
  · have hlast : "y.ts" ≠ long := (beq_eq_false_iff_ne.mp (ne_long hlong "y.ts" (by decide))).symm
    have hplaces : s.disk.place ⟨0, ["a", "y.ts"]⟩ = ⟨["a", "y.ts"]⟩ ∧
        s.disk.place ⟨0, ["a", long, "x.ts"]⟩ = ⟨["a", long, "x.ts"]⟩ := ⟨rfl, rfl⟩
    rw [List.pairwise_pair, Disk.Overlap, hnear, hfar, hplaces.1, hplaces.2]
    simp [hlast, hlast.symm]
  · rw [herror₂, herror₀, hfar] at e
    exact quoted_below_long hlong hts (message_inj (notWritten_inj (Option.some.inj e)))

end Run

end SampleTypes
