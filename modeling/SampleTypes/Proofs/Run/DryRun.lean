import SampleTypes.Proofs.Run.Isolated

/-!
# What a dry run says about a run

A dry run asks the disk only whether something stands where a text is to go.  What it refuses, the
run refuses too.  What it would write, the run writes if the way is clear: no file on it, no name
that is too long, and no directory at its end.

* `IsClear`               a pathname with a clear way;
* `save_of_not_written`   a refusal holds on every later disk;
* `save_of_written`       what would be written is written exactly if the way is clear;
* `targets_dry`           a dry run leaves the disk alone;
* `exists_ran_of_dry`     what a dry run comes through returns in a run;
* `dry_run_all`           the main statement.
-/

namespace SampleTypes

namespace Disk

variable {d d' : Disk} {p : Pathname} {content : String} {overwrite : Bool}

/-- no file on the way, no name that is too long, and no directory at the end -/
structure IsClear (d : Disk) (p : Pathname) : Prop where
  way : d.IsOpen p
  short : p.steps.all isShort = true
  end_ne : d.item? (d.place p) ≠ some .directory

/-- what a dry run comes to is said by the status of the pathname -/
theorem save_dryRun (d : Disk) (p : Pathname) (content : String) (overwrite : Bool) :
    (d.save p content ⟨overwrite, true⟩).result = match d.status p with
      | .error r => .error ⟨r, p⟩
      | .ok item => .ok (!(item.isSome && !overwrite)) := by
  rw [save]
  cases d.status p with
  | error r => rfl
  | ok item =>
    cases h : item.isSome && !overwrite <;> simp [h]

/-- what a dry run does not write, no run writes later -/
theorem save_of_not_written (hgrows : Grows d d')
    (h : (d.save p content ⟨overwrite, true⟩).result ≠ .ok true) :
    (d'.save p content ⟨overwrite, false⟩).result =
      (d.save p content ⟨overwrite, true⟩).result := by
  rw [save_dryRun] at h ⊢
  cases hl : d.locate p with
  | error r =>
    by_cases hr : r = .nameTooLong
    · subst hr
      have hl' := (locate_of_grows hgrows (by simp [hl])).trans hl
      rw [status_long hl, save_status_error (status_long hl')]
    · rw [status_missing hl hr] at h
      simp at h
  | ok q =>
    have hl' := (locate_of_grows hgrows (by simp [hl])).trans hl
    rw [status_found hl] at h ⊢
    cases hi : d.item? q with
    | none => simp [hi] at h
    | some i =>
      obtain ⟨i', hi', -⟩ := hgrows.some_iff hi
      have hkeep : overwrite = false := by simpa [hi] using h
      rw [save, status_found hl', hi', hkeep]
      rfl

/-- what a dry run would write, a run on the same disk writes if the way is clear, and refuses
otherwise -/
theorem save_of_written (ht : d.IsTree) (hplain : p.isPlain = true) (hnull : p.hasNull = false)
    (h : (d.save p content ⟨overwrite, true⟩).result = .ok true) :
    (d.IsClear p → (d.save p content ⟨overwrite, false⟩).result = .ok true) ∧
      (¬ d.IsClear p → ∃ f, (d.save p content ⟨overwrite, false⟩).result = .error f) := by
  rw [save_dryRun] at h
  rcases ht.locate_cases hplain hnull with hlong | ⟨hu, hblocked⟩ | ⟨hu, hopen⟩
  · rw [status_long hlong] at h
    simp at h
  · rw [save_blocked hu hblocked]
    exact ⟨fun hclear => absurd hclear.way (not_isOpen_of_blocked hplain hu hblocked),
      fun _ => ⟨_, rfl⟩⟩
  · have hlanded := save_open ht hplain hu hopen content overwrite
    cases hall : p.steps.all isShort with
    | false =>
      obtain ⟨ts, hresult, -⟩ := hlanded.refused hall
      exact ⟨fun hclear => absurd hclear.short (by simp [hall]), fun _ => ⟨_, hresult⟩⟩
    | true =>
      have hresult := hlanded.result hall
      rcases hopen.status ht hplain hu with ⟨-, hnot, -⟩ | ⟨hstatus, -⟩
      · exact absurd hall (by simp [hnot])
      rw [hstatus] at h
      rcases hi : d.item? (d.place p) with _ | _ | bs
      · rw [hi] at hresult
        exact ⟨fun _ => hresult, fun hno => absurd ⟨hopen, hall, by simp [hi]⟩ hno⟩
      · obtain rfl : overwrite = true := by simpa [hi] using h
        rw [hi] at hresult
        exact ⟨fun hclear => absurd hi hclear.end_ne, fun _ => ⟨_, hresult⟩⟩
      · obtain rfl : overwrite = true := by simpa [hi] using h
        rw [hi] at hresult
        exact ⟨fun _ => hresult, fun hno => absurd ⟨hopen, hall, by simp [hi]⟩ hno⟩

end Disk

namespace Run

variable {ε : Type} {sys : System ε} {overwrite : Bool} {d d' : Disk} {j : Job ε}
  {js : List (Job ε)} {dry real : TargetResult}

/-- the number of samples of an output file -/
def Job.count (j : Job ε) : Nat :=
  match j.sourced with
  | .samples rs => rs.length
  | _ => 0

theorem Job.result_fields {policy : Disk.Policy} {r : TargetResult}
    (h : j.result sys policy d = .ok r) :
    r.path = j.path ∧ r.indexName = j.generator.indexName ∧ r.sampleCount = j.count := by
  rcases Job.result_cases h with ⟨reason, hfailed, rfl⟩ |
    ⟨samples, hsamples, -, ⟨written, -, rfl⟩ | ⟨f, -, -, rfl⟩⟩
  · exact ⟨rfl, rfl, by rw [Job.count, hfailed]; rfl⟩
  · exact ⟨rfl, rfl, by rw [Job.count, hsamples]; rfl⟩
  · exact ⟨rfl, rfl, by rw [Job.count, hsamples]; rfl⟩

/-- a job that a dry run does not write comes to the same on every later disk -/
theorem Job.result_of_not_written (hgrows : Disk.Grows d d')
    (hdry : j.result sys ⟨overwrite, true⟩ d = .ok dry) (hw : dry.written = false) :
    j.result sys ⟨overwrite, false⟩ d' = .ok dry := by
  rcases Job.result_cases hdry with ⟨reason, hfailed, rfl⟩ | ⟨samples, hsamples, hdeep, hsaved⟩
  · exact Job.result_failed sys hfailed _ d'
  · have hsame (hnot : (j.saved sys ⟨overwrite, true⟩ d samples).result ≠ .ok true) :
        (j.saved sys ⟨overwrite, false⟩ d' samples).result =
          (j.saved sys ⟨overwrite, true⟩ d samples).result :=
      Disk.save_of_not_written hgrows hnot
    rcases hsaved with ⟨written, ⟨hs, htext⟩, rfl⟩ | ⟨f, hs, hf, rfl⟩
    · obtain rfl : written = false := hw
      exact Job.result_saved hsamples hdeep htext ((hsame (by simp [hs])).trans hs)
    · exact Job.result_refused hsamples hdeep ((hsame (by simp [hs])).trans hs) hf

/-- one that it would write returns on every disk, since its text was seen to have an encoding -/
theorem Job.result_of_dry (hgrows : Disk.Grows d d')
    (hdry : j.result sys ⟨overwrite, true⟩ d = .ok dry) (hnull : j.pathname.hasNull = false) :
    ∃ real, j.result sys ⟨overwrite, false⟩ d' = .ok real := by
  cases hw : dry.written with
  | false => exact ⟨dry, Job.result_of_not_written hgrows hdry hw⟩
  | true =>
    obtain ⟨samples, hsamples, hdeep, -, htext⟩ := Job.result_written hdry hw
    refine Job.Returns.result ⟨by simp [hsamples], .inr hnull, fun rs hrs => ?_⟩ d'
    obtain rfl : samples = rs := Sourced.samples.inj (hsamples.symm.trans hrs)
    exact ⟨hdeep, htext rfl⟩

theorem Job.result_of_written (ht : d.IsTree) (hplain : j.pathname.isPlain = true)
    (hnull : j.pathname.hasNull = false) (hdry : j.result sys ⟨overwrite, true⟩ d = .ok dry)
    (hreal : j.result sys ⟨overwrite, false⟩ d = .ok real) (hw : dry.written = true) :
    (d.IsClear j.pathname → real = dry) ∧
      (¬ d.IsClear j.pathname → real.isOk = false ∧ real.written = false) := by
  obtain ⟨samples, hsamples, hdeep, hsaved, htext⟩ := Job.result_written hdry hw
  obtain ⟨hclear, hblocked⟩ := Disk.save_of_written ht hplain hnull hsaved
  refine ⟨fun h => ?_, fun h => ?_⟩
  · have hreal' := Job.result_saved hsamples hdeep htext (hclear h)
    have hdry' := Job.result_saved hsamples hdeep htext hsaved
    rw [Except.ok.inj (hreal.symm.trans hreal'), Except.ok.inj (hdry.symm.trans hdry')]
  · obtain ⟨f, hf⟩ := hblocked h
    have hf' : f.refusal ≠ .nullCharacter := Disk.save_ne_null hnull hf
    rw [Except.ok.inj (hreal.symm.trans (Job.result_refused hsamples hdeep hf hf'))]
    exact ⟨rfl, rfl⟩

/-! ## two runs -/

/-- two lists that keep pace with a third keep pace with each other -/
theorem forall₂_of_forall₂ {α β γ : Type} {R : α → β → Prop} {S : α → γ → Prop}
    {T : β → γ → Prop} {as : List α} {bs : List β} {cs : List γ} (h : List.Forall₂ R as bs)
    (h' : List.Forall₂ S as cs) (hT : ∀ a ∈ as, ∀ b c, R a b → S a c → T b c) :
    List.Forall₂ T bs cs := by
  induction h generalizing cs with
  | nil =>
    cases h'
    exact .nil
  | cons hR _ ih =>
    rcases h' with _ | ⟨hS, hSs⟩
    refine .cons (hT _ List.mem_cons_self _ _ hR hS) (ih hSs fun a ha => ?_)
    exact hT a (List.mem_cons_of_mem _ ha)

/-- each result of a run is that of its job on some later disk -/
theorem Ran.results {policy : Disk.Policy} {rs : List TargetResult} {d₀ : Disk}
    (h : Ran sys policy js d rs d') (hgrows : Disk.Grows d₀ d) :
    List.Forall₂ (fun j r => ∃ e, Disk.Grows d₀ e ∧ j.result sys policy e = .ok r) js rs := by
  induction h with
  | nil d => exact .nil
  | cons head _ ih =>
    exact .cons ⟨_, hgrows, head⟩ (ih (hgrows.trans (Job.after_grows ..)))

/-- jobs that a dry run comes through return in a run that writes -/
theorem exists_ran_of_dry {rs : List TargetResult} {d₀ : Disk}
    (h : List.Forall₂ (fun j r => j.result sys ⟨overwrite, true⟩ d₀ = .ok r) js rs)
    (hnull : ∀ j ∈ js, j.pathname.hasNull = false) (hgrows : Disk.Grows d₀ d) :
    ∃ rs' d', Ran sys ⟨overwrite, false⟩ js d rs' d' := by
  induction h generalizing d with
  | nil => exact ⟨[], d, .nil d⟩
  | @cons j r js rs hdry _ ih =>
    obtain ⟨hj, hjs⟩ := List.forall_mem_cons.mp hnull
    obtain ⟨r', hr'⟩ := Job.result_of_dry hgrows hdry hj
    obtain ⟨rs', d', hran⟩ := ih hjs (hgrows.trans (j.after_grows sys ⟨overwrite, false⟩ d))
    exact ⟨r' :: rs', d', .cons hr' hran⟩

/-- a dry run leaves the disk alone, wherever it ends -/
theorem targets_dry {σ : Type} (sys : System ε) (source : Source σ ε) (overwrite : Bool)
    (ts : Targets) (s : State σ) :
    (targets sys source ⟨overwrite, true⟩ ts s).2.disk = s.disk := by
  induction ts generalizing s with
  | nil => rfl
  | cons t ts ih =>
    obtain ⟨path, g⟩ := t
    obtain ⟨-, hdisk, -⟩ := target_eq sys source ⟨overwrite, true⟩ path g s
    rw [Job.after_dry] at hdisk
    rcases ht : target sys source ⟨overwrite, true⟩ path g s with ⟨r | r, s₁⟩ <;> rw [ht] at hdisk
    · rw [targets_cons_error sys source _ ht]
      exact hdisk
    · rw [targets_cons_ok sys source _ ht]
      exact (ih s₁).trans hdisk

theorem eq_of_agrees {r r₀ : TargetResult} (h : r.Agrees r₀) (hok : r₀.written = true) :
    r = r₀ := by
  rcases h with rfl | ⟨-, hw, -⟩
  · rfl
  · simp [hok] at hw

theorem not_ok_of_agrees {r r₀ : TargetResult} (h : r.Agrees r₀) (hr₀ : r₀.isOk = false)
    (hw : r₀.written = false) : r.isOk = false ∧ r.written = false := by
  rcases h with rfl | ⟨-, -, ts, ts₀, -, -, -, rfl⟩
  · exact ⟨hr₀, hw⟩
  · exact ⟨rfl, hw⟩

/-- A dry run leaves the disk alone, and comes to its end where the system handles the samples.
Then so does the run, with the same number of samples for each output file, and the same result for
one that the dry run would not write.  One that it would write, if the pathnames keep apart, is
written if its way is clear, and fails otherwise. -/
theorem dry_run_all {σ : Type} (sys : System ε) (source : Source σ ε) (c : Config) (s : State σ) :
    (allOn sys source true c s).2.disk = s.disk ∧
    ((∀ t ∈ c.targets, ∀ u stop, (source t.2 u).1 ≠ .broken stop) →
      (∀ t ∈ c.targets, ∀ u rs, (source t.2 u).1 = .samples rs → sys.Handles t.2 rs) →
      ∃ dry, (allOn sys source true c s).1 = .ok dry) ∧
    ∀ dry, (allOn sys source true c s).1 = .ok dry →
      ((∀ t ∈ c.targets, (Pathname.ofText t.1).hasNull = false) →
        ∃ real, (allOn sys source false c s).1 = .ok real) ∧
      ∀ real, (allOn sys source false c s).1 = .ok real →
        List.Forall₂ (fun d r => r.path = d.path ∧ r.indexName = d.indexName ∧
          r.sampleCount = d.sampleCount ∧ (d.written = false → r = d)) dry real ∧
        (s.disk.IsTree → s.disk.Separate (c.targets.map Prod.fst) →
          (∀ t ∈ c.targets, (Pathname.ofText t.1).hasNull = false) →
          List.Forall₂ (fun d r => d.written = true →
            (s.disk.IsClear (.ofText d.path) → r = d) ∧
            (¬ s.disk.IsClear (.ofText d.path) → r.isOk = false ∧ r.written = false))
            dry real) := by
  let js := jobs source c.targets s.source
  have hpaths : js.map Job.path = c.targets.map Prod.fst := by
    rw [← map_jobs source c.targets s.source, List.map_map]
    rfl
  have hnulls : (∀ t ∈ c.targets, (Pathname.ofText t.1).hasNull = false) →
      ∀ j ∈ js, j.pathname.hasNull = false := fun hnull j hj =>
    hnull (j.path, j.generator) (mem_of_jobs hj)
  refine ⟨targets_dry .., fun hsource hsys => ?_, fun dry hdry => ?_⟩
  · have hreturns : ∀ j ∈ js, j.Returns sys ⟨c.overwrite, true⟩ := by
      intro j hj
      obtain ⟨u, hu⟩ := sourced_of_jobs hj
      exact ⟨fun stop => hu ▸ hsource _ (mem_of_jobs hj) u stop, .inl rfl,
        fun rs hrs => hsys _ (mem_of_jobs hj) u rs (hu ▸ hrs)⟩
    obtain ⟨dry, d', hran⟩ := exists_ran hreturns s.disk
    exact ⟨dry, (targets_of_ran sys source ⟨c.overwrite, true⟩ hran).1⟩
  obtain ⟨-, hresults⟩ := (ran_of_targets sys source _ hdry).dry
  refine ⟨fun hnull => ?_, fun real hreal => ⟨?_, fun htree hseparate hnull => ?_⟩⟩
  · obtain ⟨real, d', hreal⟩ :=
      exists_ran_of_dry hresults (hnulls hnull) (Disk.Grows.refl s.disk)
    exact ⟨real, (targets_of_ran sys source ⟨c.overwrite, false⟩ hreal).1⟩
  · have hreal := (ran_of_targets sys source _ hreal).results (Disk.Grows.refl s.disk)
    refine forall₂_of_forall₂ hresults hreal fun j _ dr r hd hr => ?_
    obtain ⟨e, hgrows, hr⟩ := hr
    obtain ⟨hpath, hname, hcount⟩ := Job.result_fields hr
    obtain ⟨hpath', hname', hcount'⟩ := Job.result_fields hd
    refine ⟨hpath.trans hpath'.symm, hname.trans hname'.symm, hcount.trans hcount'.symm, ?_⟩
    exact fun hw => Except.ok.inj (hr.symm.trans (Job.result_of_not_written hgrows hd hw))
  · have hapart := allApart_of_separate (hpaths ▸ hseparate) (hnulls hnull)
    have hreal := ((ran_of_targets sys source _ hreal).joined htree hapart).1
    refine forall₂_of_forall₂ hresults hreal fun j hj dr r hd hr hw => ?_
    obtain ⟨r₀, hr₀, hagrees⟩ := hr
    obtain ⟨hclear, hnot⟩ :=
      Job.result_of_written htree (hapart.plain j hj) (hapart.sound j hj) hd hr₀ hw
    rw [(Job.result_fields hd).1]
    refine ⟨fun h => ?_, fun h => ?_⟩
    · have hsame := hclear h
      exact (eq_of_agrees hagrees (hsame ▸ hw)).trans hsame
    · obtain ⟨hok, hwritten⟩ := hnot h
      exact not_ok_of_agrees hagrees hok hwritten

/-- a file to be written, and a directory where another is to go -/
theorem dry_run_all_two :
    let g : Generator := { appId := "app", searchKey := "key", indexName := "books" }
    let source : Source Unit := fun _ s => (.samples [[]], [], s)
    let c : Config := ⟨true, .one [("x.ts", g), ("a", g)]⟩
    let s : State Unit := { disk := { items := [(⟨["a"]⟩, .directory)] }, source := () }
    let sys : System Empty := {}
    ∃ dry real, (allOn sys source true c s).1 = .ok dry ∧
      (allOn sys source true c s).2.disk = s.disk ∧ (allOn sys source false c s).1 = .ok real ∧
      List.Forall₂ (fun d r => d.written = true →
        (s.disk.IsClear (.ofText d.path) → r = d) ∧
        (¬ s.disk.IsClear (.ofText d.path) → r.isOk = false ∧ r.written = false)) dry real ∧
      s.disk.IsClear (.ofText "x.ts") ∧ ¬ s.disk.IsClear (.ofText "a") := by
  intro g source c s sys
  have hsource : ∀ t ∈ c.targets, ∀ u stop, (source t.2 u).1 ≠ .broken stop :=
    fun _ _ _ _ => by simp [source]
  have htree : s.disk.IsTree := Disk.isTree_of_items rfl (by decide +kernel)
  have hnull : ∀ t ∈ c.targets, (Pathname.ofText t.1).hasNull = false := by decide +kernel
  have hseparate : s.disk.Separate (c.targets.map Prod.fst) := by
    refine ⟨by decide +kernel, ?_⟩
    simp only [Disk.Overlap]
    decide +kernel
  have hopen : s.disk.IsOpen (.ofText "x.ts") := by
    intro ts hts hne bs
    have hnil : ts = [] := List.prefix_nil.mp (Disk.prefix_dropLast hts hne)
    rw [hnil, Place.below_nil, htree.start]
    simp
  obtain ⟨hdisk, hends, hall⟩ := dry_run_all sys source c s
  obtain ⟨dry, hdry⟩ := hends hsource fun _ _ _ _ _ => ⟨rfl, rfl⟩
  obtain ⟨hreturns, hpairs⟩ := hall dry hdry
  obtain ⟨real, hreal⟩ := hreturns hnull
  refine ⟨dry, real, hdry, hdisk, hreal, (hpairs real hreal).2 htree hseparate hnull,
    ⟨hopen, by decide +kernel, by decide +kernel⟩, fun h => h.end_ne (by decide +kernel)⟩

/-- a dry run does not see that a directory stands where the text is to go -/
theorem dry_run_directory :
    let g : Generator := { appId := "app", searchKey := "key", indexName := "books" }
    let source : Source Unit := fun _ s => (.samples [[]], [], s)
    let c : Config := ⟨true, .one [("out.ts", g)]⟩
    let s : State Unit := { disk := { items := [(⟨["out.ts"]⟩, .directory)] }, source := () }
    ∃ dry real, (all source true c s).1 = .ok [dry] ∧ (all source false c s).1 = .ok [real] ∧
      dry.isOk = true ∧ dry.written = true ∧ real.isOk = false ∧ real.written = false := by
  intro g source c s
  let job : Job := ⟨"out.ts", g, .samples [[]]⟩
  have hdry : ∀ text, (s.disk.save (.ofText "out.ts") text ⟨true, true⟩).result = .ok true :=
    fun _ => rfl
  have hreal : ∀ text, (s.disk.save (.ofText "out.ts") text ⟨true, false⟩).result =
      .error ⟨.isDirectory, .ofText "out.ts"⟩ := fun _ => rfl
  obtain ⟨dry, hd, hd'⟩ : ∃ r, job.result {} ⟨true, true⟩ s.disk = .ok r ∧ r.isOk = true ∧
      r.written = true :=
    ⟨_, Job.result_saved rfl rfl (fun _ => rfl) (hdry _), rfl, rfl⟩
  obtain ⟨real, hr, hr'⟩ : ∃ r, job.result {} ⟨true, false⟩ s.disk = .ok r ∧ r.isOk = false ∧
      r.written = false :=
    ⟨_, Job.result_refused rfl rfl (hreal _) (by simp), rfl, rfl⟩
  have hdryRun : Ran {} ⟨true, true⟩ (jobs source c.targets s.source) s.disk _ _ := .one hd
  have hrealRun : Ran {} ⟨true, false⟩ (jobs source c.targets s.source) s.disk _ _ := .one hr
  exact ⟨dry, real, (targets_of_ran {} source _ hdryRun).1, (targets_of_ran {} source _ hrealRun).1,
    hd'.1, hd'.2, hr'.1, hr'.2⟩

end Run

end SampleTypes
