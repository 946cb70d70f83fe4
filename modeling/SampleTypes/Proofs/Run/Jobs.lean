import SampleTypes.Proofs.Disk.Growth
import SampleTypes.Run.Basic

/-!
# A run as jobs on a disk

Neither the log nor the source has a part in what becomes of the output files, once the source has
said what it has to say.  Then each output file is a job for the disk alone.

* `Job`, `jobs`       the output files, each with what the source says;
* `Job.result`, `Job.after`   what a job comes to, and the disk it leaves;
* `Ran`               jobs done one after the other, with their results;
* `ran_of_targets`, `targets_of_ran`   a run is its jobs done one after the other;
* `System.Handles`    samples of which a text can be made and encoded;
* `Job.Stops`, `targets_stopped`   what ends a run before its last output file;
* `exists_ran`        a run comes to its end unless its source is broken, a pathname holds a null
                      character or samples are not handled.
-/

namespace SampleTypes.Run

/-- an output file with what its source says -/
structure Job (ε : Type := Empty) where
  path : String
  generator : Generator
  sourced : Sourced ε

section
variable {σ ε : Type}

def jobs (source : Source σ ε) : Targets → σ → List (Job ε)
  | [], _ => []
  | (path, g) :: ts, s => ⟨path, g, (source g s).1⟩ :: jobs source ts (source g s).2.2

theorem map_jobs (source : Source σ ε) (ts : Targets) (s : σ) :
    (jobs source ts s).map (fun j => (j.path, j.generator)) = ts := by
  induction ts generalizing s with
  | nil => rfl
  | cons t ts ih => rw [jobs, List.map_cons, ih]

theorem mem_of_jobs {source : Source σ ε} {ts : Targets} {s : σ} {j : Job ε}
    (h : j ∈ jobs source ts s) : (j.path, j.generator) ∈ ts := by
  have hmem := List.mem_map_of_mem (f := fun j : Job ε => (j.path, j.generator)) h
  rwa [map_jobs] at hmem

theorem sourced_of_jobs {source : Source σ ε} {ts : Targets} {s : σ} {j : Job ε}
    (h : j ∈ jobs source ts s) : ∃ u, j.sourced = (source j.generator u).1 := by
  induction ts generalizing s with
  | nil => exact absurd h List.not_mem_nil
  | cons t ts ih =>
    rw [jobs] at h
    rcases List.mem_cons.mp h with rfl | h
    · exact ⟨s, rfl⟩
    · exact ih h

end

/-- samples of which a text can be made and encoded -/
structure System.Handles {ε : Type} (sys : System ε) (g : Generator) (rs : List Record) : Prop where
  deep : sys.deep rs = none
  text : sys.unencodable (textOf g rs).1 = none

theorem System.encodable_of_none {ε : Type} {sys : System ε} {text : String}
    (h : sys.unencodable text = none) : sys.encodable text = text := by
  rw [encodable, h]
  rfl

namespace Job

variable {ε : Type}

def pathname (j : Job ε) : Pathname := .ofText j.path

/-- the text made from samples -/
def text (j : Job ε) (rs : List Record) : String := (textOf j.generator rs).1

def saved (sys : System ε) (j : Job ε) (policy : Disk.Policy) (d : Disk) (rs : List Record) :
    Disk.Saved :=
  d.save j.pathname (sys.encodable (j.text rs)) policy

/-- the result before anything is known but the samples -/
def start (j : Job ε) (count : Nat) : TargetResult :=
  ⟨j.path, j.generator.indexName, count, false, none⟩

def result (sys : System ε) (j : Job ε) (policy : Disk.Policy) (d : Disk) :
    Except (Stop ε) TargetResult :=
  match j.sourced with
  | .broken stop => .error (.search stop)
  | .failed reason => .ok { j.start 0 with error := some reason }
  | .samples rs =>
    match sys.deep rs with
    | some e => .error (.escaped e)
    | none =>
      match (j.saved sys policy d rs).result, sys.unencodable (j.text rs) with
      | .ok true, some e => .error (.escaped e)
      | .ok written, _ => .ok { j.start rs.length with written }
      | .error f, _ =>
        if f.refusal = .nullCharacter then .error .nullInPath
        else .ok { j.start rs.length with error := some (notWritten j.path f) }

/-- the disk after a job -/
def after (sys : System ε) (j : Job ε) (policy : Disk.Policy) (d : Disk) : Disk :=
  match j.sourced with
  | .samples rs => if (sys.deep rs).isSome then d else (j.saved sys policy d rs).disk
  | _ => d

variable {sys : System ε} {j : Job ε} {policy : Disk.Policy} {d : Disk} {rs : List Record}

theorem result_failed {reason : String} (sys : System ε) (h : j.sourced = .failed reason)
    (policy : Disk.Policy) (d : Disk) :
    j.result sys policy d = .ok { j.start 0 with error := some reason } := by
  rw [result, h]

theorem result_saved {written : Bool} (h : j.sourced = .samples rs) (hdeep : sys.deep rs = none)
    (htext : written = true → sys.unencodable (j.text rs) = none)
    (hsaved : (j.saved sys policy d rs).result = .ok written) :
    j.result sys policy d = .ok { j.start rs.length with written } := by
  rw [result, h]
  simp only [hdeep, hsaved]
  cases written with
  | false => rfl
  | true => simp only [htext rfl]

theorem result_refused {f : Failure} (h : j.sourced = .samples rs) (hdeep : sys.deep rs = none)
    (hsaved : (j.saved sys policy d rs).result = .error f) (hf : f.refusal ≠ .nullCharacter) :
    j.result sys policy d =
      .ok { j.start rs.length with error := some (notWritten j.path f) } := by
  rw [result, h]
  simp only [hdeep, hsaved, if_neg hf]

/-- a text that was written, or would be, has an encoding -/
structure Saves (sys : System ε) (j : Job ε) (policy : Disk.Policy) (d : Disk) (rs : List Record)
    (written : Bool) : Prop where
  saved : (j.saved sys policy d rs).result = .ok written
  text : written = true → sys.unencodable (j.text rs) = none

/-- what a result says of its job -/
theorem result_cases {r : TargetResult} (h : j.result sys policy d = .ok r) :
    (∃ reason, j.sourced = .failed reason ∧ r = { j.start 0 with error := some reason }) ∨
    ∃ rs, j.sourced = .samples rs ∧ sys.deep rs = none ∧
      ((∃ written, j.Saves sys policy d rs written ∧ r = { j.start rs.length with written }) ∨
      ∃ f, (j.saved sys policy d rs).result = .error f ∧ f.refusal ≠ .nullCharacter ∧
        r = { j.start rs.length with error := some (notWritten j.path f) }) := by
  unfold result at h
  split at h
  · simp at h
  · next reason hfailed => exact .inl ⟨reason, hfailed, (Except.ok.inj h).symm⟩
  · next rs hsamples =>
    split at h
    · simp at h
    · next hdeep =>
      refine .inr ⟨rs, hsamples, hdeep, ?_⟩
      split at h
      · simp at h
      · next written hsaved hlast =>
        refine .inl ⟨written, ⟨hsaved, fun hw => ?_⟩, (Except.ok.inj h).symm⟩
        exact Option.eq_none_iff_forall_ne_some.mpr fun e he => hlast e he hw
      · next f hsaved =>
        split at h
        · simp at h
        · next hf => exact .inr ⟨f, hsaved, hf, (Except.ok.inj h).symm⟩

end Job

variable {ε : Type} {sys : System ε} {policy : Disk.Policy} {d d' : Disk} {j : Job ε}
  {js js' : List (Job ε)} {r : TargetResult} {rs : List TargetResult}

inductive Ran (sys : System ε) (policy : Disk.Policy) :
    List (Job ε) → Disk → List TargetResult → Disk → Prop
  | nil (d : Disk) : Ran sys policy [] d [] d
  | cons {j : Job ε} {js : List (Job ε)} {d d' : Disk} {r : TargetResult} {rs : List TargetResult}
      (head : j.result sys policy d = .ok r) (tail : Ran sys policy js (j.after sys policy d) rs d') :
      Ran sys policy (j :: js) d (r :: rs) d'

section
variable {σ : Type} (sys : System ε) (source : Source σ ε) (policy : Disk.Policy)

theorem target_eq (path : String) (g : Generator) (s : State σ) :
    (target sys source policy path g s).1 =
      Job.result sys ⟨path, g, (source g s.source).1⟩ policy s.disk ∧
    (target sys source policy path g s).2.disk =
      Job.after sys ⟨path, g, (source g s.source).1⟩ policy s.disk ∧
    (target sys source policy path g s).2.source = (source g s.source).2.2 := by
  unfold target
  rcases source g s.source with ⟨sourced, log, left⟩
  cases sourced with
  | broken stop => exact ⟨rfl, rfl, rfl⟩
  | failed reason => exact ⟨rfl, rfl, rfl⟩
  | samples rs =>
    simp only [saveTarget, Job.result, Job.after, Job.saved, Job.pathname, Job.text, State.note]
    cases sys.deep rs with
    | some e => exact ⟨rfl, rfl, rfl⟩
    | none =>
      cases (s.disk.save (.ofText path) (sys.encodable (textOf g rs).1) policy).result with
      | ok written =>
        cases written <;> cases sys.unencodable (textOf g rs).1 <;> exact ⟨rfl, rfl, rfl⟩
      | error f =>
        simp only
        split <;> exact ⟨rfl, rfl, rfl⟩

theorem targets_cons_error {path : String} {g : Generator} {ts : Targets} {s s₁ : State σ}
    {stop : Stop ε} (h : target sys source policy path g s = (.error stop, s₁)) :
    targets sys source policy ((path, g) :: ts) s = (.error stop, s₁) := by
  rw [targets, h]

theorem targets_cons_ok {path : String} {g : Generator} {ts : Targets} {s s₁ : State σ}
    {r : TargetResult} (h : target sys source policy path g s = (.ok r, s₁)) :
    targets sys source policy ((path, g) :: ts) s =
      ((targets sys source policy ts s₁).1.map (r :: ·), (targets sys source policy ts s₁).2) := by
  rw [targets, h]

theorem ran_of_targets {ts : Targets} {s : State σ} {rs : List TargetResult}
    (h : (targets sys source policy ts s).1 = .ok rs) :
    Ran sys policy (jobs source ts s.source) s.disk rs (targets sys source policy ts s).2.disk := by
  induction ts generalizing s rs with
  | nil =>
    rw [targets_nil, Except.ok.injEq] at h
    rw [← h]
    exact .nil _
  | cons t ts ih =>
    obtain ⟨path, g⟩ := t
    obtain ⟨hresult, hdisk, hsource⟩ := target_eq sys source policy path g s
    rcases ht : target sys source policy path g s with ⟨r | r, s₁⟩
    · rw [targets_cons_error sys source policy ht] at h
      simp at h
    · rw [ht] at hresult hdisk hsource
      rw [targets_cons_ok sys source policy ht] at h ⊢
      cases hrest : (targets sys source policy ts s₁).1 with
      | error stop =>
        rw [hrest] at h
        simp [Except.map] at h
      | ok rest =>
        rw [hrest] at h
        have hran := ih hrest
        rw [show s₁.disk = _ from hdisk, show s₁.source = _ from hsource] at hran
        rw [← Except.ok.inj h]
        exact .cons hresult.symm hran

theorem targets_of_ran {ts : Targets} {s : State σ} {rs : List TargetResult} {d' : Disk}
    (h : Ran sys policy (jobs source ts s.source) s.disk rs d') :
    (targets sys source policy ts s).1 = .ok rs ∧ (targets sys source policy ts s).2.disk = d' := by
  induction ts generalizing s rs with
  | nil =>
    cases h
    exact ⟨rfl, rfl⟩
  | cons t ts ih =>
    obtain ⟨path, g⟩ := t
    obtain ⟨hresult, hdisk, hsource⟩ := target_eq sys source policy path g s
    rcases h with _ | ⟨head, tail⟩
    rcases ht : target sys source policy path g s with ⟨r | r, s₁⟩
    · rw [ht] at hresult
      exact absurd (hresult.trans head) (by simp)
    · rw [ht] at hresult hdisk hsource
      have hhead := Except.ok.inj (hresult.trans head)
      rw [← show s₁.disk = _ from hdisk, ← show s₁.source = _ from hsource] at tail
      obtain ⟨hrest, hlast⟩ := ih tail
      rw [targets_cons_ok sys source policy ht, hrest, ← hhead]
      exact ⟨rfl, hlast⟩

end

/-! ## what a job leaves -/

theorem Job.result_written (h : j.result sys policy d = .ok r) (hw : r.written = true) :
    ∃ samples, j.sourced = .samples samples ∧ sys.deep samples = none ∧
      j.Saves sys policy d samples true := by
  rcases Job.result_cases h with ⟨reason, -, rfl⟩ |
    ⟨samples, hsamples, hdeep, ⟨written, hsaved, rfl⟩ | ⟨f, -, -, rfl⟩⟩
  · simp [Job.start] at hw
  · obtain rfl : written = true := hw
    exact ⟨samples, hsamples, hdeep, hsaved⟩
  · simp [Job.start] at hw

theorem Job.after_samples {samples : List Record} (h : j.sourced = .samples samples)
    (hdeep : sys.deep samples = none) (policy : Disk.Policy) (d : Disk) :
    j.after sys policy d = (j.saved sys policy d samples).disk := by
  rw [Job.after, h]
  simp [hdeep]

/-- the disk after a job is as it was, or as a save leaves it -/
theorem Job.after_cases (sys : System ε) (j : Job ε) (policy : Disk.Policy) (d : Disk) :
    j.after sys policy d = d ∨
      ∃ content, j.after sys policy d = (d.save j.pathname content policy).disk := by
  unfold Job.after
  split
  · split
    · exact .inl rfl
    · exact .inr ⟨_, rfl⟩
  · exact .inl rfl

theorem Job.after_grows (sys : System ε) (j : Job ε) (policy : Disk.Policy) (d : Disk) :
    Disk.Grows d (j.after sys policy d) := by
  rcases j.after_cases sys policy d with h | ⟨content, h⟩ <;> rw [h]
  · exact Disk.Grows.refl d
  · exact Disk.grows_save ..

theorem Job.after_tree (sys : System ε) (j : Job ε) (policy : Disk.Policy) (ht : d.IsTree) :
    (j.after sys policy d).IsTree := by
  rcases j.after_cases sys policy d with h | ⟨content, h⟩ <;> rw [h]
  · exact ht
  · exact ht.save ..

theorem Ran.grows (h : Ran sys policy js d rs d') : Disk.Grows d d' := by
  induction h with
  | nil d => exact Disk.Grows.refl d
  | cons _ _ ih => exact (Job.after_grows ..).trans ih

/-! ## what ends a run -/

/-- what a job ends its run with: a broken source, samples or a text beyond the system, or a null
character in a pathname that is to be written -/
inductive Job.Stops (sys : System ε) (policy : Disk.Policy) (j : Job ε) : Stop ε → Prop
  | broken {b : Search.Stop ε} (h : j.sourced = .broken b) : Stops sys policy j (.search b)
  | deep {samples : List Record} {e : ε} (h : j.sourced = .samples samples)
      (he : sys.deep samples = some e) : Stops sys policy j (.escaped e)
  | unencodable {samples : List Record} {e : ε} (h : j.sourced = .samples samples)
      (he : sys.unencodable (j.text samples) = some e) : Stops sys policy j (.escaped e)
  | null (hwrites : policy.dryRun = false) (h : j.pathname.hasNull = true) :
      Stops sys policy j .nullInPath

theorem Job.stops_of_error {stop : Stop ε} (h : j.result sys policy d = .error stop) :
    j.Stops sys policy stop := by
  unfold Job.result at h
  split at h
  · next b hb =>
    obtain rfl := Except.error.inj h
    exact .broken hb
  · simp at h
  · next samples hsamples =>
    split at h
    · next e he =>
      obtain rfl := Except.error.inj h
      exact .deep hsamples he
    · split at h
      · next e _ he =>
        obtain rfl := Except.error.inj h
        exact .unencodable hsamples he
      · simp at h
      · next f hsaved =>
        split at h
        · next hf =>
          obtain rfl := Except.error.inj h
          refine .null ?_ ?_
          · exact Bool.eq_false_iff.mpr fun hdry => Disk.save_dryRun_ne_null hdry hsaved hf
          · exact eq_true_of_ne_false fun hnull => Disk.save_ne_null hnull hsaved hf
        · simp at h

/-- the system can do what a job asks of it -/
def Job.Handled (sys : System ε) (j : Job ε) : Prop :=
  ∀ rs, j.sourced = .samples rs → sys.Handles j.generator rs

/-- a job that nothing ends the run at: no broken source, no null character to be written, nothing
beyond the system -/
structure Job.Returns (sys : System ε) (policy : Disk.Policy) (j : Job ε) : Prop where
  sourced : ∀ stop, j.sourced ≠ .broken stop
  path : policy.dryRun = true ∨ j.pathname.hasNull = false
  handled : j.Handled sys

theorem Job.Returns.result (h : j.Returns sys policy) (d : Disk) :
    ∃ r, j.result sys policy d = .ok r := by
  cases hr : j.result sys policy d with
  | ok r => exact ⟨r, rfl⟩
  | error stop =>
    cases Job.stops_of_error hr with
    | broken hb => exact absurd hb (h.sourced _)
    | deep hs he => simp [(h.handled _ hs).deep] at he
    | unencodable hs he =>
      have htext : sys.unencodable (j.text _) = none := (h.handled _ hs).text
      simp [htext] at he
    | null hwrites hnull => rcases h.path with hdry | hfree <;> simp_all

theorem exists_ran (h : ∀ j ∈ js, j.Returns sys policy) (d : Disk) :
    ∃ rs d', Ran sys policy js d rs d' := by
  induction js generalizing d with
  | nil => exact ⟨[], d, .nil d⟩
  | cons j js ih =>
    obtain ⟨r, hr⟩ := (h j List.mem_cons_self).result d
    obtain ⟨rs, d', hran⟩ :=
      ih (fun j hj => h j (List.mem_cons_of_mem _ hj)) (j.after sys policy d)
    exact ⟨r :: rs, d', .cons hr hran⟩

end SampleTypes.Run
