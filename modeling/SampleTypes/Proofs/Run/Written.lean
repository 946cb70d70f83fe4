import SampleTypes.Proofs.Disk.Policies
import SampleTypes.Proofs.Run.Jobs

/-!
# What is reported as written

A pathname goes on leading where it led when its text was written, and what stands there at the
end is the text that was written there last.  Without overwriting and without a step up, nothing is
written over, so it is the text of the pathname itself.

* `Job.Wrote`          a job that wrote its text to a place;
* `Job.unencodable_left`   what is left where a text could not be written;
* `Job.after_file`     a file keeps its bytes unless a job writes to it;
* `Ran.last_writer`    a run, for a file that is there before it;
* `Ran.file_kept`      without overwriting no file changes;
* `all_written`        the main statement.
-/

namespace SampleTypes

namespace Run

variable {ε : Type} {sys : System ε} {overwrite : Bool} {d d' : Disk} {j : Job ε}
  {js : List (Job ε)} {r : TargetResult} {rs : List TargetResult} {q : Place} {bs : List Nat}

/-! ## one job -/

/-- a job that wrote its text, which then stands at the place its pathname leads to -/
def Job.Wrote (j : Job ε) (r : TargetResult) (d : Disk) (q : Place) : Prop :=
  r.written = true ∧ d.locate j.pathname = .ok q

theorem Job.wrote_text (h : j.result sys ⟨overwrite, false⟩ d = .ok r) (hw : r.written = true) :
    ∃ q samples, j.Wrote r (j.after sys ⟨overwrite, false⟩ d) q ∧ j.sourced = .samples samples ∧
      (j.after sys ⟨overwrite, false⟩ d).item? q =
        some (.file (Text.utf8 (j.text samples))) := by
  obtain ⟨samples, hsamples, hdeep, hsaved, htext⟩ := Job.result_written h hw
  obtain ⟨q, hl, hq⟩ := Disk.save_written hsaved
  rw [Job.after_samples hsamples hdeep]
  refine ⟨q, samples, ⟨hw, hl⟩, hsamples, ?_⟩
  rw [← System.encodable_of_none (htext rfl)]
  exact hq

/-- a text without an encoding ends the run, and leaves an empty file where it was to go -/
theorem Job.unencodable_left {samples : List Record} {e : ε} (h : j.sourced = .samples samples)
    (hdeep : sys.deep samples = none) (he : sys.unencodable (j.text samples) = some e)
    (hsaved : (j.saved sys ⟨overwrite, false⟩ d samples).result = .ok true) :
    j.result sys ⟨overwrite, false⟩ d = .error (.escaped e) ∧
      ∃ q, (j.after sys ⟨overwrite, false⟩ d).locate j.pathname = .ok q ∧
        (j.after sys ⟨overwrite, false⟩ d).item? q = some (.file []) := by
  refine ⟨?_, ?_⟩
  · rw [Job.result, h]
    simp only [hdeep, hsaved, he]
  · obtain ⟨q, hl, hq⟩ := Disk.save_written hsaved
    rw [Job.after_samples h hdeep]
    refine ⟨q, hl, hq.trans ?_⟩
    simp [System.encodable, he, Text.utf8]

/-- a file keeps its bytes unless a job writes to it -/
theorem Job.after_file {policy : Disk.Policy} (h : j.result sys policy d = .ok r)
    (hq : d.item? q = some (.file bs)) :
    (j.after sys policy d).item? q = some (.file bs) ∨ j.Wrote r (j.after sys policy d) q := by
  rcases Job.result_cases h with ⟨reason, hfailed, -⟩ | ⟨samples, hsamples, hdeep, hsaved⟩
  · rw [Job.after, hfailed]
    exact .inl hq
  · rw [Job.after_samples hsamples hdeep]
    rcases Disk.save_file hq j.pathname (sys.encodable (j.text samples)) policy with
      hkept | ⟨hwritten, hl⟩
    · exact .inl hkept
    · refine .inr ⟨?_, hl⟩
      rcases hsaved with ⟨written, ⟨hs, -⟩, rfl⟩ | ⟨f, hs, -, -⟩
      · exact Except.ok.inj (hs.symm.trans hwritten)
      · exact absurd (hs.symm.trans hwritten) (by simp)

/-! ## a run -/

/-- a place keeps leading where it led -/
theorem Job.Wrote.later (h : j.Wrote r d q) (hgrows : Disk.Grows d d') : j.Wrote r d' q :=
  ⟨h.1, (Disk.locate_of_grows hgrows (by simp [h.2])).trans h.2⟩

/-- no job from the `k`-th on wrote to a place -/
def Quiet (js : List (Job ε)) (rs : List TargetResult) (d : Disk) (q : Place) (k : Nat) : Prop :=
  ∀ m, k ≤ m → ∀ j r, js[m]? = some j → rs[m]? = some r → ¬ j.Wrote r d q

/-- the `k`-th job wrote the text that stands at a place, and no job after it wrote there -/
structure LastWriter (js : List (Job ε)) (rs : List TargetResult) (d : Disk) (q : Place)
    (k : Nat) : Prop where
  wrote : ∃ j r samples, js[k]? = some j ∧ rs[k]? = some r ∧ j.Wrote r d q ∧
    j.sourced = .samples samples ∧ d.item? q = some (.file (Text.utf8 (j.text samples)))
  quiet : Quiet js rs d q (k + 1)

theorem Quiet.cons {k : Nat} (h : Quiet js rs d q k) : Quiet (j :: js) (r :: rs) d q (k + 1) := by
  intro m hm i r' hi hr'
  obtain ⟨m, rfl⟩ : ∃ n, m = n + 1 := ⟨m - 1, by omega⟩
  exact h m (by omega) i r' hi hr'

theorem LastWriter.cons {k : Nat} (h : LastWriter js rs d q k) :
    LastWriter (j :: js) (r :: rs) d q (k + 1) :=
  ⟨h.wrote, h.quiet.cons⟩

/-- what becomes of a file: some job wrote to it last, or none did and it is as it was -/
theorem Ran.last_writer (h : Ran sys ⟨overwrite, false⟩ js d rs d')
    (hq : d.item? q = some (.file bs)) :
    (∃ k, LastWriter js rs d' q k) ∨ (d'.item? q = some (.file bs) ∧ Quiet js rs d' q 0) := by
  -- a job that writes to `q` begins anew with its own bytes, so `bs` is not fixed
  induction h generalizing bs with
  | nil d => exact .inr ⟨hq, fun m _ j r hj => by simp at hj⟩
  | @cons j js d d' r rs head tail ih =>
    by_cases hwrote : j.Wrote r (j.after sys ⟨overwrite, false⟩ d) q
    · obtain ⟨q', samples, hwrote', hsamples, hitem⟩ := Job.wrote_text head hwrote.1
      have hsame : q' = q := Except.ok.inj (hwrote'.2.symm.trans hwrote.2)
      subst hsame
      rcases ih hitem with ⟨k, hk⟩ | ⟨hlast, hquiet⟩
      · exact .inl ⟨k + 1, hk.cons⟩
      · exact .inl ⟨0, ⟨j, r, samples, rfl, rfl, hwrote.later tail.grows, hsamples, hlast⟩,
          hquiet.cons⟩
    · have hitem := (Job.after_file head hq).resolve_right hwrote
      rcases ih hitem with ⟨k, hk⟩ | ⟨hlast, hquiet⟩
      · exact .inl ⟨k + 1, hk.cons⟩
      · refine .inr ⟨hlast, fun m _ i r' hi hr' hlater => ?_⟩
        cases m with
        | succ m => exact hquiet m (by omega) i r' hi hr' hlater
        | zero =>
          obtain rfl : j = i := Option.some.inj hi
          obtain rfl : r = r' := Option.some.inj hr'
          obtain ⟨q', -, hwrote', -, -⟩ := Job.wrote_text head hlater.1
          have hsame : q' = q :=
            Except.ok.inj ((hwrote'.later tail.grows).2.symm.trans hlater.2)
          exact hwrote (hsame ▸ hwrote')

/-- where a text was written, the text written there last stands at the end -/
theorem Ran.written (h : Ran sys ⟨overwrite, false⟩ js d rs d') {i : Nat} (hj : js[i]? = some j)
    (hr : rs[i]? = some r) (hw : r.written = true) :
    ∃ q k, j.Wrote r d' q ∧ i ≤ k ∧ LastWriter js rs d' q k := by
  induction h generalizing i with
  | nil d => simp at hj
  | @cons j' js d d' r' rs head tail ih =>
    cases i with
    | zero =>
      obtain rfl : j' = j := Option.some.inj hj
      obtain rfl : r' = r := Option.some.inj hr
      obtain ⟨q, samples, hwrote, hsamples, hitem⟩ := Job.wrote_text head hw
      have hlater := hwrote.later tail.grows
      rcases tail.last_writer hitem with ⟨k, hk⟩ | ⟨hlast, hquiet⟩
      · exact ⟨q, k + 1, hlater, Nat.zero_le _, hk.cons⟩
      · exact ⟨q, 0, hlater, Nat.le_refl 0, ⟨j', r', samples, rfl, rfl, hlater, hsamples, hlast⟩,
          hquiet.cons⟩
    | succ i =>
      obtain ⟨q, k, hwrote, hle, hk⟩ := ih hj hr
      exact ⟨q, k + 1, hwrote, by omega, hk.cons⟩

theorem Job.after_file_kept (sys : System ε) (ht : d.IsTree) (hplain : j.pathname.isPlain = true)
    (hq : d.item? q = some (.file bs)) :
    (j.after sys ⟨false, false⟩ d).item? q = some (.file bs) := by
  rcases j.after_cases sys ⟨false, false⟩ d with e | ⟨content, e⟩ <;> rw [e]
  · exact hq
  · exact Disk.save_file_kept ht hplain hq

/-- without overwriting and without a step up no file changes -/
theorem Ran.file_kept (h : Ran sys ⟨false, false⟩ js d rs d') (ht : d.IsTree)
    (hplain : ∀ j ∈ js, j.pathname.isPlain = true) (hq : d.item? q = some (.file bs)) :
    d'.item? q = some (.file bs) := by
  induction js generalizing d rs with
  | nil =>
    cases h
    exact hq
  | cons j js ih =>
    rcases h with _ | ⟨-, tail⟩
    obtain ⟨hj, hjs⟩ := List.forall_mem_cons.mp hplain
    exact ih tail (j.after_tree sys _ ht) hjs (Job.after_file_kept sys ht hj hq)

/-- then what is reported as written is the text of its own pathname -/
theorem Ran.written_own (h : Ran sys ⟨false, false⟩ js d rs d') (ht : d.IsTree)
    (hplain : ∀ j ∈ js, j.pathname.isPlain = true) {i : Nat} (hj : js[i]? = some j)
    (hr : rs[i]? = some r) (hw : r.written = true) :
    ∃ q samples, j.Wrote r d' q ∧ j.sourced = .samples samples ∧
      d'.item? q = some (.file (Text.utf8 (j.text samples))) := by
  induction js generalizing d rs i with
  | nil => simp at hj
  | cons j' js ih =>
    rcases h with _ | ⟨head, tail⟩
    obtain ⟨-, hjs⟩ := List.forall_mem_cons.mp hplain
    have htree := j'.after_tree sys ⟨false, false⟩ ht
    cases i with
    | zero =>
      obtain rfl : j' = j := Option.some.inj hj
      obtain rfl := Option.some.inj hr
      obtain ⟨q, samples, hwrote, hsamples, hitem⟩ := Job.wrote_text head hw
      exact ⟨q, samples, hwrote.later tail.grows, hsamples, tail.file_kept htree hjs hitem⟩
    | succ i => exact ih tail htree hjs hj hr

theorem Job.Wrote.bytes (h : j.Wrote r d q) (hq : d.item? q = some (.file bs)) :
    d.bytes j.pathname = .ok bs :=
  Disk.bytes_of_item h.2 hq

/-- What an output file that is reported as written holds at the end: the text of the last output
file reported as written, from it on, whose pathname leads to the same place.  Without overwriting
and without a step up that is its own text. -/
theorem all_written {σ : Type} (source : Source σ) (c : Config) (s : State σ)
    {rs : List TargetResult} (h : (all source false c s).1 = .ok rs) :
    let js := jobs source c.targets s.source
    let final := (all source false c s).2.disk
    ∀ (i : Nat) (j : Job) (r : TargetResult), js[i]? = some j → rs[i]? = some r →
      r.isOk = true → r.written = true →
      (∃ q k j' samples, final.locate j.pathname = .ok q ∧ i ≤ k ∧ LastWriter js rs final q k ∧
        js[k]? = some j' ∧ j'.sourced = .samples samples ∧
        final.bytes j.pathname = .ok (Text.utf8 (j'.text samples))) ∧
      (c.overwrite = false → s.disk.IsTree →
        (∀ t ∈ c.targets, ".." ∉ (Pathname.ofText t.1).steps) →
        ∃ samples, j.sourced = .samples samples ∧
          final.bytes j.pathname = .ok (Text.utf8 (j.text samples))) := by
  intro js final i j r hj hr _ hw
  have hran : Ran {} ⟨c.overwrite, false⟩ js s.disk rs final := ran_of_targets {} source _ h
  refine ⟨?_, fun hoverwrite htree hup => ?_⟩
  · obtain ⟨q, k, hwrote, hle, hlast⟩ := hran.written hj hr hw
    obtain ⟨j', r', samples, hj', -, -, hsamples, hitem⟩ := hlast.wrote
    exact ⟨q, k, j', samples, hwrote.2, hle, hlast, hj', hsamples, hwrote.bytes hitem⟩
  · rw [hoverwrite] at hran
    have hplain : ∀ j ∈ js, j.pathname.isPlain = true := fun j hj =>
      (Pathname.isPlain_ofText_iff j.path).mpr (hup (j.path, j.generator) (mem_of_jobs hj))
    obtain ⟨q, samples, hwrote, hsamples, hitem⟩ := hran.written_own htree hplain hj hr hw
    exact ⟨samples, hsamples, hwrote.bytes hitem⟩

/-- a new file, and one that is there and is left alone -/
theorem all_written_new :
    let g : Generator := { appId := "app", searchKey := "key", indexName := "books" }
    let source : Source Unit := fun _ s => (.samples [[]], [], s)
    let c : Config := ⟨false, .one [("x.ts", g), ("z.ts", g)]⟩
    let s : State Unit := { disk := { items := [(⟨["z.ts"]⟩, .file [1])] }, source := () }
    ∃ r₁ r₂, (all source false c s).1 = .ok [r₁, r₂] ∧ r₁.isOk = true ∧ r₁.written = true ∧
      r₂.written = false ∧
      ∃ samples, (Sourced.samples [[]] : Sourced) = .samples samples ∧
        (all source false c s).2.disk.bytes (.ofText "x.ts") =
          .ok (Text.utf8 (textOf g samples).1) := by
  intro g source c s
  let policy : Disk.Policy := ⟨false, false⟩
  let first : Job := ⟨"x.ts", g, .samples [[]]⟩
  let second : Job := ⟨"z.ts", g, .samples [[]]⟩
  have hsaved : ∀ text text', (s.disk.save (.ofText "x.ts") text policy).result = .ok true ∧
      ((s.disk.save (.ofText "x.ts") text policy).disk.save (.ofText "z.ts") text'
        policy).result = .ok false := fun _ _ => ⟨rfl, rfl⟩
  have hfirst : (first.saved {} policy s.disk [[]]).result = .ok true := (hsaved _ "").1
  have hsecond : (second.saved {} policy (first.after {} policy s.disk) [[]]).result = .ok false := by
    rw [Job.after_samples rfl rfl]
    exact (hsaved _ _).2
  obtain ⟨r₁, h₁, hr₁⟩ : ∃ r₁, first.result {} policy s.disk = .ok r₁ ∧ r₁.isOk = true ∧
      r₁.written = true :=
    ⟨_, Job.result_saved rfl rfl (fun _ => rfl) hfirst, rfl, rfl⟩
  obtain ⟨r₂, h₂, hr₂⟩ : ∃ r₂, second.result {} policy (first.after {} policy s.disk) = .ok r₂ ∧
      r₂.written = false :=
    ⟨_, Job.result_saved rfl rfl (fun _ => rfl) hsecond, rfl⟩
  have hran : Ran {} policy (jobs source c.targets s.source) s.disk _ _ :=
    .cons h₁ (.cons h₂ (.nil _))
  have hrs : (all source false c s).1 = .ok [r₁, r₂] := (targets_of_ran {} source policy hran).1
  have htree : s.disk.IsTree := Disk.isTree_of_items rfl (by decide +kernel)
  have hup : ∀ t ∈ c.targets, ".." ∉ (Pathname.ofText t.1).steps := by decide +kernel
  have hall := all_written source c s hrs 0 first r₁ rfl rfl hr₁.1 hr₁.2
  exact ⟨r₁, r₂, hrs, hr₁.1, hr₁.2, hr₂, hall.2 rfl htree hup⟩

theorem length_utf8 (s : String) : (Text.utf8 s).length = s.utf8ByteSize := by
  have hbytes : s.utf8ByteSize = s.toList.utf8Encode.size := by
    rw [← String.toByteArray_ofList, String.ofList_toList]
    rfl
  rw [hbytes, List.utf8Encode, List.size_toByteArray, Text.utf8, List.length_flatMap,
    List.length_flatMap]
  simp only [List.length_map]

/-- one pathname in two groups: where overwriting is allowed, the text of the first is written
over -/
theorem all_written_over :
    let g : String → Generator := fun name =>
      { appId := "app", searchKey := "key", indexName := name }
    let source : Source Unit := fun _ s => (.samples [[]], [], s)
    let c : Config := ⟨true, .several [[("x.ts", g "books")], [("x.ts", g "magazines")]]⟩
    let s : State Unit := { disk := {}, source := () }
    ∃ r₁ r₂, (all source false c s).1 = .ok [r₁, r₂] ∧ r₁.isOk = true ∧ r₁.written = true ∧
      (all source false c s).2.disk.bytes (.ofText "x.ts") ≠
        .ok (Text.utf8 (textOf (g "books") [[]]).1) := by
  intro g source c s
  let policy : Disk.Policy := ⟨true, false⟩
  let first : Job := ⟨"x.ts", g "books", .samples [[]]⟩
  let second : Job := ⟨"x.ts", g "magazines", .samples [[]]⟩
  -- both are written whatever their texts are
  have hwritten : ∀ text text', (s.disk.save (.ofText "x.ts") text policy).result = .ok true ∧
      ((s.disk.save (.ofText "x.ts") text policy).disk.save (.ofText "x.ts") text'
        policy).result = .ok true := fun _ _ => ⟨rfl, rfl⟩
  have hfirst : (first.saved {} policy s.disk [[]]).result = .ok true := (hwritten _ "").1
  have hsecond : (second.saved {} policy (first.after {} policy s.disk) [[]]).result = .ok true := by
    rw [Job.after_samples rfl rfl]
    exact (hwritten _ _).2
  obtain ⟨r₁, h₁, hr₁⟩ : ∃ r₁, first.result {} policy s.disk = .ok r₁ ∧ r₁.isOk = true ∧
      r₁.written = true :=
    ⟨_, Job.result_saved rfl rfl (fun _ => rfl) hfirst, rfl, rfl⟩
  obtain ⟨r₂, h₂, hr₂⟩ : ∃ r₂, second.result {} policy (first.after {} policy s.disk) = .ok r₂ ∧
      r₂.written = true :=
    ⟨_, Job.result_saved rfl rfl (fun _ => rfl) hsecond, rfl⟩
  have hran : Ran {} policy (jobs source c.targets s.source) s.disk _ _ :=
    .cons h₁ (.cons h₂ (.nil _))
  have hall : all source false c s = targets {} source policy c.targets s := rfl
  obtain ⟨hrs, hdisk⟩ := targets_of_ran {} source policy hran
  rw [← hall] at hrs hdisk
  obtain ⟨q, samples, hwrote, hsamples, hitem⟩ := Job.wrote_text h₂ hr₂
  obtain rfl : [[]] = samples := Sourced.samples.inj hsamples
  refine ⟨r₁, r₂, hrs, hr₁.1, hr₁.2, ?_⟩
  intro hbytes
  rw [hdisk] at hbytes
  have htexts := Except.ok.inj ((hwrote.bytes hitem).symm.trans hbytes)
  have hbooks : (textOf (g "books") [[]]).1.utf8ByteSize = 179 := by decide +kernel
  have hmagazines : (second.text [[]]).utf8ByteSize = 183 := by decide +kernel
  have hlength := congrArg List.length htexts
  rw [length_utf8, length_utf8, hbooks, hmagazines] at hlength
  omega

end Run

end SampleTypes
