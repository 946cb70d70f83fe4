import SampleTypes.Proofs.Command.Loaded
import SampleTypes.Proofs.Sample.Saved

/-!
# Records up to a limit

With a limit the lines of a file are read only until there are records enough.  What is read then
is a beginning of what the whole file gives, and it is all of it or as long as the limit, so up to
the limit both are the same.

* `documentValues p cs`     the values of the documents that can be read, in the order of the file;
* `fileRecords p cs`        their records;
* `candidates v`            the values that can be records of a document;
* `recordsOfLines_begins`   what the lines give, however early the reading stops;
* `LoadsAs`                 what loading comes to, with a limit or without;
* `limit_takes_first`       the main statement.
-/

namespace SampleTypes

open Json (IsHuge)

variable {d : Disk} {p : Pathname} {cs : List Char} {limit : Option Int} {n : Int}

/-- the values of the documents that can be read, in the order of the file -/
def documentValues (p : Pathname) (cs : List Char) : List Json :=
  (documents p cs).filterMap fun t => (Json.readChars t).toOption

/-- the records of a file's text, in the order of the file -/
def fileRecords (p : Pathname) (cs : List Char) : List Record :=
  (documentValues p cs).flatMap recordsOf

/-- the values that can be records of a document: those in its list at `hits`, those in the list
that it is, or itself -/
def candidates : Json → List Json
  | .arr xs => xs
  | .obj fs =>
    match fs.lookup "hits" with
    | some (.arr hits) => hits
    | _ => [.obj fs]
  | v => [v]

theorem map_obj_filterMap (xs : List Json) :
    (xs.filterMap Json.record?).map .obj = xs.filter Json.isRecord := by
  induction xs with
  | nil => rfl
  | cons x xs ih =>
    cases x with
    | obj fs => exact congrArg (Json.obj fs :: ·) ih
    | null | bool | int | float | str | arr => exact ih

/-- the records of a document are those among the candidates, in their order -/
theorem map_obj_recordsOf (v : Json) :
    (recordsOf v).map .obj = (candidates v).filter Json.isRecord := by
  cases v with
  | obj fs =>
    by_cases h : HoldsHits fs
    · obtain ⟨hits, hhits⟩ := h
      have hrecords : recordsOf (.obj fs) = hits.filterMap Json.record? := recordsIn_of_hits hhits
      rw [hrecords, map_obj_filterMap, candidates, hhits]
    · have hrecords : recordsOf (.obj fs) = [fs] := recordsIn_plain h
      rw [hrecords, candidates]
      split
      · next hits hhits => exact absurd ⟨hits, hhits⟩ h
      · rfl
  | arr xs => exact map_obj_filterMap xs
  | null | bool | int | float | str => rfl

theorem map_obj_fileRecords (p : Pathname) (cs : List Char) :
    (fileRecords p cs).map .obj =
      ((documentValues p cs).flatMap candidates).filter Json.isRecord := by
  rw [fileRecords, List.map_flatMap, List.filter_flatMap]
  exact List.flatMap_congr fun v _ => map_obj_recordsOf v

/-! ## lines -/

/-- the value of the document on a line, if there is one that can be read -/
def lineValue (l : List Char) : Option Json :=
  (Json.readChars (Text.trimWith Text.isBlank l)).toOption

theorem lineDocument_eq {l : List Char} (h : ¬ IsHuge (Text.trimWith Text.isBlank l)) :
    lineDocument l = .ok (lineValue l) := by
  unfold lineDocument lineValue
  split
  · next hnil =>
    rw [hnil]
    rfl
  · cases hread : Json.readChars (Text.trimWith Text.isBlank l) with
    | ok v => rfl
    | error f =>
      rw [Json.isHuge_iff hread] at h
      exact if_neg h

/-- What lines give after the records `rs`: a beginning of what all of them give, which is all of it
or enough. -/
theorem recordsOfLines_begins {lines : List (List Char)}
    (h : ∀ l ∈ lines, ¬ IsHuge (Text.trimWith Text.isBlank l)) (limit : Option Int)
    (rs : List Record) :
    ∃ got, recordsOfLines limit none rs lines = .ok got ∧
      got <+: rs ++ (lines.filterMap lineValue).flatMap recordsOf ∧
      (got = rs ++ (lines.filterMap lineValue).flatMap recordsOf ∨ reaches limit got = true) := by
  induction lines generalizing rs with
  | nil => exact ⟨rs, rfl, by simp, .inl (by simp)⟩
  | cons l lines ih =>
    have hrest := fun l' hl' => h l' (List.mem_cons_of_mem l hl')
    rw [recordsOfLines, lineDocument_eq (h l List.mem_cons_self)]
    cases hv : lineValue l with
    | none =>
      rw [List.filterMap_cons_none hv]
      exact ih hrest rs
    | some v =>
      rw [List.filterMap_cons_some hv, List.flatMap_cons, ← List.append_assoc]
      dsimp only
      split
      · next henough => exact ⟨_, rfl, List.prefix_append _ _, .inr henough⟩
      · exact ih hrest _

/-! ## the limit -/

theorem firstRecords_of_pos (hn : 1 ≤ n) (rs : List Record) :
    firstRecords (some n) rs = rs.take n.toNat := by
  have hpos : ¬ n < 0 := by omega
  rw [firstRecords, if_neg hpos]

/-- a beginning that is enough has the same first records -/
theorem firstRecords_of_begins (hlimit : ∀ n ∈ limit, 1 ≤ n) {got rs : List Record}
    (hbegins : got <+: rs) (h : got = rs ∨ reaches limit got = true) :
    firstRecords limit got = firstRecords limit rs := by
  rcases h with rfl | henough
  · rfl
  · cases limit with
    | none => simp [reaches] at henough
    | some n =>
      have hlen : n.toNat ≤ got.length := by
        have henough : n ≤ got.length := of_decide_eq_true henough
        omega
      rw [firstRecords_of_pos (hlimit n rfl), firstRecords_of_pos (hlimit n rfl)]
      obtain ⟨more, rfl⟩ := hbegins
      rw [List.take_append_of_le_length hlen]

/-- a beginning that is enough is not empty unless there is nothing -/
theorem eq_nil_iff_of_begins (hlimit : ∀ n ∈ limit, 1 ≤ n) {got rs : List Record}
    (hbegins : got <+: rs) (h : got = rs ∨ reaches limit got = true) : got = [] ↔ rs = [] := by
  constructor
  · rintro rfl
    rcases h with h | henough
    · exact h.symm
    · cases limit with
      | none => simp [reaches] at henough
      | some n =>
        have hn : 1 ≤ n := hlimit n rfl
        have henough : n ≤ 0 := of_decide_eq_true henough
        omega
  · rintro rfl
    exact List.prefix_nil.mp hbegins

/-! ## files -/

theorem samplesOfText_error {t : Readable} {f : LoadFault}
    (h : recordsOfText p limit t = .error f) : samplesOfText p limit t = .error f := by
  unfold samplesOfText
  rw [h]
  rfl

/-- the records of lines are those of the whole file up to the limit -/
theorem samplesOfText_lines (hlines : isLineFile p = true)
    (h : ∀ t ∈ documents p cs, ¬ IsHuge t) (hlimit : ∀ n ∈ limit, 1 ≤ n) :
    samplesOfText p limit { chars := cs } =
      (found p (fileRecords p cs)).map (firstRecords limit) := by
  have hdocuments : documents p cs = (Text.lines cs).map (Text.trimWith Text.isBlank) :=
    if_pos hlines
  rw [hdocuments, List.forall_mem_map] at h
  have hrecords : fileRecords p cs =
      ((Text.lines cs).filterMap lineValue).flatMap recordsOf := by
    rw [fileRecords, documentValues, hdocuments, List.filterMap_map]
    rfl
  obtain ⟨got, hgot, hbegins, henough⟩ := recordsOfLines_begins h limit []
  rw [List.nil_append, ← hrecords] at hbegins henough
  have htext : recordsOfText p limit { chars := cs } = .ok got := by
    rw [recordsOfText, if_pos hlines]
    exact hgot
  have hnil := eq_nil_iff_of_begins hlimit hbegins henough
  have hfirst := firstRecords_of_begins hlimit hbegins henough
  rw [samplesOfText_ok htext]
  cases got with
  | nil => rw [hnil.mp rfl]
  | cons r got =>
    cases hall : fileRecords p cs with
    | nil => exact absurd (hnil.mpr hall) (List.cons_ne_nil r got)
    | cons r' rs =>
      rw [hall] at hfirst
      exact congrArg Except.ok hfirst

/-- the records of a document are read as a whole -/
theorem samplesOfText_document (hlines : isLineFile p = false) (limit : Option Int) :
    samplesOfText p limit { chars := cs } =
      (recordsOfDocument p cs).bind fun rs => (found p rs).map (firstRecords limit) := by
  have htext : recordsOfText p limit { chars := cs } = recordsOfDocument p cs := by
    rw [recordsOfText, hlines]
    rfl
  cases hrecords : recordsOfDocument p cs with
  | error f => exact samplesOfText_error (htext.trans hrecords)
  | ok rs => exact samplesOfText_ok (htext.trans hrecords)

/-- What the loading of a text comes to with the fault `f`, whatever the limit is: the records up to
it, or the fault that there are none. -/
def LoadsAs (p : Pathname) (cs : List Char) (f : LoadFault) (limit : Option Int) : Prop :=
  (fileRecords p cs = [] ∧ samplesOfText p limit { chars := cs } = .error f) ∨
    (fileRecords p cs ≠ [] ∧
      samplesOfText p limit { chars := cs } = .ok (firstRecords limit (fileRecords p cs)))

theorem loadsAs_of_found (h : samplesOfText p limit { chars := cs } =
    (found p (fileRecords p cs)).map (firstRecords limit)) :
    LoadsAs p cs (.noRecords p) limit := by
  unfold LoadsAs
  rw [h]
  cases hrecords : fileRecords p cs with
  | nil => exact .inl ⟨rfl, rfl⟩
  | cons r rs => exact .inr ⟨List.cons_ne_nil r rs, rfl⟩

theorem loadsAs_document (hlines : isLineFile p = false) (h : ¬ IsHuge cs) :
    ∃ f : LoadFault, f.IsReported ∧ ∀ limit, LoadsAs p cs f limit := by
  have hrecords : fileRecords p cs = (Json.readChars cs).toOption.toList.flatMap recordsOf := by
    rw [fileRecords, documentValues, documents, hlines]
    cases hread : Json.readChars cs <;> simp [hread, Except.toOption]
  cases hread : Json.readChars cs with
  | ok v =>
    refine ⟨.noRecords p, ⟨_, rfl⟩, fun limit => loadsAs_of_found ?_⟩
    rw [samplesOfText_document hlines, recordsOfDocument, hrecords, hread]
    simp [Except.bind, Except.toOption]
  | error f =>
    rw [Json.isHuge_iff hread] at h
    refine ⟨.invalid p f, ⟨_, rfl⟩, fun limit => .inl ⟨?_, ?_⟩⟩
    · rw [hrecords, hread]
      rfl
    · rw [samplesOfText_document hlines, recordsOfDocument, hread]
      simp [Except.bind, h]

theorem loadsAs_text (h : ∀ t ∈ documents p cs, ¬ IsHuge t) :
    ∃ f : LoadFault, f.IsReported ∧
      ∀ limit : Option Int, (∀ n ∈ limit, 1 ≤ n) → LoadsAs p cs f limit := by
  cases hlines : isLineFile p with
  | true =>
    exact ⟨.noRecords p, ⟨_, rfl⟩, fun _ hlimit =>
      loadsAs_of_found (samplesOfText_lines hlines h hlimit)⟩
  | false =>
    rw [documents, hlines] at h
    obtain ⟨f, hf, hloads⟩ := loadsAs_document hlines (h cs (List.mem_singleton.mpr rfl))
    exact ⟨f, hf, fun limit _ => hloads limit⟩

/-- Loading a file with a limit agrees with loading all of it.  The records of its text come in the
order of the file, each of them an object that a document is or holds; where there are some, the
limit takes the first of them, and where there are none, both stop with the same reported fault. -/
theorem limit_takes_first {bs : List Nat} (hbytes : d.bytes p = .ok bs)
    (htext : Text.ofFile bs = .ok cs) (hintegers : ∀ t ∈ documents p cs, ¬ IsHuge t)
    (hn : 1 ≤ n) :
    let rs := fileRecords p cs
    let first := rs.take (min n.toNat rs.length)
    (rs.map .obj = ((documentValues p cs).flatMap candidates).filter Json.isRecord) ∧
    (rs ≠ [] → loadSamples d p none = .ok rs ∧ loadSamples d p (some n) = .ok first ∧ first ≠ []) ∧
    (rs = [] → ∃ f : LoadFault, f.IsReported ∧ loadSamples d p none = .error f ∧
      loadSamples d p (some n) = .error f) := by
  intro rs first
  have hfirst : firstRecords (some n) rs = first := by
    rw [firstRecords_of_pos hn]
    exact List.take_eq_take_min
  obtain ⟨f, hf, hloads⟩ := loadsAs_text hintegers
  have hall := hloads none (by simp)
  have hlimited := hloads (some n) (by simpa using hn)
  rw [LoadsAs, ← loadSamples_of_text hbytes htext] at hall hlimited
  refine ⟨map_obj_fileRecords p cs, fun hne => ?_, fun hnil => ⟨f, hf, ?_, ?_⟩⟩
  · obtain ⟨-, hall⟩ := hall.resolve_left fun h => hne h.1
    obtain ⟨-, hlimited⟩ := hlimited.resolve_left fun h => hne h.1
    refine ⟨hall, hfirst ▸ hlimited, ?_⟩
    have hlen := List.length_pos_of_ne_nil hne
    exact List.ne_nil_of_length_pos (by rw [List.length_take]; omega)
  · exact (hall.resolve_right fun h => h.1 hnil).2
  · exact (hlimited.resolve_right fun h => h.1 hnil).2

/-- a response with two records, a blank line, a line that cannot be read, and a record; the reading
stops after the first line, which holds more than is asked for -/
theorem limit_takes_first_wrapped :
    let response : Json := .obj [("hits", .arr [.obj [("a", .bool true)], .null, .obj []])]
    let cs := Json.chars id response ++ ['\n', '\n', 'x', '\n'] ++ Json.chars id (.obj [])
    let d : Disk := { items := [(⟨["s.jsonl"]⟩, .file (Text.utf8 (String.ofList cs)))] }
    let p : Pathname := ⟨0, ["s.jsonl"]⟩
    d.bytes p = .ok (Text.utf8 (String.ofList cs)) ∧
      Text.ofFile (Text.utf8 (String.ofList cs)) = .ok cs ∧
      (∀ t ∈ documents p cs, ¬ IsHuge t) ∧ (1 : Int) ≤ 1 ∧
      loadSamples d p none = .ok [[("a", .bool true)], [], []] ∧
      loadSamples d p (some 1) = .ok [[("a", .bool true)]] := by
  intro response cs d p
  have hbytes : d.bytes p = .ok (Text.utf8 (String.ofList cs)) := rfl
  have hlist : (String.ofList cs).toList = cs := String.toList_ofList
  have htext : Text.ofFile (Text.utf8 (String.ofList cs)) = .ok cs := by
    have hcr : '\r' ∉ (String.ofList cs).toList := by
      rw [hlist]
      decide +kernel
    rw [Text.ofFile_utf8 hcr, hlist]
  have hshort : ¬ Json.Overlong cs := by
    rintro ⟨ds, hds, -, hlong⟩
    exact absurd (Nat.lt_of_lt_of_le hlong hds.length_le) (by decide +kernel)
  have hintegers : ∀ t ∈ documents p cs, ¬ IsHuge t :=
    fun t => not_isHuge_of_mem_documents hshort
  have hrecords : fileRecords p cs = [[("a", .bool true)], [], []] := by
    show fileRecords ⟨0, ["s.jsonl"]⟩ cs = _
    rfl
  have hne : fileRecords p cs ≠ [] := by
    rw [hrecords]
    exact List.cons_ne_nil _ _
  obtain ⟨hall, hlimited, -⟩ :=
    (limit_takes_first hbytes htext hintegers (Int.le_refl 1)).2.1 hne
  rw [hrecords] at hall hlimited
  exact ⟨hbytes, htext, hintegers, Int.le_refl 1, hall, hlimited⟩

end SampleTypes
