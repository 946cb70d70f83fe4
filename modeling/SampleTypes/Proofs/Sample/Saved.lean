import SampleTypes.Proofs.Fields
import SampleTypes.Proofs.Json.Printable
import SampleTypes.Proofs.Text.Lines
import SampleTypes.Proofs.Text.Utf8
import SampleTypes.Sample.File

/-!
# Saved records

Records are saved as the text of their list, or with the text of one on every line.  A file of the
first kind gives the records back.  In one of the second kind every line is a document of its own,
so a record with a list at `hits` passes for a search response there, and what is in the list
takes its place.

* `ReadsBack v`           a value that comes back from its text;
* `linesText rs`          the texts of records, one on every line;
* `HoldsHits r`           a record with a list at `hits`;
* `recordsOfLines_saved`  the records of lines that hold one each;
* `flatMap_recordsIn_eq_iff`   when documents that are records stand for themselves;
* `saved_records_load`    the main statement.
-/

namespace SampleTypes

/-- a value that comes back from its text -/
def ReadsBack (v : Json) : Prop := Json.readChars (Json.chars id v) = .ok v

/-- the texts of records, one on every line; the last line has no end -/
def linesText (rs : List Record) : String :=
  String.ofList (Json.joinWith ['\n'] (rs.map fun r => Json.chars id (.obj r)))

/-- a record with a list at `hits` -/
def HoldsHits (r : Record) : Prop := ∃ xs, r.lookup "hits" = some (.arr xs)

/-- the records of a document that is a record -/
def recordsIn (r : Record) : List Record := recordsOf (.obj r)

/-- some records, or the fault that there is none -/
def found (p : Pathname) : List Record → Except LoadFault (List Record)
  | [] => .error (.noRecords p)
  | rs => .ok rs

variable {d : Disk} {p : Pathname} {r : Record} {rs : List Record}

theorem found_eq_ok_iff (h : rs ≠ []) (ss : List Record) : found p ss = .ok rs ↔ ss = rs := by
  cases ss with
  | nil => simp [found, Ne.symm h]
  | cons s ss => simp [found]

/-! ## the records of a record -/

theorem recordsOf_arr (rs : List Record) : recordsOf (.arr (rs.map .obj)) = rs := by
  show (rs.map Json.obj).filterMap Json.record? = rs
  rw [List.filterMap_map]
  exact List.filterMap_some

theorem recordsIn_of_hits {xs : List Json} (h : r.lookup "hits" = some (.arr xs)) :
    recordsIn r = xs.filterMap Json.record? := by
  have hhits : (Json.obj r).record?.bind (·.lookup "hits") = some (.arr xs) := h
  unfold recordsIn recordsOf
  rw [hhits]
  rfl

theorem recordsIn_plain (h : ¬ HoldsHits r) : recordsIn r = [r] := by
  unfold recordsIn recordsOf
  split
  · next hits hhits => exact absurd ⟨hits, hhits⟩ h
  · rfl

/-- the sizes of records together -/
noncomputable def weight : List Record → Nat
  | [] => 0
  | r :: rs => sizeOf r + weight rs

theorem weight_append (rs ss : List Record) : weight (rs ++ ss) = weight rs + weight ss := by
  induction rs with
  | nil => exact (Nat.zero_add _).symm
  | cons r rs ih =>
    show sizeOf r + weight (rs ++ ss) = sizeOf r + weight rs + weight ss
    omega

theorem weight_filterMap_le (xs : List Json) :
    weight (xs.filterMap Json.record?) ≤ sizeOf xs := by
  induction xs with
  | nil => exact Nat.zero_le _
  | cons x xs ih =>
    have hsize : sizeOf (x :: xs) = 1 + sizeOf x + sizeOf xs := rfl
    cases x with
    | obj fs =>
      have hx : sizeOf (Json.obj fs) = 1 + sizeOf fs := Json.obj.sizeOf_spec fs
      have hweight : weight ((Json.obj fs :: xs).filterMap Json.record?) =
          sizeOf fs + weight (xs.filterMap Json.record?) := rfl
      omega
    | null | bool | int | float | str | arr =>
      exact Nat.le_trans ih (by omega)

/-- records that stand in the list at `hits` are smaller together than the record -/
theorem weight_recordsIn_lt (h : HoldsHits r) : weight (recordsIn r) < sizeOf r := by
  obtain ⟨xs, hxs⟩ := h
  have hmem : ("hits", Json.arr xs) ∈ r := Fields.mem_of_lookup hxs
  have hr := List.sizeOf_lt_of_mem hmem
  have hfield : sizeOf ("hits", Json.arr xs) = 1 + sizeOf "hits" + sizeOf (Json.arr xs) := rfl
  have harr : sizeOf (Json.arr xs) = 1 + sizeOf xs := Json.arr.sizeOf_spec xs
  have hle := weight_filterMap_le xs
  rw [recordsIn_of_hits hxs]
  omega

theorem weight_recordsIn_le (r : Record) : weight (recordsIn r) ≤ sizeOf r := by
  by_cases h : HoldsHits r
  · exact Nat.le_of_lt (weight_recordsIn_lt h)
  · rw [recordsIn_plain h]
    exact Nat.le_refl _

theorem weight_flatMap_le (rs : List Record) : weight (rs.flatMap recordsIn) ≤ weight rs := by
  induction rs with
  | nil => exact Nat.le_refl _
  | cons r rs ih =>
    have hr := weight_recordsIn_le r
    rw [List.flatMap_cons, weight_append]
    exact Nat.add_le_add hr ih

theorem weight_flatMap_lt (h : ∃ r ∈ rs, HoldsHits r) :
    weight (rs.flatMap recordsIn) < weight rs := by
  induction rs with
  | nil => simp at h
  | cons r rs ih =>
    have hr := weight_recordsIn_le r
    have hrs := weight_flatMap_le rs
    obtain ⟨s, hs, hhits⟩ := h
    have hlt : weight (recordsIn r) < sizeOf r ∨ weight (rs.flatMap recordsIn) < weight rs := by
      rcases List.mem_cons.mp hs with rfl | hs
      · exact .inl (weight_recordsIn_lt hhits)
      · exact .inr (ih ⟨s, hs, hhits⟩)
    rw [List.flatMap_cons, weight_append]
    show _ < sizeOf r + weight rs
    omega

/-- Records stand for themselves only if none of them holds a list at `hits`: what is taken out of
such a list is smaller, and nothing makes up for it. -/
theorem flatMap_recordsIn_eq_iff : rs.flatMap recordsIn = rs ↔ ∀ r ∈ rs, ¬ HoldsHits r := by
  constructor
  · intro h r hr hhits
    have hlt := weight_flatMap_lt ⟨r, hr, hhits⟩
    rw [h] at hlt
    exact Nat.lt_irrefl _ hlt
  · intro h
    induction rs with
    | nil => rfl
    | cons r rs ih =>
      rw [List.flatMap_cons, recordsIn_plain (h r List.mem_cons_self),
        ih fun s hs => h s (List.mem_cons_of_mem r hs)]
      rfl

/-! ## files -/

theorem loadSamples_of_text {bs : List Nat} {cs : List Char} (hbytes : d.bytes p = .ok bs)
    (htext : Text.ofFile bs = .ok cs) (limit : Option Int) :
    loadSamples d p limit = samplesOfText p limit { chars := cs } := by
  unfold loadSamples Disk.readable
  rw [hbytes]
  show samplesOfText p limit (.ofBytes bs) = _
  unfold Readable.ofBytes
  rw [htext]

theorem samplesOfText_ok {t : Readable} {limit : Option Int} {rs : List Record}
    (h : recordsOfText p limit t = .ok rs) :
    samplesOfText p limit t = (found p rs).map (firstRecords limit) := by
  unfold samplesOfText
  rw [h]
  cases rs <;> rfl

/-- without a limit the records are those of the text -/
theorem samplesOfText_found {t : Readable} (h : recordsOfText p none t = .ok rs) :
    samplesOfText p none t = found p rs := by
  rw [samplesOfText_ok h]
  cases rs <;> rfl

/-- the text of a value comes back from a file, since it holds no line end -/
theorem ofFile_text (v : Json) : Text.ofFile (Text.utf8 v.text) = .ok (Json.chars id v) := by
  have hlist : v.text.toList = Json.chars id v := String.toList_ofList
  have hcr : '\r' ∉ v.text.toList := by
    rw [hlist]
    exact Json.notMem_chars rfl v
  rw [Text.ofFile_utf8 hcr, hlist]

theorem lineDocument_record (h : ReadsBack (.obj r)) :
    lineDocument (Json.chars id (.obj r)) = .ok (some (.obj r)) := by
  obtain ⟨inner, hinner⟩ := Json.chars_record_ends r
  unfold ReadsBack at h
  unfold lineDocument
  rw [hinner] at h ⊢
  rw [Text.trimWith_of_ends rfl rfl]
  dsimp only
  rw [h]

/-- lines that hold a record each, and blank lines after them -/
theorem recordsOfLines_saved (h : ∀ r ∈ rs, ReadsBack (.obj r)) (got : List Record)
    {rest : List (List Char)} (hrest : recordsOfLines none none (got ++ rs.flatMap recordsIn) rest =
      .ok (got ++ rs.flatMap recordsIn)) :
    recordsOfLines none none got ((rs.map fun r => Json.chars id (.obj r)) ++ rest) =
      .ok (got ++ rs.flatMap recordsIn) := by
  induction rs generalizing got with
  | nil => simpa using hrest
  | cons r rs ih =>
    rw [List.flatMap_cons, ← List.append_assoc] at hrest ⊢
    have hr : ReadsBack (.obj r) := h r List.mem_cons_self
    rw [List.map_cons, List.cons_append, recordsOfLines, lineDocument_record hr]
    exact ih (fun s hs => h s (List.mem_cons_of_mem r hs)) (got ++ recordsIn r) hrest

theorem lines_linesText (h : rs ≠ []) {lineEnd : String} (hend : lineEnd ∈ ["", "\n"]) :
    ∃ rest, (rest = [] ∨ rest = [[]]) ∧ Text.lines (linesText rs ++ lineEnd).toList =
      (rs.map fun r => Json.chars id (.obj r)) ++ rest := by
  have hne : (rs.map fun r => Json.chars id (.obj r)) ≠ [] := by simpa using h
  have hline : ∀ l ∈ rs.map fun r => Json.chars id (.obj r), '\n' ∉ l := by
    intro l hl
    obtain ⟨r, -, rfl⟩ := List.mem_map.mp hl
    exact Json.notMem_chars rfl _
  obtain ⟨hall, hmore⟩ := Text.splitAt_joinWith hne hline
  unfold linesText Text.lines
  rw [String.toList_append, String.toList_ofList]
  rcases List.mem_pair.mp hend with rfl | rfl
  · exact ⟨[], .inl rfl, by simpa using hall⟩
  · exact ⟨[[]], .inr rfl, hmore []⟩

theorem notMem_linesText (rs : List Record) {lineEnd : String} (hend : lineEnd ∈ ["", "\n"]) :
    '\r' ∉ (linesText rs ++ lineEnd).toList := by
  unfold linesText
  rw [String.toList_append, String.toList_ofList]
  intro h
  rcases List.mem_append.mp h with h | h
  · rcases Json.mem_joinWith h with h | ⟨t, ht, h⟩
    · exact absurd (List.mem_singleton.mp h) (by decide)
    · obtain ⟨r, -, rfl⟩ := List.mem_map.mp ht
      exact Json.notMem_chars rfl _ h
  · rcases List.mem_pair.mp hend with rfl | rfl <;> simp at h

/-- what a file with one record on every line gives -/
theorem loadSamples_lines (hlines : isLineFile p = true) (hne : rs ≠ [])
    (h : ∀ r ∈ rs, ReadsBack (.obj r)) {lineEnd : String} (hend : lineEnd ∈ ["", "\n"])
    (hbytes : d.bytes p = .ok (Text.utf8 (linesText rs ++ lineEnd))) :
    loadSamples d p none = found p (rs.flatMap recordsIn) := by
  obtain ⟨rest, hrest, hsplit⟩ := lines_linesText hne hend
  rw [loadSamples_of_text hbytes (Text.ofFile_utf8 (notMem_linesText rs hend))]
  apply samplesOfText_found
  unfold recordsOfText
  rw [if_pos hlines]
  show recordsOfLines none none [] (Text.lines _) = _
  rw [hsplit]
  refine recordsOfLines_saved h [] ?_
  rcases hrest with rfl | rfl <;> rfl

/-- a file with the text of a list gives the records of the list -/
theorem loadSamples_list (hwhole : isLineFile p = false) (hne : rs ≠ [])
    (h : ReadsBack (.arr (rs.map .obj)))
    (hbytes : d.bytes p = .ok (Text.utf8 (Json.text (.arr (rs.map .obj))))) :
    loadSamples d p none = .ok rs := by
  have htext : recordsOfText p none ⟨Json.chars id (.arr (rs.map .obj)), none⟩ = .ok rs := by
    unfold recordsOfText
    rw [hwhole]
    show recordsOfDocument p _ = _
    unfold recordsOfDocument
    rw [h]
    exact congrArg Except.ok (recordsOf_arr rs)
  rw [loadSamples_of_text hbytes (ofFile_text _), samplesOfText_found htext]
  exact (found_eq_ok_iff hne rs).mpr rfl

/-- Records saved as one list come back.  Saved with one on every line they come back if and only if
none of them holds a list at `hits`; in the place of one that does stand the records of that
list. -/
theorem saved_records_load (d : Disk) (p : Pathname) {rs : List Record} (hne : rs ≠ [])
    (hlist : ReadsBack (.arr (rs.map .obj))) (hrecords : ∀ r ∈ rs, ReadsBack (.obj r)) :
    (isLineFile p = false →
      d.bytes p = .ok (Text.utf8 (Json.text (.arr (rs.map .obj)))) →
      loadSamples d p none = .ok rs) ∧
    (isLineFile p = true → ∀ lineEnd ∈ ["", "\n"],
      d.bytes p = .ok (Text.utf8 (linesText rs ++ lineEnd)) →
      loadSamples d p none = found p (rs.flatMap recordsIn) ∧
        (loadSamples d p none = .ok rs ↔ ∀ r ∈ rs, ¬ HoldsHits r)) := by
  constructor
  · intro hwhole hbytes
    exact loadSamples_list hwhole hne hlist hbytes
  · intro hlines lineEnd hend hbytes
    have hload := loadSamples_lines hlines hne hrecords hend hbytes
    refine ⟨hload, ?_⟩
    rw [hload, found_eq_ok_iff hne]
    exact flatMap_recordsIn_eq_iff

/-- two records, one with null at `hits`, in a file of each kind -/
theorem saved_records_load_two :
    let rs : List Record := [[("id", .str "1"), ("hits", .null)],
      [("name", .str "é"), ("tags", .arr [.bool true, .obj []])]]
    let d : Disk := { items := [
      (⟨["s.json"]⟩, .file (Text.utf8 (Json.text (.arr (rs.map .obj))))),
      (⟨["s.jsonl"]⟩, .file (Text.utf8 (linesText rs ++ "\n")))] }
    (rs ≠ [] ∧ ReadsBack (.arr (rs.map .obj)) ∧ ∀ r ∈ rs, ReadsBack (.obj r)) ∧
      loadSamples d ⟨0, ["s.json"]⟩ none = .ok rs ∧
      loadSamples d ⟨0, ["s.jsonl"]⟩ none = .ok rs := by
  intro rs d
  have hne : rs ≠ [] := List.cons_ne_nil _ _
  have hlist : ReadsBack (.arr (rs.map .obj)) := rfl
  have hrecords : ∀ r ∈ rs, ReadsBack (.obj r) := by
    intro r hr
    rcases List.mem_pair.mp hr with rfl | rfl <;> rfl
  have hplain : ∀ r ∈ rs, ¬ HoldsHits r := by
    rintro r hr ⟨xs, hxs⟩
    rcases List.mem_pair.mp hr with rfl | rfl <;> cases hxs
  have hwhole := (saved_records_load d ⟨0, ["s.json"]⟩ hne hlist hrecords).1 rfl rfl
  have hlines :=
    (saved_records_load d ⟨0, ["s.jsonl"]⟩ hne hlist hrecords).2 rfl "\n" (by simp) rfl
  exact ⟨⟨hne, hlist, hrecords⟩, hwhole, hlines.2.mpr hplain⟩

/-- a record whose `hits` are an empty list comes back from a list, but not from a line -/
theorem record_with_hits_lost :
    let rs : List Record := [[("id", .str "1"), ("hits", .arr [])]]
    let d : Disk := { items := [
      (⟨["s.json"]⟩, .file (Text.utf8 (Json.text (.arr (rs.map .obj))))),
      (⟨["s.jsonl"]⟩, .file (Text.utf8 (linesText rs ++ "\n")))] }
    (ReadsBack (.arr (rs.map .obj)) ∧ ∀ r ∈ rs, ReadsBack (.obj r)) ∧
      loadSamples d ⟨0, ["s.json"]⟩ none = .ok rs ∧
      loadSamples d ⟨0, ["s.jsonl"]⟩ none = .error (.noRecords ⟨0, ["s.jsonl"]⟩) := by
  intro rs d
  have hne : rs ≠ [] := List.cons_ne_nil _ _
  have hlist : ReadsBack (.arr (rs.map .obj)) := rfl
  have hrecords : ∀ r ∈ rs, ReadsBack (.obj r) := by
    intro r hr
    rw [List.mem_singleton.mp hr]
    rfl
  have hbytes : d.bytes ⟨0, ["s.jsonl"]⟩ = .ok (Text.utf8 (linesText rs ++ "\n")) := rfl
  have hnone : rs.flatMap recordsIn = [] := rfl
  have hlines : isLineFile ⟨0, ["s.jsonl"]⟩ = true := rfl
  have hload := loadSamples_lines hlines hne hrecords (by simp) hbytes
  rw [hnone] at hload
  exact ⟨⟨hlist, hrecords⟩, loadSamples_list rfl hne hlist rfl, hload⟩

end SampleTypes
