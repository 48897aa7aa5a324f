import TidyTable.Proofs.Fidelity

/-!
# Which texts are refused

A text is refused for one of two reasons: it has no record, or one of its records is longer than the
first. In the second case the failure names the first such record, whatever comes behind it
(`Csv.Refuses`).

No other failure of a text table can come up. The fields of a text are text, since the delimiter is
a byte of ASCII; every row of a table that was read and cleaned up is as long as its header; and
what is written for texts is text. So all that can be wrong is found while reading.
-/

namespace TidyTable

namespace Csv

variable {settings : Settings} {read : List Record} {failure : Failure}

/-- Why records are no table. -/
inductive Refuses : List Record → Failure → Prop where
  | noRecord : Refuses [] .noColumns
  /-- A record is longer than the header, and all before it are not. -/
  | longRecord {header record : Record} {before after : List Record} :
      (∀ r ∈ before, r.fields.length ≤ header.fields.length) →
      header.fields.length < record.fields.length →
      Refuses (header :: (before ++ record :: after))
        (.longRecord header.fields.length record.position.line record.fields.length)

/-- Both reasons are failures of parsing. -/
theorem Refuses.kind (h : Refuses read failure) : failure.report.kind = .parse := by
  cases h with
  | noRecord => rfl
  | longRecord => rfl

/-- If some record is too long, there is a first one. -/
theorem exists_refuses_iff : (∃ failure, Refuses read failure) ↔
    read = [] ∨ ∃ header rest, read = header :: rest ∧
      ∃ record ∈ rest, header.fields.length < record.fields.length := by
  constructor
  · rintro ⟨failure, h⟩
    cases h with
    | noRecord => exact Or.inl rfl
    | longRecord _ hlong =>
      exact Or.inr ⟨_, _, rfl, _, List.mem_append_right _ List.mem_cons_self, hlong⟩
  · rintro (rfl | ⟨header, rest, rfl, hrecord⟩)
    · exact ⟨_, .noRecord⟩
    · have hsome : (rest.find? fun r => header.fields.length < r.fields.length).isSome := by
        simpa using hrecord
      obtain ⟨record, hfind⟩ := Option.isSome_iff_exists.mp hsome
      obtain ⟨hlong, before, after, rfl, hbefore⟩ := List.find?_eq_some_iff_append.mp hfind
      exact ⟨_, .longRecord (fun r hr => by simpa using hbefore r hr) (by simpa using hlong)⟩

/-! ## Reading -/

variable {width : Nat} {nestedIndex : Option Nat} {record : Record} {texts : List String}

theorem exists_row_iff (h : record.fields = texts.map Text.utf8) :
    (∃ cells, row width nestedIndex record = .ok cells) ↔ record.fields.length ≤ width := by
  rw [row_of_texts h, h, List.length_map]
  split
  · rename_i hle
    exact ⟨fun _ => hle, fun _ => ⟨_, rfl⟩⟩
  · rename_i hlong
    exact ⟨nofun, fun hle => absurd hle hlong⟩

theorem row_eq_error_iff (h : record.fields = texts.map Text.utf8) :
    row width nestedIndex record = .error failure ↔ width < record.fields.length ∧
      failure = .longRecord width record.position.line record.fields.length := by
  rw [row_of_texts h, h, List.length_map]
  split
  · rename_i hle
    exact ⟨nofun, fun hlong => absurd hle (Nat.not_le.mpr hlong.1)⟩
  · rename_i hlong
    exact ⟨fun e => ⟨Nat.not_le.mp hlong, (Except.error.inj e).symm⟩, fun e => by rw [e.2]⟩

/-- **Records of texts are no table exactly if one of them is too long or there is none.** -/
theorem tableOf_eq_error_iff (settings : Settings) {rows : List (List String)}
    (h : read.map Record.fields = rows.map (·.map Text.utf8)) :
    tableOf settings read = .error failure ↔ Refuses read failure := by
  cases rows with
  | nil =>
    obtain rfl := List.map_eq_nil_iff.mp h
    refine ⟨fun e => Except.error.inj e ▸ .noRecord, fun hrefused => ?_⟩
    cases hrefused
    rfl
  | cons header rows =>
    obtain ⟨first, rest, rfl, hfirst, hrest⟩ := List.map_eq_cons_iff.mp h
    have htexts : ∀ record ∈ rest, ∃ texts : List String, record.fields = texts.map Text.utf8 := by
      intro record hrecord
      have hmem := List.mem_map_of_mem (f := Record.fields) hrecord
      rw [hrest] at hmem
      obtain ⟨texts, _, heq⟩ := List.mem_map.mp hmem
      exact ⟨texts, heq.symm⟩
    have hwidth : first.fields.length = header.length := by rw [hfirst, List.length_map]
    rw [tableOf_cons settings hfirst, map_eq_error_iff, mapM_eq_error_iff, ← hwidth]
    constructor
    · rintro ⟨before, record, after, rfl, hbefore, hrecord⟩
      obtain ⟨texts, hfields⟩ := htexts record (List.mem_append_right _ List.mem_cons_self)
      obtain ⟨hlong, rfl⟩ := (row_eq_error_iff hfields).mp hrecord
      refine .longRecord (fun r hr => ?_) hlong
      obtain ⟨texts, hfields⟩ := htexts r (List.mem_append_left _ hr)
      exact (exists_row_iff hfields).mp (hbefore r hr)
    · intro hrefused
      cases hrefused with
      | @longRecord _ record before after hbefore hlong =>
        refine ⟨before, record, after, rfl, fun r hr => ?_, ?_⟩
        · obtain ⟨texts, hfields⟩ := htexts r (List.mem_append_left _ hr)
          exact (exists_row_iff hfields).mpr (hbefore r hr)
        · obtain ⟨texts, hfields⟩ := htexts record (List.mem_append_right _ List.mem_cons_self)
          exact (row_eq_error_iff hfields).mpr ⟨hlong, rfl⟩

end Csv

namespace Table

variable {settings : Settings} {content : String} {failure : Failure}

/-- A text is no table exactly if its records are none. -/
theorem ofCsv_eq_error_iff (hs : settings.fault? = none) :
    ofCsv settings content = .error failure ↔
      Csv.Refuses (Csv.recordsOf settings content) failure := by
  obtain ⟨rows, hrows⟩ := Csv.exists_reads (Settings.toNat_delimiterByte hs).2
    (Text.isText_utf8 (Csv.dropMark content))
  have htable : Csv.tableOf settings (Csv.recordsOf settings content) = .error failure ↔ _ :=
    Csv.tableOf_eq_error_iff settings hrows
  rw [← htable]
  unfold ofCsv
  cases Csv.tableOf settings (Csv.recordsOf settings content) with
  | error e => exact ⟨fun e => e, fun e => e⟩
  | ok t => exact ⟨nofun, nofun⟩

end Table

/-! ## Processing -/

namespace Processor

variable {settings : Settings} {p : Processor} {s : String} {failure : Failure}

/-- Processing a text fails where reading it does, and nowhere else. -/
theorem process_text_eq_error_iff (hvalid : p.settings.fault? = none) :
    p.process .csv (.text s) = .error failure ↔
      s ≠ Payload.emptyCsv ∧ Table.ofCsv p.settings s = .error failure := by
  by_cases hs : s = Payload.emptyCsv
  · rw [hs]
    exact ⟨nofun, fun h => absurd rfl h.1⟩
  have hrun : p.process .csv (.text s) = (p.processCsv s).map .text := if_neg (by simpa using hs)
  rw [hrun, map_eq_error_iff]
  unfold processCsv
  cases hread : Table.ofCsv p.settings s with
  | error e =>
    show (Except.error e : Except Failure String) = _ ↔ _
    rw [Except.error.injEq, Except.error.injEq]
    exact ⟨fun h => ⟨hs, h⟩, fun h => h.2⟩
  | ok t =>
    -- the table is well-formed, and such a table is written
    obtain ⟨content, hwrite, _⟩ :=
      Table.toCsv_reads hvalid ((Table.wellFormed_of_ofCsv hvalid hread).process p)
    show (p.processTable t).toCsv p.settings = _ ↔ _
    rw [hwrite]
    exact ⟨nofun, fun h => absurd h.2 nofun⟩

/-- **Texts are refused for two reasons only.** They have no record, or a record behind the first is
longer than it. The failure is one of parsing, and the first record that is too long decides it. -/
theorem process_text_refuses (hp : ofSettings settings = .ok p) (s : String) :
    ((∃ failure, p.process .csv (.text s) = .error failure) ↔
      s ≠ Payload.emptyCsv ∧ (Csv.recordsOf settings s = [] ∨
        ∃ header rest, Csv.recordsOf settings s = header :: rest ∧
          ∃ record ∈ rest, header.fields.length < record.fields.length)) ∧
      ∀ failure, p.process .csv (.text s) = .error failure →
        failure.report.kind = .parse ∧ Csv.Refuses (Csv.recordsOf settings s) failure := by
  obtain ⟨rfl, hvalid⟩ := settings_of_ofSettings hp
  have hrefuses (failure : Failure) : p.process .csv (.text s) = .error failure ↔
      s ≠ Payload.emptyCsv ∧ Csv.Refuses (Csv.recordsOf p.settings s) failure := by
    rw [process_text_eq_error_iff hvalid, Table.ofCsv_eq_error_iff hvalid]
  refine ⟨?_, fun failure h => ?_⟩
  · simp only [hrefuses, exists_and_left, Csv.exists_refuses_iff]
  · have hrefused := ((hrefuses failure).mp h).2
    exact ⟨hrefused.kind, hrefused⟩

/-- A record that is filled up, one behind it that is too long, and another such. -/
theorem process_text_refuses_third_line :
    let s := "a,b\n1\n2,3,4\n5,6,7,8\n"
    ofSettings {} = .ok standard ∧
      standard.process .csv (.text s) = .error (.longRecord 2 3 3) ∧
      ((∃ failure, standard.process .csv (.text s) = .error failure) ↔
        s ≠ Payload.emptyCsv ∧ (Csv.recordsOf {} s = [] ∨
          ∃ header rest, Csv.recordsOf {} s = header :: rest ∧
            ∃ record ∈ rest, header.fields.length < record.fields.length)) ∧
        ∀ failure, standard.process .csv (.text s) = .error failure →
          failure.report.kind = .parse ∧ Csv.Refuses (Csv.recordsOf {} s) failure := by
  intro s
  have hs : s ≠ Payload.emptyCsv := by decide
  have hread : Table.ofCsv {} s = .error (.longRecord 2 3 3) := by decide +kernel
  have hprocess : standard.process .csv (.text s) = .error (.longRecord 2 3 3) :=
    (process_text_eq_error_iff (by decide)).mpr ⟨hs, hread⟩
  exact ⟨ofSettings_standard, hprocess, process_text_refuses ofSettings_standard s⟩

end Processor

end TidyTable
