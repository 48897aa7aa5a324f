import TidyTable.Proofs.Sheet.Places
import TidyTable.Proofs.Sheet.Reading
import TidyTable.Proofs.Sheet.Writing
import TidyTable.Proofs.Tabulation

/-!
# Texts in sheets

The same texts can be given as the records of a text table and as the values of a sheet. The two are
read in different ways. Records are classified one field at a time and filled up, while a sheet is
first reduced to the rectangle that is used, in which empty texts do not count.

They agree if the texts are a rectangle whose edges are not blank (`Tabular`). Then the rectangle
that is used is the one of the texts (`used_texts`), blank rows and columns inside of it included,
and each text is read as it is from a record.
-/

namespace TidyTable

/-- Texts that make a table: a header without blank names, and rows of its length of which the last
one is not blank. -/
structure Tabular (header : List String) (rows : List (List String)) : Prop where
  ne_nil : header ≠ []
  names : "" ∉ header
  length_row : ∀ texts ∈ rows, texts.length = header.length
  last_row : ∀ texts ∈ rows.getLast?, ∃ text ∈ texts, text ≠ ""

namespace Sheet

variable {settings : Settings} {header : List String} {rows : List (List String)} {sheet : Sheet}

/-- The value of a text; an empty text is none. -/
def textValue (text : String) : Scalar := if text.isEmpty then .empty else .text text

/-- The text in a place, an empty one if there is none. -/
def textAt (texts : List (List String)) (i j : Nat) : String := (texts[i]?.getD [])[j]?.getD ""

/-- What a sheet stores in a place. -/
def entryAt (sheet : Sheet) (i j : Nat) : Entry :=
  (sheet.cells[i]?.getD [])[j]?.getD (.value .empty)

/-- A sheet holds texts from its upper left corner on and nothing else. -/
def Holds (sheet : Sheet) (texts : List (List String)) : Prop :=
  ∀ i j, (sheet.entryAt i j).read? = some (textValue (textAt texts i j))

/-- The values of texts. -/
def textGrid (texts : List (List String)) : Grid := texts.map (·.map textValue)

/-! ## Values -/

theorem textValue_of_ne {text : String} (h : text ≠ "") : textValue text = .text text := by
  unfold textValue
  rw [String.isEmpty_eq_false_iff.mpr h, if_neg Bool.false_ne_true]

theorem header_textValue (text : String) : Sheet.header (textValue text) = text := by
  unfold textValue
  split
  · rename_i h
    exact (String.isEmpty_iff.mp h).symm
  · rfl

theorem ofScalar_textValue (nested : Bool) (text : String) :
    Cell.ofScalar nested (textValue text) = Cell.ofText nested text := by
  unfold textValue
  split
  · rename_i h
    unfold Cell.ofText
    rw [if_pos h]
    rfl
  · rfl

theorem value_textGrid (texts : List (List String)) (i j : Nat) :
    (textGrid texts).value i j = textValue (textAt texts i j) :=
  Grid.value_map rfl texts i j

/-- A sheet that holds texts can be read, and the values in its places are those of the texts. -/
theorem exists_values_of_holds {texts : List (List String)} (h : sheet.Holds texts) :
    ∃ g, sheet.values? = some g ∧ ∀ i j, g.value i j = (textGrid texts).value i j := by
  let read (entry : Entry) : Scalar := entry.read?.getD .empty
  have hread (entry : Entry) (v : Scalar) :
      entry.read? = some v ↔ entry.read?.isSome = true ∧ v = read entry := by
    show _ ↔ _ ∧ v = entry.read?.getD .empty
    cases entry.read? with
    | none => exact ⟨nofun, fun hv => absurd hv.1 Bool.false_ne_true⟩
    | some u =>
      exact ⟨fun hv => ⟨rfl, (Option.some.inj hv).symm⟩, fun hv => congrArg some hv.2.symm⟩
  have hsome : ∀ row ∈ sheet.cells, ∀ entry ∈ row, entry.read?.isSome = true := by
    intro row hrow entry hentry
    obtain ⟨i, hi⟩ := List.mem_iff_getElem?.mp hrow
    obtain ⟨j, hj⟩ := List.mem_iff_getElem?.mp hentry
    have hplace := h i j
    unfold entryAt at hplace
    rw [hi, Option.getD_some, hj, Option.getD_some] at hplace
    rw [hplace, Option.isSome_some]
  refine ⟨sheet.cells.map (·.map read), ?_, fun i j => ?_⟩
  · exact (mapM_eq_some_iff fun _ _ => mapM_eq_some_iff hread).mpr ⟨hsome, rfl⟩
  · rw [value_textGrid, Grid.value_map (d := .value .empty) rfl]
    show (sheet.entryAt i j).read?.getD .empty = _
    rw [h i j, Option.getD_some]

/-! ## The rectangle -/

theorem isBlank_textValues {texts : List String} (h : ∃ text ∈ texts, text ≠ "") :
    Grid.isBlank (texts.map textValue) = false := by
  obtain ⟨text, htext, hne⟩ := h
  unfold Grid.isBlank
  rw [List.all_eq_false]
  refine ⟨textValue text, List.mem_map_of_mem htext, ?_⟩
  rw [textValue_of_ne hne]
  exact Bool.false_ne_true

variable (h : Tabular header rows)

include h

theorem exists_name : ∃ text ∈ header, text ≠ "" := by
  obtain ⟨name, names, hheader⟩ := List.exists_cons_of_ne_nil h.ne_nil
  have hname : name ∈ header := hheader ▸ List.mem_cons_self
  exact ⟨name, hname, fun e => h.names (e ▸ hname)⟩

theorem framed_texts : (textGrid (header :: rows)).Framed header.length := by
  refine ⟨fun row hrow => ?_, fun hne => ?_, ?_⟩
  · obtain ⟨texts, htexts, rfl⟩ := List.mem_map.mp hrow
    rw [List.length_map]
    rcases List.mem_cons.mp htexts with rfl | htexts
    · rfl
    · exact h.length_row texts htexts
  · have hlast : (textGrid (header :: rows)).getLast hne
        = ((header :: rows).getLast (List.cons_ne_nil _ _)).map textValue := List.getLast_map _
    rw [hlast]
    refine isBlank_textValues ?_
    by_cases hrows : rows = []
    · subst hrows
      exact exists_name h
    · rw [List.getLast_cons hrows]
      exact h.last_row _ (List.getLast?_eq_some_getLast hrows)
  · refine ⟨header.map textValue, List.mem_cons_self, ?_⟩
    obtain hnil | ⟨names, name, hheader⟩ := List.eq_nil_or_concat' header
    · exact absurd hnil h.ne_nil
    · have hname : name ≠ "" := fun e => h.names (by rw [hheader, e]; simp)
      rw [hheader, List.map_append, List.map_singleton, textValue_of_ne hname,
        Grid.reach_concat _ rfl, List.length_map, List.length_append]
      rfl

/-- **The texts are the rectangle that is used**, whatever is blank inside of it. -/
theorem used_texts : (textGrid (header :: rows)).used = textGrid (header :: rows) := by
  have hrow : Grid.isBlank (header.map textValue) = false := isBlank_textValues (exists_name h)
  refine (framed_texts h).used_eq_self (fun _ => hrow) List.mem_cons_self hrow ?_
  obtain ⟨name, names, hheader⟩ := List.exists_cons_of_ne_nil h.ne_nil
  have hname : name ≠ "" := fun e => h.names (by rw [hheader, e]; exact List.mem_cons_self)
  show Grid.blanks (header.map textValue) = 0
  rw [hheader, List.map_cons, textValue_of_ne hname, Grid.blanks_cons]
  rfl

/-- Values of texts make the table that the texts describe. -/
theorem tableOf_texts (settings : Settings) :
    tableOf settings (textGrid (header :: rows)) = Csv.described settings header rows := by
  have hlen : ∀ row ∈ textGrid rows, row.length = (header.map textValue).length := by
    intro row hrow
    obtain ⟨texts, htexts, rfl⟩ := List.mem_map.mp hrow
    rw [List.length_map, List.length_map, h.length_row texts htexts]
  have hnames : (header.map textValue).map Sheet.header = header := by
    rw [List.map_map]
    exact (List.map_congr_left fun text _ => header_textValue text).trans (List.map_id header)
  show tableOf settings (header.map textValue :: textGrid rows) = _
  rw [tableOf_cons settings _ hlen, hnames]
  unfold Csv.described Table.ofTexts textGrid
  rw [List.map_map, List.map_map]
  congr 1
  refine List.map_congr_left fun texts htexts => ?_
  dsimp only [Function.comp]
  rw [Csv.filled_of_length (h.length_row texts htexts), List.zipWith_map_right]
  simp only [ofScalar_textValue]

end Sheet

namespace Table

variable {settings : Settings} {content : String} {w : Workbook} {sheet : Sheet}
  {header : List String} {rows : List (List String)}

/-- What a workbook is read as, given the texts it holds. -/
theorem ofWorkbook_of_holds (h : Tabular header rows) (hsheet : w.sheets.head? = some sheet)
    (hholds : sheet.Holds (header :: rows)) :
    ofWorkbook settings w = .ok (if settings.detectIndexColumn
      then (Csv.described settings header rows).dropIndex
      else Csv.described settings header rows) := by
  obtain ⟨rest, hsheets⟩ := List.head?_eq_some_iff.mp hsheet
  obtain ⟨g, hvalues, hplaces⟩ := Sheet.exists_values_of_holds hholds
  unfold ofWorkbook
  rw [hsheets]
  dsimp only
  rw [hvalues]
  dsimp only
  rw [Grid.used_congr hplaces, Sheet.used_texts h, Sheet.tableOf_texts h]

/-- **Texts are the same table, whether they are read from records or from a sheet.** -/
theorem ofCsv_and_ofWorkbook_of_holds (h : Tabular header rows)
    (hreads : Csv.Reads settings.delimiterByte (Text.utf8 (Csv.dropMark content)) (header :: rows))
    (hsheet : w.sheets.head? = some sheet) (hholds : sheet.Holds (header :: rows)) :
    ∃ t, ofCsv settings content = .ok t ∧ ofWorkbook settings w = .ok t := by
  refine ⟨_, (ofCsv_eq_ok_iff hreads).mpr ⟨fun texts htexts => ?_, rfl⟩,
    ofWorkbook_of_holds h hsheet hholds⟩
  exact Nat.le_of_eq (h.length_row texts htexts)

/-- An index that is dropped, a record and a blank place, in a sheet whose rows end too early or too
late and which is not the only one. -/
theorem ofCsv_and_ofWorkbook_of_holds_uneven :
    let header := ["Unnamed: 0", "More"]
    let rows := [["0", "\x7b\"k\":1\x7d"], ["1", ""], [" 2 ", "<b>"]]
    let content := "Unnamed: 0,More\n0,\"\x7b\"\"k\"\":1\x7d\"\n1,\n 2 ,<b>\n"
    let sheet : Sheet :=
      { name := "first"
        cells := [[.value (.text "Unnamed: 0"), .value (.text "More"), .value .empty],
          [.value (.text "0"), .value (.text "\x7b\"k\":1\x7d")], [.value (.text "1")],
          [.value (.text " 2 "), .value (.text "<b>")], []] }
    let w : Workbook := { sheets := [sheet, { name := "second", cells := [] }] }
    Tabular header rows ∧
      Csv.Reads ({} : Settings).delimiterByte (Text.utf8 (Csv.dropMark content))
        (header :: rows) ∧
      w.sheets.head? = some sheet ∧ sheet.Holds (header :: rows) ∧
      ∃ t, ofCsv {} content = .ok t ∧ ofWorkbook {} w = .ok t := by
  intro header rows content sheet w
  have htabular : Tabular header rows := by
    refine ⟨by decide, by decide, by decide, ?_⟩
    intro texts htexts
    obtain rfl := Option.some.inj htexts
    exact ⟨"<b>", by decide, by decide⟩
  have hreads : Csv.Reads ({} : Settings).delimiterByte (Text.utf8 (Csv.dropMark content))
      (header :: rows) := by
    unfold Csv.Reads
    decide +kernel
  have hholds : sheet.Holds (header :: rows) := by
    intro i j
    rcases i with _ | _ | _ | _ | _ | i <;> rcases j with _ | _ | _ | j <;> rfl
  exact ⟨htabular, hreads, rfl, hholds, ofCsv_and_ofWorkbook_of_holds htabular hreads rfl hholds⟩

end Table

end TidyTable
