import TidyTable.Proofs.Tabulation

/-!
# What is written for a table

A table whose rows are as long as its header is always written, and `Table.written` is what the
text then says: a header with a blank name in front, and each row behind its number.

Two things could go wrong and do not. The bytes are text, because a text is only cut and quoted at
bytes of ASCII. And no byte order mark is seen where none was meant: the blank name makes the text
begin with a delimiter or, if there is no column, with a quote.
-/

namespace TidyTable

open Text (Bytes IsText)

namespace Csv

variable {d : UInt8}

/-! ## The bytes are text -/

/-- A quote is a character. -/
theorem isText_quote : IsText [quote] := Text.isText_ascii (by decide)

/-- Doubling quotes does not break a character. -/
theorem isText_quoteField {bs : Bytes} (h : IsText bs) : IsText (quoteField bs) := by
  have hdoubled : IsText (bs.flatMap fun b => if b = quote then [quote, quote] else [b]) := by
    refine h.flatMap (fun b hb => ?_) fun b hb => if_neg ?_
    · split
      · exact isText_quote.append isText_quote
      · exact Text.isText_ascii hb
    · intro e
      rw [e] at hb
      exact absurd hb (by decide)
  exact isText_quote.append (hdoubled.append isText_quote)

/-- A field is written as it is or between quotes. -/
theorem isText_writeField {bs : Bytes} (h : IsText bs) : IsText (writeField d bs) := by
  unfold writeField
  split
  · exact isText_quoteField h
  · exact h

/-- Delimiters stand between characters. -/
theorem isText_writeFields (hd : d.toNat < 0x80) {fields : List Bytes}
    (h : ∀ f ∈ fields, IsText f) : IsText (writeFields d fields) := by
  induction fields with
  | nil => exact Text.isText_nil
  | cons field rest ih =>
    have hfield := isText_writeField (d := d) (h field List.mem_cons_self)
    cases rest with
    | nil => exact hfield
    | cons next rest =>
      have hrest := ih fun f hf => h f (List.mem_cons_of_mem _ hf)
      exact hfield.append ((Text.isText_ascii hd).append hrest)

/-- A record without fields is written as an empty field between quotes. -/
theorem isText_writeRecord (hd : d.toNat < 0x80) {fields : List Bytes}
    (h : ∀ f ∈ fields, IsText f) : IsText (writeRecord d fields) := by
  unfold writeRecord
  dsimp only
  split
  · exact isText_quote.append isText_quote
  · exact isText_writeFields hd h

/-- Both line ends are characters of ASCII. -/
theorem isText_lineEnd {term : Bytes} (h : IsLineEnd term) : IsText term := by
  rcases h with rfl | rfl
  · exact Text.isText_ascii (by decide)
  · exact (Text.isText_ascii (b := carriageReturn) (by decide)).append
      (Text.isText_ascii (b := lineFeed) (by decide))

/-- **What is written is text** if the delimiter is one of ASCII. -/
theorem isText_writeRecords (hd : d.toNat < 0x80) {term : Bytes} (ht : IsLineEnd term)
    {rows : List (List Bytes)} (h : ∀ fields ∈ rows, ∀ f ∈ fields, IsText f) :
    IsText (writeRecords d term rows) := by
  unfold writeRecords
  rw [List.flatMap_def]
  refine IsText.flatten fun bs hbs => ?_
  obtain ⟨fields, hfields, rfl⟩ := List.mem_map.mp hbs
  exact (isText_writeRecord hd (h fields hfields)).append (isText_lineEnd ht)

/-! ## The first byte -/

/-- A blank field in front makes the text begin with the delimiter or a quote. -/
theorem head_writeRecords (hd : d.toNat < 0x80) (term : Bytes) (fields : List Bytes)
    (rows : List (List Bytes)) :
    ∃ b rest, b.toNat < 0x80 ∧ writeRecords d term (([] :: fields) :: rows) = b :: rest := by
  cases fields with
  | nil => exact ⟨quote, _, by decide, rfl⟩
  | cons field fields => exact ⟨d, _, hd, rfl⟩

/-- The byte order mark begins outside ASCII. -/
theorem mark_isPrefixOf_eq_false {b : UInt8} {bs : Bytes} (hb : b.toNat < 0x80) :
    mark.isPrefixOf (b :: bs) = false := by
  have hne : (0xef == b) = false := by
    rw [beq_eq_false_iff_ne]
    intro e
    rw [← e] at hb
    exact absurd hb (by decide)
  show ((0xef == b) && _) = false
  rw [hne, Bool.false_and]

/-- A text that begins with a byte of ASCII has no mark to be dropped. -/
theorem dropMark_eq_self {s : String} {b : UInt8} {bs : Bytes} (hb : b.toNat < 0x80)
    (hs : Text.utf8 s = b :: bs) : dropMark s = s := by
  unfold dropMark
  cases hcs : s.toList with
  | nil => rfl
  | cons c cs =>
    dsimp only
    refine if_neg fun hc => ?_
    unfold Text.utf8 at hs
    rw [hcs, hc] at hs
    -- a mark would begin with a byte outside ASCII
    have hlead : (0xef : UInt8) = b := (List.cons.inj hs).1
    rw [← hlead] at hb
    exact absurd hb (by decide)

end Csv

/-! ## Tables -/

namespace Table

variable {settings : Settings} {t : Table}

/-- What is written for a table: the header and the rows, with the row index in front. -/
def written (t : Table) : List (List String) :=
  ("" :: t.columns) ::
    t.rows.zipIdx.map fun (row, n) => Decimal.naturalText n :: row.map Cell.render

/-- **Rows that are as long as the header are all written.** -/
theorem csvRecords_eq_ok (h : ∀ row ∈ t.rows, row.length = t.columns.length) :
    t.csvRecords = .ok t.written := by
  -- no row is refused for its length
  have hrows : t.rows.zipIdx.mapM (fun (row, n) => csvRow t.columns.length row n)
      = .ok (t.rows.zipIdx.map fun (row, n) => Decimal.naturalText n :: row.map Cell.render) := by
    rw [mapM_eq_ok_iff, List.map_map]
    refine List.map_congr_left fun ⟨row, n⟩ hmem => ?_
    exact if_pos (h row (List.fst_mem_of_mem_zipIdx hmem))
  unfold csvRecords written
  rw [hrows]
  rfl

/-- The bytes of the text of a table. -/
theorem toCsv_eq_ok (hs : settings.fault? = none)
    (h : ∀ row ∈ t.rows, row.length = t.columns.length) :
    ∃ out, t.toCsv settings = .ok out ∧ Text.utf8 out = Csv.writeRecords settings.delimiterByte
      (Csv.terminator settings) (t.written.map (·.map Text.utf8)) := by
  have htext : IsText (Csv.writeRecords settings.delimiterByte (Csv.terminator settings)
      (t.written.map (·.map Text.utf8))) := by
    refine Csv.isText_writeRecords (Settings.toNat_delimiterByte hs).2
      (Settings.isLineEnd_terminator hs) fun fields hfields f hf => ?_
    obtain ⟨texts, _, rfl⟩ := List.mem_map.mp hfields
    obtain ⟨s, _, rfl⟩ := List.mem_map.mp hf
    exact Text.isText_utf8 s
  obtain ⟨out, hout⟩ := htext
  refine ⟨out, ?_, hout.symm⟩
  unfold toCsv
  rw [csvRecords_eq_ok h]
  show (Text.readUtf8 _).mapError _ = _
  rw [hout, Text.readUtf8_utf8]
  rfl

/-- **Every well-formed table is written, and its text says what was written.** Neither this text
nor its bytes begin with a byte order mark. -/
theorem toCsv_reads (hs : settings.fault? = none) (h : t.WellFormed) :
    ∃ out, t.toCsv settings = .ok out ∧ Csv.dropMark out = out ∧
      Csv.Reads settings.delimiterByte (Text.utf8 out) t.written := by
  obtain ⟨out, hout, hbytes⟩ := toCsv_eq_ok hs h.length_row
  obtain ⟨b, rest, hb, hhead⟩ := Csv.head_writeRecords (Settings.toNat_delimiterByte hs).2
    (Csv.terminator settings) (t.columns.map Text.utf8)
    ((t.rows.zipIdx.map fun (row, n) => Decimal.naturalText n :: row.map Cell.render).map
      (·.map Text.utf8))
  have hfirst : Text.utf8 out = b :: rest := hbytes.trans hhead
  -- the same first byte rules out both marks
  refine ⟨out, hout, Csv.dropMark_eq_self hb hfirst, ?_⟩
  unfold Csv.Reads
  rw [hbytes]
  refine Csv.records_writeRecords (Settings.separates_delimiterByte hs)
    (Settings.isLineEnd_terminator hs) (fun fields hfields => ?_) ?_
  · -- the blank name or the number stands in front, so no record is without fields
    obtain ⟨texts, htexts, rfl⟩ := List.mem_map.mp hfields
    refine fun e => absurd (List.map_eq_nil_iff.mp e) ?_
    rcases List.mem_cons.mp htexts with rfl | htexts
    · exact List.cons_ne_nil _ _
    · obtain ⟨⟨row, n⟩, _, rfl⟩ := List.mem_map.mp htexts
      exact List.cons_ne_nil _ _
  · rw [← hbytes, hfirst]
    exact Csv.mark_isPrefixOf_eq_false hb

end Table

end TidyTable
