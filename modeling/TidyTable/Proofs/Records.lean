import TidyTable.Csv.Writer

/-!
# Records survive being written

Reading what `writeRecords` wrote gives back the same fields, whatever bytes they hold. `Holds` is
the invariant: it says what a reader has in hand, and leaves out how far it has come, because the
positions of records play no part in what they say.

A field is written at a place where a field may begin, and leaves the reader at a place where it may
end: nowhere between quotes. At such a place the delimiter completes the field and a terminator
completes the record, with one exception. Between records a terminator is an empty line and says
nothing. This is why a record of one empty field is written as two quotes: they take the reader out
of that place.
-/

namespace TidyTable.Csv

open Text (Bytes)

/-- A byte that may stand between fields: no mark of the format itself. -/
structure Separates (d : UInt8) : Prop where
  ne_quote : d ≠ quote
  ne_lineFeed : d ≠ lineFeed
  ne_carriageReturn : d ≠ carriageReturn

/-- What a reader has in hand, wherever in the text it is. -/
structure Holds (r : Reader) (place : Place) (field : Bytes) (fields : List Bytes)
    (rows : List (List Bytes)) : Prop where
  place : r.place = place
  field : r.field = field
  fields : r.fields = fields
  rows : r.records.map Record.fields = rows

/-- Where a field may begin. -/
def Place.Begins (p : Place) : Prop := p = .between ∨ p = .start

variable {d b : UInt8} {r : Reader} {p : Place} {f : Bytes} {fs : List Bytes}
  {rows : List (List Bytes)}

theorem Separates.not_terminator (h : Separates d) : isTerminator d = false := by
  simp [isTerminator, h.ne_lineFeed, h.ne_carriageReturn]

theorem quote_not_terminator : isTerminator quote = false := by decide

theorem Separates.ne_of_terminator (h : Separates d) (hb : isTerminator b = true) : b ≠ d := by
  intro e
  rw [e, h.not_terminator] at hb
  exact Bool.noConfusion hb

theorem ne_quote_of_terminator (hb : isTerminator b = true) : b ≠ quote := by
  intro e
  rw [e, quote_not_terminator] at hb
  exact Bool.noConfusion hb

/-- A byte that needs no quotes is none of the marks. -/
theorem of_needsQuotes_eq_false (h : needsQuotes d b = false) :
    b ≠ d ∧ b ≠ quote ∧ isTerminator b = false := by
  simp only [needsQuotes, Bool.or_eq_false_iff, beq_eq_false_iff_ne] at h
  exact ⟨h.1.1, h.1.2, h.2⟩

/-! ## One byte -/

namespace Reader

/-- Outside quotes a terminator completes the record. -/
theorem stepBare_terminator (hd : Separates d) (hb : isTerminator b = true) (r : Reader) :
    r.stepBare d b = r.endRecord := by
  rw [stepBare, if_neg (hd.ne_of_terminator hb), if_pos hb]

/-- A byte other than a quote begins a field as it would go on with it. -/
theorem stepStart_of_ne (h : b ≠ quote) (r : Reader) : r.stepStart d b = r.stepBare d b := if_neg h

/-- A byte that is no mark goes into the field, wherever it stands. -/
theorem step_plain (hb : needsQuotes d b = false) (r : Reader) :
    r.step d b = { r with now := r.now.advance b }.push
      (if r.place = Place.quoted then .quoted else .bare) b := by
  obtain ⟨hdelimiter, hquote, hterm⟩ := of_needsQuotes_eq_false hb
  have hbare (s : Reader) : s.stepBare d b = s.push .bare b := by
    rw [stepBare, if_neg hdelimiter, hterm, if_neg Bool.false_ne_true]
  have hstart (s : Reader) : s.stepStart d b = s.push .bare b := by
    rw [stepStart_of_ne hquote, hbare]
  unfold step
  cases r.place with
  | between => dsimp only; rw [hterm, if_neg Bool.false_ne_true, hstart]; rfl
  | start => exact hstart _
  | bare => exact hbare _
  | quoted => exact if_neg hquote
  | closed => dsimp only; rw [if_neg hquote, hbare]; rfl

end Reader

theorem Holds.now (h : Holds r p f fs rows) (now : Position) :
    Holds { r with now := now } p f fs rows := ⟨h.place, h.field, h.fields, h.rows⟩

theorem Holds.push (h : Holds r p f fs rows) (q : Place) (b : UInt8) :
    Holds (r.push q b) q (b :: f) fs rows :=
  ⟨rfl, by rw [← h.field]; rfl, h.fields, h.rows⟩

theorem Holds.endField (h : Holds r p f fs rows) :
    Holds r.endField .start [] (f.reverse :: fs) rows :=
  ⟨rfl, rfl, by rw [← h.field, ← h.fields]; rfl, h.rows⟩

theorem Holds.endRecord (h : Holds r p f fs rows) :
    Holds r.endRecord .between [] [] ((f.reverse :: fs).reverse :: rows) :=
  ⟨rfl, rfl, rfl, by rw [← h.field, ← h.fields, ← h.rows]; rfl⟩

/-- Outside quotes the delimiter completes the field. -/
theorem Holds.delimiter (hd : Separates d) (h : Holds r p f fs rows) (hp : p ≠ .quoted) :
    Holds (r.step d d) .start [] (f.reverse :: fs) rows := by
  have hbare (s : Reader) : s.stepBare d d = s.endField := if_pos rfl
  have hstart (s : Reader) : s.stepStart d d = s.endField := by
    rw [Reader.stepStart_of_ne hd.ne_quote, hbare]
  have hend := (h.now (r.now.advance d)).endField
  unfold Reader.step
  rw [h.place]
  cases p with
  | between => dsimp only; rw [hd.not_terminator, if_neg Bool.false_ne_true, hstart]; exact hend
  | start => dsimp only; rw [hstart]; exact hend
  | bare => dsimp only; rw [hbare]; exact hend
  | quoted => exact absurd rfl hp
  | closed => dsimp only; rw [if_neg hd.ne_quote, hbare]; exact hend

/-- In a record a terminator completes the record. -/
theorem Holds.terminator (hd : Separates d) (hb : isTerminator b = true)
    (h : Holds r p f fs rows) (hp : p ≠ .quoted) (hp' : p ≠ .between) :
    Holds (r.step d b) .between [] [] ((f.reverse :: fs).reverse :: rows) := by
  have hquote : b ≠ quote := ne_quote_of_terminator hb
  have hend := (h.now (r.now.advance b)).endRecord
  unfold Reader.step
  rw [h.place]
  cases p with
  | between => exact absurd rfl hp'
  | start =>
    dsimp only
    rw [Reader.stepStart_of_ne hquote, Reader.stepBare_terminator hd hb]
    exact hend
  | bare => dsimp only; rw [Reader.stepBare_terminator hd hb]; exact hend
  | quoted => exact absurd rfl hp
  | closed => dsimp only; rw [if_neg hquote, Reader.stepBare_terminator hd hb]; exact hend

/-- Between records a terminator is an empty line. -/
theorem Holds.blank (hb : isTerminator b = true) (h : Holds r .between f fs rows) :
    Holds (r.step d b) .between f fs rows := by
  unfold Reader.step
  rw [h.place]
  dsimp only
  rw [if_pos hb]
  exact ⟨rfl, h.field, h.fields, h.rows⟩

/-- A quote where a field begins opens it. -/
theorem Holds.opened (h : Holds r p f fs rows) (hp : p.Begins) :
    Holds (r.step d quote) .quoted f fs rows := by
  unfold Reader.step
  rw [h.place]
  rcases hp with rfl | rfl
  · dsimp only
    rw [quote_not_terminator, if_neg Bool.false_ne_true, Reader.stepStart, if_pos rfl]
    exact ⟨rfl, h.field, h.fields, h.rows⟩
  · dsimp only
    rw [Reader.stepStart, if_pos rfl]
    exact ⟨rfl, h.field, h.fields, h.rows⟩

/-- A byte that is no mark begins a field without quotes or goes on with one. -/
theorem Holds.plain (h : Holds r p f fs rows) (hp : p ≠ .quoted) (hb : needsQuotes d b = false) :
    Holds (r.step d b) .bare (b :: f) fs rows := by
  rw [r.step_plain hb, h.place, if_neg hp]
  exact (h.now (r.now.advance b)).push .bare b

/-- Between quotes every other byte is taken as it is. -/
theorem Holds.enclosed (h : Holds r .quoted f fs rows) (hb : b ≠ quote) :
    Holds (r.step d b) .quoted (b :: f) fs rows := by
  unfold Reader.step
  rw [h.place]
  dsimp only
  rw [if_neg hb]
  exact (h.now (r.now.advance b)).push .quoted b

/-- Between quotes a quote may be the last one. -/
theorem Holds.closing (h : Holds r .quoted f fs rows) :
    Holds (r.step d quote) .closed f fs rows := by
  unfold Reader.step
  rw [h.place]
  dsimp only
  rw [if_pos rfl]
  exact ⟨rfl, h.field, h.fields, h.rows⟩

/-- It is not if another one follows. -/
theorem Holds.doubled (h : Holds r .closed f fs rows) :
    Holds (r.step d quote) .quoted (quote :: f) fs rows := by
  unfold Reader.step
  rw [h.place]
  dsimp only
  rw [if_pos rfl]
  exact (h.now (r.now.advance quote)).push .quoted quote

/-! ## One field -/

/-- Reads bytes from a state on. -/
def Reader.run (d : UInt8) (r : Reader) (bs : Bytes) : Reader := bs.foldl (Reader.step d) r

@[simp] theorem Reader.run_nil : r.run d [] = r := rfl

@[simp] theorem Reader.run_cons (bs : Bytes) : r.run d (b :: bs) = (r.step d b).run d bs := rfl

@[simp] theorem Reader.run_append (as bs : Bytes) : r.run d (as ++ bs) = (r.run d as).run d bs :=
  List.foldl_append

theorem Holds.run_bare {bs : Bytes} (h : Holds r .bare f fs rows)
    (hbs : ∀ b ∈ bs, needsQuotes d b = false) :
    Holds (r.run d bs) .bare (bs.reverse ++ f) fs rows := by
  induction bs generalizing r f with
  | nil => exact h
  | cons b bs ih =>
    have hstep := h.plain nofun (hbs b List.mem_cons_self)
    rw [Reader.run_cons, List.reverse_cons, List.append_assoc]
    exact ih hstep fun x hx => hbs x (List.mem_cons_of_mem _ hx)

theorem Holds.run_doubled {bs : Bytes} (h : Holds r .quoted f fs rows) :
    Holds (r.run d (bs.flatMap fun b => if b = quote then [quote, quote] else [b]))
      .quoted (bs.reverse ++ f) fs rows := by
  induction bs generalizing r f with
  | nil => exact h
  | cons b bs ih =>
    rw [List.flatMap_cons, Reader.run_append, List.reverse_cons, List.append_assoc]
    by_cases hb : b = quote
    · subst hb
      rw [if_pos rfl]
      exact ih h.closing.doubled
    · rw [if_neg hb]
      exact ih (h.enclosed hb)

theorem Holds.run_quoteField (h : Holds r p f fs rows) (hp : p.Begins) (bs : Bytes) :
    Holds (r.run d (quoteField bs)) .closed (bs.reverse ++ f) fs rows := by
  unfold quoteField
  rw [Reader.run_cons, Reader.run_append]
  exact (h.opened hp).run_doubled.closing

theorem Place.Begins.ne_quoted (h : p.Begins) : p ≠ .quoted := by
  rcases h with rfl | rfl <;> nofun

/-- A written field is read as it was, and leaves the reader where a field may end. If it stays
between records then nothing was written. -/
theorem Holds.run_writeField (h : Holds r p [] fs rows) (hp : p.Begins) (bs : Bytes) :
    ∃ q, Holds (r.run d (writeField d bs)) q bs.reverse fs rows ∧ q ≠ .quoted ∧
      (q = .between → p = .between ∧ writeField d bs = []) := by
  unfold writeField
  split
  · refine ⟨.closed, ?_, nofun, nofun⟩
    have hq := h.run_quoteField (d := d) hp bs
    rwa [List.append_nil] at hq
  · rename_i hn
    have hbs : ∀ b ∈ bs, needsQuotes d b = false := by
      intro b hb
      rw [Bool.eq_false_iff]
      intro hc
      exact hn (List.any_eq_true.mpr ⟨b, hb, hc⟩)
    cases bs with
    | nil => exact ⟨p, h, hp.ne_quoted, fun hq => ⟨hq, rfl⟩⟩
    | cons b bs =>
      -- the first byte takes the reader out of the place where the field began
      have hfirst := h.plain hp.ne_quoted (hbs b List.mem_cons_self)
      refine ⟨.bare, ?_, nofun, nofun⟩
      rw [Reader.run_cons, List.reverse_cons]
      exact hfirst.run_bare fun x hx => hbs x (List.mem_cons_of_mem _ hx)

/-! ## One record -/

/-- The fields of a record are read as they were; the last one is still open. -/
theorem Holds.run_writeFields (hd : Separates d) (h : Holds r p [] fs rows) (hp : p.Begins)
    (field : Bytes) (rest : List Bytes) :
    ∃ q g gs, Holds (r.run d (writeFields d (field :: rest))) q g gs rows ∧
      (g.reverse :: gs).reverse = fs.reverse ++ field :: rest ∧ q ≠ .quoted ∧
      (q = .between → p = .between ∧ writeFields d (field :: rest) = []) := by
  induction rest generalizing r p fs field with
  | nil =>
    obtain ⟨q, hq, hq1, hq2⟩ := h.run_writeField (d := d) hp field
    refine ⟨q, field.reverse, fs, hq, ?_, hq1, hq2⟩
    rw [List.reverse_reverse, List.reverse_cons]
  | cons next rest ih =>
    obtain ⟨q, hq, hq1, _⟩ := h.run_writeField (d := d) hp field
    have hsep := hq.delimiter hd hq1
    obtain ⟨q', g, gs, hg, hgs, hq', hbetween⟩ := ih hsep (Or.inr rfl) next
    have hwrite : writeFields d (field :: next :: rest)
        = writeField d field ++ d :: writeFields d (next :: rest) := rfl
    refine ⟨q', g, gs, ?_, ?_, hq', ?_⟩
    · rw [hwrite, Reader.run_append, Reader.run_cons]
      exact hg
    · rw [hgs, List.reverse_cons, List.reverse_reverse, List.append_assoc]
      rfl
    · -- behind a delimiter the reader is never between records again
      intro e
      exact Place.noConfusion (hbetween e).1

/-- A written record is read as it was, up to the end of its line. -/
theorem Holds.run_writeRecord (hd : Separates d) {fields : List Bytes} (hne : fields ≠ [])
    (h : Holds r .between [] [] rows) :
    ∃ q g gs, Holds (r.run d (writeRecord d fields)) q g gs rows ∧
      (g.reverse :: gs).reverse = fields ∧ q ≠ .quoted ∧ q ≠ .between := by
  obtain ⟨field, rest, rfl⟩ := List.exists_cons_of_ne_nil hne
  obtain ⟨q, g, gs, hg, hgs, hq, hbetween⟩ :=
    h.run_writeFields hd (Or.inl rfl) field rest
  rw [List.reverse_nil, List.nil_append] at hgs
  unfold writeRecord
  by_cases hw : writeFields d (field :: rest) = []
  · -- nothing was written, so the field in hand is the only one, and it is empty
    rw [hw] at hg
    obtain rfl : g = [] := hg.field.symm.trans h.field
    obtain rfl : gs = [] := hg.fields.symm.trans h.fields
    refine ⟨.closed, [], [], ?_, hgs, nofun, nofun⟩
    rw [hw]
    exact (h.opened (Or.inl rfl)).closing
  · refine ⟨q, g, gs, ?_, hgs, hq, fun e => hw (hbetween e).2⟩
    dsimp only
    rw [if_neg (by simpa using hw)]
    exact hg

/-! ## All records -/

/-- The two ends of a line that are written. -/
def IsLineEnd (bs : Bytes) : Prop := bs = [lineFeed] ∨ bs = [carriageReturn, lineFeed]

theorem Holds.run_line (hd : Separates d) {term : Bytes} (ht : IsLineEnd term)
    {fields : List Bytes} (hne : fields ≠ []) (h : Holds r .between [] [] rows) :
    Holds (r.run d (writeRecord d fields ++ term)) .between [] [] (fields :: rows) := by
  obtain ⟨q, g, gs, hg, hgs, hq, hq'⟩ := h.run_writeRecord hd hne
  rw [Reader.run_append]
  have hdone {b : UInt8} (hb : isTerminator b = true) :
      Holds ((r.run d (writeRecord d fields)).step d b) .between [] [] (fields :: rows) := by
    have ht := hg.terminator hd hb hq hq'
    rwa [hgs] at ht
  rcases ht with rfl | rfl
  · exact hdone (b := lineFeed) (by decide)
  · exact (hdone (b := carriageReturn) (by decide)).blank (b := lineFeed) (by decide)

theorem Holds.run_writeRecords (hd : Separates d) {term : Bytes} (ht : IsLineEnd term)
    {written : List (List Bytes)} (hne : ∀ fields ∈ written, fields ≠ [])
    (h : Holds r .between [] [] rows) :
    Holds (r.run d (writeRecords d term written)) .between [] [] (written.reverse ++ rows) := by
  induction written generalizing r rows with
  | nil => exact h
  | cons fields written ih =>
    have hline := h.run_line hd ht (hne fields List.mem_cons_self)
    unfold writeRecords
    rw [List.flatMap_cons, Reader.run_append, List.reverse_cons, List.append_assoc]
    exact ih (fun x hx => hne x (List.mem_cons_of_mem _ hx)) hline

theorem Holds.finish (h : Holds r .between [] [] rows) :
    r.finish.map Record.fields = rows.reverse := by
  unfold Reader.finish
  rw [if_pos h.place, List.map_reverse, h.rows]

/-- **Reading gives back what was written.** The only text it does not cover is one that begins
with a byte order mark, which reading drops. -/
theorem records_writeRecords (hd : Separates d) {term : Bytes} (ht : IsLineEnd term)
    {written : List (List Bytes)} (hne : ∀ fields ∈ written, fields ≠ [])
    (hmark : mark.isPrefixOf (writeRecords d term written) = false) :
    (records d (writeRecords d term written)).map Record.fields = written := by
  have h : Holds { now := { byte := 0 } } .between [] [] [] := ⟨rfl, rfl, rfl, rfl⟩
  unfold records
  rw [hmark]
  have hend := (h.run_writeRecords hd ht hne).finish
  rw [List.append_nil, List.reverse_reverse] at hend
  exact hend

end TidyTable.Csv
