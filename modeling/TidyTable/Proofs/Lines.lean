import TidyTable.Proofs.Openings
import TidyTable.Proofs.Refusal

/-!
# The line that a long record is reported on

A record that is longer than the header is reported with a line, and that is the line on which
reading stood when the record before it was complete. Between the two stand the end of a line and
any number of empty lines (`LeftOff`). The first character of the end completes the record before,
so a line feed is counted and one that comes behind a carriage return is not, and no empty line is.
The line of the first character is therefore missed by the number of the empty lines, and by one
more if the line before them ends in two characters (`Table.ofCsv_longRecord_line`).

The invariant is `Tracks`. Its second part keeps line breaks of a quoted field apart from the end of
the record: outside quotes a record never stops behind a break.
-/

namespace TidyTable

namespace Csv

open Text (Bytes)

variable {d b : UInt8} {c : Char} {r : Reader} {cs : List Char}

/-! ## Counting lines -/

/-- The line on which a text goes on. There is a line feed in each end of a line, whether it stands
alone or behind a carriage return. -/
def lineBehind (cs : List Char) : Nat := 1 + cs.count '\n'

@[simp] theorem lineBehind_append (as bs : List Char) :
    lineBehind (as ++ bs) = lineBehind as + bs.count '\n' := by
  unfold lineBehind
  rw [List.count_append, Nat.add_assoc]

theorem line_step (r : Reader) (b : UInt8) :
    (r.step d b).now.line = r.now.line + [b].count lineFeed := by
  have hadvance : (r.step d b).now.line = (r.now.advance b).line := by
    rcases r.step_cases d b with ⟨p, h⟩ | ⟨p, h⟩ | h | h
    · rw [h]
    all_goals rw [h]; rfl
  rw [hadvance, List.count_singleton]
  unfold Position.advance
  by_cases hb : b = lineFeed
  · simp [hb]
  · simp [hb]

theorem line_run (r : Reader) (bs : Bytes) :
    (r.run d bs).now.line = r.now.line + bs.count lineFeed := by
  induction bs generalizing r with
  | nil => rfl
  | cons b bs ih => rw [Reader.run_cons, ih, line_step, Nat.add_assoc, ← List.count_append]; rfl

theorem count_lineFeed_encodeChar (c : Char) :
    (String.utf8EncodeChar c).count lineFeed = [c].count '\n' := by
  rcases Text.encodeChar_ascii_or c with ⟨hc, hbytes⟩ | hbytes
  · have hlf : UInt8.ofNat c.toNat = lineFeed ↔ c = '\n' :=
      ofNat_toNat_eq_iff (k := '\n') hc (by decide)
    simp only [hbytes, List.count_singleton, beq_iff_eq, hlf]
  · have hc : c ≠ '\n' := fun h => not_isBreak_of_other hbytes (Or.inl h)
    rw [List.count_singleton, beq_eq_false_iff_ne.mpr hc, List.count_eq_zero.mpr]
    · rfl
    · exact fun h => absurd (hbytes _ h) (by decide)

theorem line_read (r : Reader) (cs : List Char) :
    (r.read d cs).now.line = r.now.line + cs.count '\n' := by
  have hcount : (cs.flatMap String.utf8EncodeChar).count lineFeed = cs.count '\n' := by
    induction cs with
    | nil => rfl
    | cons c cs ih =>
      rw [List.flatMap_cons, List.count_append, ih, count_lineFeed_encodeChar, ← List.count_append]
      rfl
  unfold Reader.read
  rw [line_run, hcount]

/-! ## Between two records -/

/-- Whether the last character ends a line. -/
def EndsLine (cs : List Char) : Prop := ∃ c ∈ cs.getLast?, IsBreak c

theorem endsLine_concat : EndsLine (cs ++ [c]) ↔ IsBreak c := by
  simp [EndsLine]

/-- What stands at the end of some characters if no record is open there: the character that
completed the last one, behind which the text went on on this line, and then only ends of lines. -/
structure LeftOff (cs : List Char) (line : Nat) (prior : List Char) (ending : Char)
    (blanks : List Char) : Prop where
  split : cs = prior ++ ending :: blanks
  noBreak : ¬ EndsLine prior
  breaks : ∀ c ∈ ending :: blanks, IsBreak c
  line : line = lineBehind (prior ++ [ending])

theorem LeftOff.snoc {line : Nat} {prior blanks : List Char} {ending : Char}
    (h : LeftOff cs line prior ending blanks) (hc : IsBreak c) :
    LeftOff (cs ++ [c]) line prior ending (blanks ++ [c]) := by
  refine ⟨by rw [h.split, List.append_assoc]; rfl, h.noBreak, fun x hx => ?_, h.line⟩
  rcases List.mem_append.mp (List.cons_append ▸ hx : x ∈ (ending :: blanks) ++ [c]) with hx | hx
  · exact h.breaks x hx
  · exact List.mem_singleton.mp hx ▸ hc

/-- What holds of a reader behind some characters. -/
structure Tracks (cs : List Char) (r : Reader) : Prop where
  line : r.now.line = lineBehind cs
  /-- In a record a line ends only between quotes. -/
  inRecord : r.place ≠ .between → r.place ≠ .quoted → ¬ EndsLine cs
  /-- Between records nothing but ends of lines was read. -/
  leftOff : r.place = .between → r.records ≠ [] →
    ∃ prior ending blanks, LeftOff cs r.began.line prior ending blanks

theorem Tracks.snoc (hs : Separates d) (hd : d.toNat < 0x80) (h : Tracks cs r) (c : Char) :
    Tracks (cs ++ [c]) (r.read d [c]) := by
  have hline : (r.read d [c]).now.line = lineBehind (cs ++ [c]) := by
    rw [line_read, h.line, lineBehind_append]
  cases takes_read hs hd r c with
  | blank hbreak hplace hplace' hbegan hsame =>
    refine ⟨hline, fun hopen => absurd hplace' hopen, fun _ hrecords => ?_⟩
    obtain ⟨prior, ending, blanks, hleft⟩ := h.leftOff hplace (hsame ▸ hrecords)
    exact ⟨prior, ending, blanks ++ [c], hbegan ▸ hleft.snoc hbreak⟩
  | within hbreak hwithin =>
    refine ⟨hline, fun _ hquoted hends => ?_, fun hplace => absurd hplace hwithin.place⟩
    exact hquoted (hbreak (endsLine_concat.mp hends)).2
  | completes hbreak hplace hquoted hplace' hbegan _ =>
    -- the record ends here, so this character is the first one behind it
    refine ⟨hline, fun hopen => absurd hplace' hopen, fun _ _ => ⟨cs, c, [], rfl, ?_, ?_, ?_⟩⟩
    · exact h.inRecord hplace hquoted
    · exact fun x hx => List.mem_singleton.mp hx ▸ hbreak
    · rw [hbegan, hline]

/-- Whatever is read, from the start of a text on. -/
theorem tracks_read (hs : Separates d) (hd : d.toNat < 0x80) (hplace : r.place = .between)
    (hrecords : r.records = []) (hline : r.now.line = 1) (cs : List Char) :
    Tracks cs (r.read d cs) := by
  induction cs using List.reverseRecOn with
  | nil =>
    exact ⟨hline, fun h => absurd hplace h, fun _ h => absurd hrecords h⟩
  | append_singleton cs c ih =>
    rw [Reader.read_append]
    exact ih.snoc hs hd c

/-- Marks in front of a text are in no line's way. -/
theorem LeftOff.behind_marks {line : Nat} {prior blanks marks : List Char} {ending : Char}
    (h : LeftOff cs line prior ending blanks) (hmarks : ∀ c ∈ marks, c = byteOrderMark) :
    LeftOff (marks ++ cs) line (marks ++ prior) ending blanks := by
  have hnot : ∀ c ∈ marks, ¬ IsBreak c := by
    intro c hc
    rw [hmarks c hc]
    rintro (h | h)
    · exact absurd h (by decide)
    · exact absurd h (by decide)
  refine ⟨by rw [h.split, List.append_assoc], ?_, h.breaks, ?_⟩
  · rintro ⟨c, hc, hbreak⟩
    rw [List.getLast?_append] at hc
    cases hlast : prior.getLast? with
    | none =>
      rw [hlast] at hc
      exact hnot c (List.mem_of_getLast? hc) hbreak
    | some x =>
      rw [hlast] at hc
      exact h.noBreak ⟨c, hlast ▸ hc, hbreak⟩
  · have hcount : marks.count '\n' = 0 :=
      List.count_eq_zero.mpr fun h => hnot _ h (Or.inl rfl)
    rw [h.line, List.append_assoc]
    unfold lineBehind
    rw [List.count_append, List.count_append, List.count_append, hcount, Nat.zero_add]

/-! ## Ends of lines -/

/-- The two ends of a line. -/
inductive LineBreak where
  | lineFeed
  | returnFeed
deriving DecidableEq, Repr

/-- The characters of an end of a line. -/
def LineBreak.chars : LineBreak → List Char
  | .lineFeed => ['\n']
  | .returnFeed => ['\r', '\n']

/-- Whether a carriage return only stands in front of a line feed. -/
def noLoneReturn : List Char → Bool
  | [] => true
  | c :: cs => (c != '\r' || cs.head? == some '\n') && noLoneReturn cs

theorem noLoneReturn_of_append (as : List Char) {bs : List Char}
    (h : noLoneReturn (as ++ bs) = true) : noLoneReturn bs = true := by
  induction as with
  | nil => exact h
  | cons a as ih => exact ih (Bool.and_eq_true_iff.mp h).2

theorem noLoneReturn_return {cs : List Char} (h : noLoneReturn ('\r' :: cs) = true) :
    ∃ rest, cs = '\n' :: rest := by
  have hhead := (Bool.and_eq_true_iff.mp h).1
  simp only [bne_self_eq_false, Bool.false_or, beq_iff_eq] at hhead
  exact List.head?_eq_some_iff.mp hhead

/-- In such a text what stands between two records are whole ends of lines. -/
theorem exists_lineBreaks {c : Char} {after : List Char} (hc : ¬ IsBreak c) :
    ∀ {breaks : List Char}, (∀ x ∈ breaks, IsBreak x) →
      noLoneReturn (breaks ++ c :: after) = true →
      ∃ ends : List LineBreak, breaks = ends.flatMap LineBreak.chars
  | [], _, _ => ⟨[], rfl⟩
  | x :: rest, hbreaks, hreturn => by
    rcases hbreaks x List.mem_cons_self with rfl | rfl
    · obtain ⟨ends, hends⟩ := exists_lineBreaks hc
        (fun y hy => hbreaks y (List.mem_cons_of_mem _ hy))
        (noLoneReturn_of_append ['\n'] hreturn)
      exact ⟨.lineFeed :: ends, by rw [hends]; rfl⟩
    · -- the line feed behind it is one of the breaks, because the character behind these is none
      obtain ⟨tail, htail⟩ := noLoneReturn_return hreturn
      cases rest with
      | nil => exact absurd (Or.inl (List.cons.inj htail).1) hc
      | cons y rest =>
        obtain rfl := (List.cons.inj htail).1
        obtain ⟨ends, hends⟩ := exists_lineBreaks hc
          (fun z hz => hbreaks z (List.mem_cons_of_mem _ (List.mem_cons_of_mem _ hz)))
          (noLoneReturn_of_append ['\r', '\n'] hreturn)
        exact ⟨.returnFeed :: ends, by rw [hends]; rfl⟩

theorem count_lineBreaks (ends : List LineBreak) :
    (ends.flatMap LineBreak.chars).count '\n' = ends.length := by
  induction ends with
  | nil => rfl
  | cons e ends ih =>
    have hone : e.chars.count '\n' = 1 := by cases e <;> rfl
    rw [List.flatMap_cons, List.count_append, ih, hone, List.length_cons, Nat.add_comm]

/-- How many lines are missed between a record and the one before it, if these are the ends of lines
that stand between them: each line that is empty, and the one behind an end of two characters. -/
def missedLines (ending : LineBreak) (blanks : List LineBreak) : Nat :=
  blanks.length + if ending = .returnFeed then 1 else 0

theorem missedLines_eq_zero_iff {ending : LineBreak} {blanks : List LineBreak} :
    missedLines ending blanks = 0 ↔ ending = .lineFeed ∧ blanks = [] := by
  cases ending <;> simp [missedLines]

theorem LeftOff.exists_missed {before prior blanks after : List Char} {line : Nat} {ending : Char}
    (h : LeftOff before line prior ending blanks) (hc : ¬ IsBreak c)
    (hreturn : noLoneReturn (before ++ c :: after) = true) :
    ∃ (first : LineBreak) (others : List LineBreak),
      before = prior ++ (first :: others).flatMap LineBreak.chars ∧
        lineBehind before = line + missedLines first others := by
  rw [h.split, List.append_assoc] at hreturn
  obtain ⟨ends, hends⟩ := exists_lineBreaks hc h.breaks (noLoneReturn_of_append prior hreturn)
  have hbefore : before = prior ++ ends.flatMap LineBreak.chars := by rw [h.split, hends]
  have hwhole : lineBehind before = lineBehind prior + ends.length := by
    rw [hbefore, lineBehind_append, count_lineBreaks]
  have hline := h.line
  rw [lineBehind_append] at hline
  cases ends with
  | nil => exact absurd hends (List.cons_ne_nil _ _)
  | cons first others =>
    refine ⟨first, others, hbefore, ?_⟩
    -- the line was counted up to the first character only, which is the line feed or is not
    cases first with
    | lineFeed =>
      obtain rfl : ending = '\n' := (List.cons.inj hends).1
      have hone : ['\n'].count '\n' = 1 := rfl
      simp only [missedLines, List.length_cons, reduceCtorEq, if_false] at hwhole ⊢
      omega
    | returnFeed =>
      obtain rfl : ending = '\r' := (List.cons.inj hends).1
      have hnone : ['\r'].count '\n' = 0 := rfl
      simp only [missedLines, List.length_cons, if_true] at hwhole ⊢
      omega

/-- **The line that is remembered of a record.** It is the line of its first character less the
lines that are missed in front of it. -/
theorem exists_line_of_record {settings : Settings} {content : String} {record : Record} {n : Nat}
    (hs : settings.fault? = none) (hreturn : noLoneReturn content.toList = true) (hn : n ≠ 0)
    (hrecord : (recordsOf settings content)[n]? = some record) :
    ∃ before c after prior ending blanks, content.toList = before ++ c :: after ∧
      Opens settings n before c ∧ before = prior ++ (ending :: blanks).flatMap LineBreak.chars ∧
      ¬ EndsLine prior ∧ lineBehind before = record.position.line + missedLines ending blanks := by
  have hcontent : String.ofList content.toList = content := String.ofList_toList
  have hlength : n < recordCount settings content.toList := by
    rw [recordCount, hcontent]
    exact (List.getElem?_eq_some_iff.mp hrecord).1
  obtain ⟨before, c, after, hsplit, hopens⟩ := exists_opens hs hlength
  obtain ⟨marks, start, hstart⟩ := exists_enters settings (before ++ c :: after)
  obtain ⟨read, hread, hc, hplace, hcount, hposition⟩ := hopens.reached hs hstart
  rw [← hsplit, hcontent, List.getElem?_map, hrecord, Option.map_some, Option.some.injEq]
    at hposition
  have htracks := tracks_read (Settings.separates_delimiterByte hs)
    (Settings.toNat_delimiterByte hs).2 hstart.place hstart.records hstart.line read
  -- only in front of the header nothing is complete
  have hsome : (start.read settings.delimiterByte read).records ≠ [] := by
    intro h
    rw [h] at hcount
    exact hn hcount.symm
  obtain ⟨prior, ending, blanks, hleft⟩ := htracks.leftOff hplace hsome
  have hleft := hleft.behind_marks hstart.isMark
  rw [← hread, ← hposition] at hleft
  obtain ⟨first, others, hbefore, hline⟩ := hleft.exists_missed hc (hsplit ▸ hreturn)
  exact ⟨before, c, after, marks ++ prior, first, others, hsplit, hopens, hbefore, hleft.noBreak,
    hline⟩

end Csv

namespace Table

open Csv

variable {settings : Settings} {content : String} {expected line found : Nat}

/-- **Where a long record is reported.** The counts are those of the header and of the first record
that is longer. The line is the one on which this record begins, less the empty lines in front of it
and less one more if the line before them ends in a carriage return and a line feed. There is one
place in the text where the record begins. -/
theorem ofCsv_longRecord_line (hs : settings.fault? = none)
    (hreturn : noLoneReturn content.toList = true)
    (h : ofCsv settings content = .error (.longRecord expected line found)) :
    ∃ header earlier record later,
      recordsOf settings content = header :: (earlier ++ record :: later) ∧
      (∀ r ∈ earlier, r.fields.length ≤ header.fields.length) ∧
      header.fields.length < record.fields.length ∧
      expected = header.fields.length ∧ found = record.fields.length ∧
      ∃ before c after prior ending blanks, content.toList = before ++ c :: after ∧
        Opens settings (earlier.length + 1) before c ∧
        (∀ before' c' after', content.toList = before' ++ c' :: after' →
          Opens settings (earlier.length + 1) before' c' → before' = before) ∧
        before = prior ++ (ending :: blanks).flatMap LineBreak.chars ∧ ¬ EndsLine prior ∧
        lineBehind before = line + missedLines ending blanks ∧
        (line = lineBehind before ↔ ending = .lineFeed ∧ blanks = []) := by
  have hrefused := (ofCsv_eq_error_iff hs).mp h
  generalize hread : recordsOf settings content = read at hrefused
  cases hrefused with
  | @longRecord header record earlier later hearlier hlong =>
    refine ⟨header, earlier, record, later, rfl, hearlier, hlong, rfl, rfl, ?_⟩
    have hrecord : (recordsOf settings content)[earlier.length + 1]? = some record := by
      rw [hread, List.getElem?_cons_succ, List.getElem?_append_right (Nat.le_refl _),
        Nat.sub_self]
      rfl
    obtain ⟨before, c, after, prior, ending, blanks, hsplit, hopens, hbefore, hprior, hline⟩ :=
      exists_line_of_record hs hreturn (Nat.succ_ne_zero _) hrecord
    refine ⟨before, c, after, prior, ending, blanks, hsplit, hopens, ?_, hbefore, hprior, hline, ?_⟩
    · intro before' c' after' hsplit' hopens'
      exact hopens'.unique hs hopens (hsplit'.symm.trans hsplit)
    · rw [← missedLines_eq_zero_iff]
      omega

/-- The long record stands on line 5, behind a line break in a field, an empty line and ends of
lines of two characters. -/
theorem ofCsv_longRecord_line_behind_empty_line :
    let s := "A,B\r\n\"x\r\ny\",2\r\n\r\n1,2,3\r\n"
    ({} : Settings).fault? = none ∧ noLoneReturn s.toList = true ∧
      ofCsv {} s = .error (.longRecord 2 3 3) ∧
      ∃ header earlier record later,
        recordsOf {} s = header :: (earlier ++ record :: later) ∧
        (∀ r ∈ earlier, r.fields.length ≤ header.fields.length) ∧
        header.fields.length < record.fields.length ∧
        2 = header.fields.length ∧ 3 = record.fields.length ∧
        ∃ before c after prior ending blanks, s.toList = before ++ c :: after ∧
          Opens {} (earlier.length + 1) before c ∧
          (∀ before' c' after', s.toList = before' ++ c' :: after' →
            Opens {} (earlier.length + 1) before' c' → before' = before) ∧
          before = prior ++ (ending :: blanks).flatMap LineBreak.chars ∧ ¬ EndsLine prior ∧
          lineBehind before = 3 + missedLines ending blanks ∧
          (3 = lineBehind before ↔ ending = .lineFeed ∧ blanks = []) := by
  intro s
  have hs : ({} : Settings).fault? = none := by decide
  have hreturn : noLoneReturn s.toList = true := by decide
  have hread : ofCsv {} s = .error (.longRecord 2 3 3) := by decide +kernel
  exact ⟨hs, hreturn, hread, ofCsv_longRecord_line hs hreturn hread⟩

/-- The record begins on the second line and is reported on the first, which is the header's. -/
theorem ofCsv_longRecord_line_ne_behind_return :
    let s := "A,B\r\n1,2,3\r\n"
    ({} : Settings).fault? = none ∧ noLoneReturn s.toList = true ∧
      ofCsv {} s = .error (.longRecord 2 1 3) ∧
      (Failure.longRecord 2 1 3).report.text
        = "Parse error: Expected 2 fields in line 1, saw 3" ∧
      (recordsOf {} s).map (fun r => r.fields.length) = [2, 3] ∧
      s.toList = "A,B\r\n".toList ++ '1' :: ",2,3\r\n".toList ∧
      Opens {} 1 "A,B\r\n".toList '1' ∧ lineBehind "A,B\r\n".toList = 2 := by
  exact ⟨by decide, by decide, by decide +kernel, by decide +kernel, by decide +kernel, by decide, ⟨by decide +kernel, by decide +kernel⟩, by decide⟩

end Table

end TidyTable
