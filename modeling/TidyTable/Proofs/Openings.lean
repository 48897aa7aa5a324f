import Mathlib.Data.List.Induction
import TidyTable.Csv.Codec
import TidyTable.Proofs.Reading
import TidyTable.Proofs.Validity

/-!
# Where a record begins

What is remembered of a record is how far the text was read when the record before it was complete.
Its first character may stand further on, behind the rest of a line end and behind empty lines. That
character is found without a look at the reader: what stands before it holds some records, and with
it there is one more (`Opens`). Every record has exactly one such character (`exists_opens`,
`Opens.unique`).

A character does one of three things, and `Takes` says all that each of them changes. Only a
character that is taken into a record while none is open makes one more, so the place that is
remembered of a record is where the reader stood between the two (`Opens.reached`).
-/

namespace TidyTable.Csv

open Text (Bytes)

variable {d b : UInt8} {c : Char} {r s t : Reader}

/-! ## One byte -/

/-- A record is open behind the step, and it is the same one as before or a new one. -/
structure Within (r s : Reader) : Prop where
  place : s.place ≠ .between
  began : s.began = r.began
  records : s.records = r.records

theorem Within.trans (h : Within r s) (h' : Within s t) : Within r t :=
  ⟨h'.place, h'.began.trans h.began, h'.records.trans h.records⟩

/-- What reading a byte or a character does, by whether it ends a line. -/
inductive Takes (ends : Prop) (r s : Reader) : Prop where
  /-- Between records the line that ends is empty. -/
  | blank : ends → r.place = .between → s.place = .between →
      s.began = r.began → s.records = r.records → Takes ends r s
  /-- In a record a line ends only between quotes. -/
  | within : (ends → r.place = .quoted ∧ s.place = .quoted) → Within r s → Takes ends r s
  /-- Outside quotes the end of a line completes the record. -/
  | completes {fields : List Bytes} : ends → r.place ≠ .between → r.place ≠ .quoted →
      s.place = .between → s.began = s.now → s.records = ⟨r.began, fields⟩ :: r.records →
      Takes ends r s

theorem within_stepBare (hb : isTerminator b = false) (r : Reader) :
    Within r (r.stepBare d b) := by
  unfold Reader.stepBare
  split
  · exact ⟨nofun, rfl, rfl⟩
  · rw [hb, if_neg Bool.false_ne_true]
    exact ⟨nofun, rfl, rfl⟩

theorem within_stepStart (hb : isTerminator b = false) (r : Reader) :
    Within r (r.stepStart d b) := by
  unfold Reader.stepStart
  split
  · exact ⟨nofun, rfl, rfl⟩
  · exact within_stepBare hb r

/-- A byte that ends no line is taken into a record, wherever it stands. -/
theorem within_step (hb : isTerminator b = false) (r : Reader) : Within r (r.step d b) := by
  -- that the byte is counted changes neither records nor where they began
  have hnow {s : Reader} (h : Within { r with now := r.now.advance b } s) : Within r s :=
    ⟨h.place, h.began, h.records⟩
  unfold Reader.step
  cases r.place with
  | between =>
    dsimp only
    rw [hb, if_neg Bool.false_ne_true]
    exact hnow (within_stepStart hb _)
  | start => exact hnow (within_stepStart hb _)
  | bare => exact hnow (within_stepBare hb _)
  | quoted =>
    dsimp only
    split
    · exact ⟨nofun, rfl, rfl⟩
    · exact ⟨nofun, rfl, rfl⟩
  | closed =>
    dsimp only
    split
    · exact ⟨nofun, rfl, rfl⟩
    · exact hnow (within_stepBare hb _)

/-- Every byte does one of the three things. -/
theorem takes_step (hd : Separates d) (r : Reader) (b : UInt8) :
    Takes (isTerminator b = true) r (r.step d b) := by
  by_cases hb : isTerminator b = true
  · have hquote : b ≠ quote := ne_quote_of_terminator hb
    have hbare (s : Reader) : s.stepBare d b = s.endRecord := s.stepBare_terminator hd hb
    have hstart (s : Reader) : s.stepStart d b = s.endRecord := by
      rw [Reader.stepStart_of_ne hquote, hbare]
    unfold Reader.step
    cases hp : r.place with
    | between =>
      dsimp only
      rw [if_pos hb]
      exact .blank hb hp rfl rfl rfl
    | start =>
      dsimp only
      rw [hstart]
      exact .completes hb (by rw [hp]; nofun) (by rw [hp]; nofun) rfl rfl rfl
    | bare =>
      dsimp only
      rw [hbare]
      exact .completes hb (by rw [hp]; nofun) (by rw [hp]; nofun) rfl rfl rfl
    | quoted =>
      dsimp only
      rw [if_neg hquote]
      exact .within (fun _ => ⟨hp, rfl⟩) ⟨nofun, rfl, rfl⟩
    | closed =>
      dsimp only
      rw [if_neg hquote, hbare]
      exact .completes hb (by rw [hp]; nofun) (by rw [hp]; nofun) rfl rfl rfl
  · exact .within (fun h => absurd h hb) (within_step (Bool.not_eq_true _ ▸ hb) r)

/-- Bytes without a line end stay in one record together. -/
theorem within_run {bs : Bytes} (hne : bs ≠ []) (hbs : ∀ b ∈ bs, isTerminator b = false)
    (r : Reader) : Within r (r.run d bs) := by
  induction bs generalizing r with
  | nil => exact absurd rfl hne
  | cons b bs ih =>
    have hfirst : Within r (r.step d b) := within_step (hbs b List.mem_cons_self) r
    rw [Reader.run_cons]
    by_cases hrest : bs = []
    · rw [hrest]
      exact hfirst
    · exact hfirst.trans (ih hrest (fun x hx => hbs x (List.mem_cons_of_mem _ hx)) _)

/-! ## One character -/

/-- The characters that end a line. -/
def IsBreak (c : Char) : Prop := c = '\n' ∨ c = '\r'

/-- Reads characters from a state on. -/
def Reader.read (d : UInt8) (r : Reader) (cs : List Char) : Reader :=
  r.run d (cs.flatMap String.utf8EncodeChar)

@[simp] theorem Reader.read_nil (r : Reader) : r.read d [] = r := rfl

@[simp] theorem Reader.read_append (r : Reader) (as bs : List Char) :
    r.read d (as ++ bs) = (r.read d as).read d bs := by
  unfold Reader.read
  rw [List.flatMap_append, Reader.run_append]

theorem Reader.read_drop_append (r : Reader) (n : Nat) (as bs : List Char) :
    r.read d ((as ++ bs).drop n) = (r.read d (as.drop n)).read d (bs.drop (n - as.length)) := by
  rw [List.drop_append, Reader.read_append]

/-- In ASCII a character and its byte are the same thing. -/
theorem ofNat_toNat_eq_iff {k : Char} (hc : c.toNat < 0x80) (hk : k.toNat < 0x80) :
    UInt8.ofNat c.toNat = UInt8.ofNat k.toNat ↔ c = k := by
  constructor
  · intro h
    have hnat := congrArg UInt8.toNat h
    rw [Text.toNat_ofNat_byte (by omega), Text.toNat_ofNat_byte (by omega)] at hnat
    rw [← Char.ofNat_toNat c, hnat, Char.ofNat_toNat]
  · exact fun h => h ▸ rfl

theorem isTerminator_ofNat_iff (hc : c.toNat < 0x80) :
    isTerminator (UInt8.ofNat c.toNat) = true ↔ IsBreak c := by
  have hlf : UInt8.ofNat c.toNat = lineFeed ↔ c = '\n' :=
    ofNat_toNat_eq_iff (k := '\n') hc (by decide)
  have hcr : UInt8.ofNat c.toNat = carriageReturn ↔ c = '\r' :=
    ofNat_toNat_eq_iff (k := '\r') hc (by decide)
  simp only [isTerminator, Bool.or_eq_true, beq_iff_eq, hlf, hcr, IsBreak]

/-- A character outside ASCII is no line end, nor is any of its bytes one. -/
theorem not_isBreak_of_other (h : ∀ b ∈ String.utf8EncodeChar c, 0x80 ≤ b.toNat) :
    ¬ IsBreak c := by
  rintro (rfl | rfl)
  · exact absurd (h 0x0a (by decide)) (by decide)
  · exact absurd (h 0x0d (by decide)) (by decide)

/-- **So does every character**: one of ASCII as its byte, any other as bytes that end no line. -/
theorem takes_read (hs : Separates d) (hd : d.toNat < 0x80) (r : Reader) (c : Char) :
    Takes (IsBreak c) r (r.read d [c]) := by
  unfold Reader.read
  rw [List.flatMap_singleton]
  rcases Text.encodeChar_ascii_or c with ⟨hc, hbytes⟩ | hbytes
  · have hstep := takes_step hs r (UInt8.ofNat c.toNat)
    rw [isTerminator_ofNat_iff hc] at hstep
    rw [hbytes]
    exact hstep
  · -- all bytes of a character outside ASCII go the same way
    have hne : String.utf8EncodeChar c ≠ [] := by
      rcases Text.encodeChar_cases c with ⟨_, h⟩ | ⟨_, _, h⟩ | ⟨_, _, h⟩ | ⟨_, _, h⟩
      all_goals rw [h]; exact List.cons_ne_nil _ _
    have hplain : ∀ b ∈ String.utf8EncodeChar c, isTerminator b = false := fun b hb =>
      (of_needsQuotes_eq_false (needsQuotes_of_other hd (hbytes b hb))).2.2
    exact .within (fun h => absurd h (not_isBreak_of_other hbytes)) (within_run hne hplain r)

/-! ## The places that are remembered -/

/-- How far the text was read before each record, an open one included. -/
def Reader.positions (r : Reader) : List Position := r.finish.map Record.position

/-- Between records, only those that are complete have begun. -/
theorem Reader.positions_between (h : r.place = .between) :
    r.positions = r.records.reverse.map Record.position := by
  rw [positions, finish, if_pos h]

/-- Inside a record, that one has begun too. -/
theorem Reader.positions_open (h : r.place ≠ .between) :
    r.positions = r.records.reverse.map Record.position ++ [r.began] := by
  rw [positions, finish, if_neg h]
  simp [endRecord]

/-- A character adds a place only if it is taken into a record while none is open. -/
theorem Takes.positions {ends : Prop} (h : Takes ends r s) :
    s.positions = r.positions ∨
      (¬ ends ∧ r.place = .between ∧ s.positions = r.positions ++ [r.began]) := by
  cases h with
  | blank _ hr hs _ hrecords =>
    rw [Reader.positions_between hr, Reader.positions_between hs, hrecords]
    exact Or.inl rfl
  | within hends h =>
    rw [Reader.positions_open h.place, h.began, h.records]
    by_cases hr : r.place = .between
    · refine Or.inr ⟨fun he => ?_, hr, by rw [Reader.positions_between hr]⟩
      rw [(hends he).1] at hr
      exact Place.noConfusion hr
    · rw [Reader.positions_open hr]
      exact Or.inl rfl
  | completes _ hr _ hs _ hrecords =>
    rw [Reader.positions_open hr, Reader.positions_between hs, hrecords]
    exact Or.inl (by simp)

/-- Reading on only adds places. -/
theorem positions_grow (hs : Separates d) (hd : d.toNat < 0x80) (r : Reader) (cs : List Char) :
    r.positions <+: (r.read d cs).positions := by
  induction cs generalizing r with
  | nil => exact List.prefix_refl _
  | cons c cs ih =>
    have hfirst : r.positions <+: (r.read d [c]).positions := by
      rcases (takes_read hs hd r c).positions with h | ⟨_, _, h⟩
      · exact h ▸ List.prefix_refl _
      · exact h ▸ List.prefix_append _ _
    have hread : r.read d (c :: cs) = (r.read d [c]).read d cs := r.read_append [c] cs
    rw [hread]
    exact hfirst.trans (ih _)

/-! ## A text and its beginnings -/

/-- The mark is a character of its own. -/
theorem mark_isPrefixOf_iff (cs : List Char) :
    mark.isPrefixOf (cs.flatMap String.utf8EncodeChar) = true ↔ cs.head? = some byteOrderMark := by
  have hmark : Text.utf8 (String.ofList [byteOrderMark]) = mark := by decide
  constructor
  · intro h
    have htext : Text.IsText (cs.flatMap String.utf8EncodeChar) :=
      ⟨String.ofList cs, by simp [Text.utf8]⟩
    obtain ⟨rest, hrest⟩ := isText_drop_mark htext h
    obtain ⟨tail, htail⟩ := List.isPrefixOf_iff_prefix.mp h
    -- what stands behind the mark is text, so the mark is a character of its own
    have hsplit : Text.utf8 (String.ofList cs)
        = Text.utf8 (String.ofList [byteOrderMark] ++ rest) := by
      rw [Text.utf8_append, hmark, ← hrest, ← htail, List.drop_left', htail]
      · simp [Text.utf8]
      · rfl
    have hcs := congrArg String.toList (Text.utf8_injective hsplit)
    rw [String.toList_append, String.toList_ofList, String.toList_ofList] at hcs
    rw [hcs]
    rfl
  · intro h
    obtain ⟨rest, rfl⟩ := List.head?_eq_some_iff.mp h
    rfl

variable {settings : Settings} {cs before after marks : List Char} {start : Reader} {n : Nat}

theorem records_of_unmarked (h : cs.head? ≠ some byteOrderMark) :
    records d (cs.flatMap String.utf8EncodeChar) = (({} : Reader).read d cs).finish := by
  unfold records
  rw [if_neg fun hmark => h ((mark_isPrefixOf_iff cs).mp hmark)]
  rfl

theorem dropMark_of_unmarked (h : cs.head? ≠ some byteOrderMark) :
    dropMark (String.ofList cs) = String.ofList cs := by
  unfold dropMark
  rw [String.toList_ofList]
  cases cs with
  | nil => rfl
  | cons c cs => exact if_neg fun hc => h (congrArg some hc)

theorem dropMark_mark (cs : List Char) :
    dropMark (String.ofList (byteOrderMark :: cs)) = String.ofList cs := by
  unfold dropMark
  rw [String.toList_ofList]
  exact if_pos rfl

theorem recordsOf_of_unmarked (settings : Settings) (h : cs.head? ≠ some byteOrderMark) :
    recordsOf settings (String.ofList cs)
      = (({} : Reader).read settings.delimiterByte cs).finish := by
  unfold recordsOf Text.utf8
  rw [dropMark_of_unmarked h, String.toList_ofList]
  exact records_of_unmarked h

theorem recordsOf_nil (settings : Settings) : recordsOf settings (String.ofList []) = [] :=
  recordsOf_of_unmarked settings nofun

theorem recordsOf_mark (settings : Settings) (h : cs.head? ≠ some byteOrderMark) :
    recordsOf settings (String.ofList (byteOrderMark :: cs))
      = (({} : Reader).read settings.delimiterByte cs).finish := by
  unfold recordsOf Text.utf8
  rw [dropMark_mark, String.toList_ofList]
  exact records_of_unmarked h

theorem recordsOf_mark_mark (settings : Settings) (cs : List Char) :
    recordsOf settings (String.ofList (byteOrderMark :: byteOrderMark :: cs))
      = (({ now := { byte := mark.length } } : Reader).read settings.delimiterByte cs).finish := by
  unfold recordsOf Text.utf8
  rw [dropMark_mark, String.toList_ofList]
  rfl

/-- A reader that has skipped the marks in front of a text. -/
structure Enters (settings : Settings) (cs marks : List Char) (start : Reader) : Prop where
  inFront : marks <+: cs
  isMark : ∀ c ∈ marks, c = byteOrderMark
  place : start.place = .between
  records : start.records = []
  line : start.now.line = 1
  /-- It finds in every beginning of the text what reading that beginning alone finds. -/
  read : ∀ before, before <+: cs → recordsOf settings (String.ofList before) =
    (start.read settings.delimiterByte (before.drop marks.length)).finish

/-- What a text does not begin with, its beginnings do not begin with either. -/
theorem head?_ne_of_beginning {m : Char} (h : before <+: cs) (hm : cs.head? ≠ some m) :
    before.head? ≠ some m := by
  obtain ⟨rest, rfl⟩ := h
  cases before with
  | nil => nofun
  | cons c before => exact hm

/-- There are up to two marks, and they are no part of any record. -/
theorem exists_enters (settings : Settings) (cs : List Char) :
    ∃ marks start, Enters settings cs marks start := by
  by_cases h1 : cs.head? = some byteOrderMark
  · obtain ⟨rest, rfl⟩ := List.head?_eq_some_iff.mp h1
    by_cases h2 : rest.head? = some byteOrderMark
    · obtain ⟨rest, rfl⟩ := List.head?_eq_some_iff.mp h2
      refine ⟨[byteOrderMark, byteOrderMark], { now := { byte := mark.length } },
        ⟨rest, rfl⟩, by simp, rfl, rfl, rfl, fun before hbefore => ?_⟩
      match before, hbefore with
      | [], _ => exact recordsOf_nil settings
      | [c], hbefore =>
        obtain ⟨rfl, _⟩ := List.cons_prefix_cons.mp hbefore
        exact recordsOf_mark settings nofun
      | c :: c' :: before, hbefore =>
        obtain ⟨rfl, hrest⟩ := List.cons_prefix_cons.mp hbefore
        obtain ⟨rfl, _⟩ := List.cons_prefix_cons.mp hrest
        exact recordsOf_mark_mark settings before
    · refine ⟨[byteOrderMark], {}, ⟨rest, rfl⟩, by simp, rfl, rfl, rfl, fun before hbefore => ?_⟩
      match before, hbefore with
      | [], _ => exact recordsOf_nil settings
      | c :: before, hbefore =>
        obtain ⟨rfl, hrest⟩ := List.cons_prefix_cons.mp hbefore
        exact recordsOf_mark settings (head?_ne_of_beginning hrest h2)
  · exact ⟨[], {}, ⟨cs, rfl⟩, by simp, rfl, rfl, rfl, fun before hbefore =>
      recordsOf_of_unmarked settings (head?_ne_of_beginning hbefore h1)⟩

/-! ## The first character of a record -/

/-- How many records characters hold. -/
def recordCount (settings : Settings) (cs : List Char) : Nat :=
  (recordsOf settings (String.ofList cs)).length

/-- Whether a character is the first one of a record: what stands before it holds so many records,
and with it there is one more. Records are numbered from 0, which is the header. -/
structure Opens (settings : Settings) (number : Nat) (before : List Char) (c : Char) : Prop where
  count : recordCount settings before = number
  count_snoc : recordCount settings (before ++ [c]) = number + 1

theorem Enters.recordCount_eq (h : Enters settings cs marks start) (hbefore : before <+: cs) :
    recordCount settings before
      = (start.read settings.delimiterByte (before.drop marks.length)).positions.length := by
  unfold recordCount Reader.positions
  rw [h.read before hbefore, List.length_map]

/-- Reading on can only begin more records. -/
theorem recordCount_mono (hs : settings.fault? = none) (h : before <+: cs) :
    recordCount settings before ≤ recordCount settings cs := by
  obtain ⟨marks, start, hstart⟩ := exists_enters settings cs
  rw [hstart.recordCount_eq h, hstart.recordCount_eq (List.prefix_refl cs)]
  obtain ⟨rest, rfl⟩ := h
  rw [Reader.read_drop_append]
  exact (positions_grow (Settings.separates_delimiterByte hs)
    (Settings.toNat_delimiterByte hs).2 _ _).length_le

/-- No record begins with a mark, so what stands before its first character was read behind them. -/
theorem Opens.exists_read (ho : Opens settings n before c)
    (h : Enters settings (before ++ c :: after) marks start) :
    ∃ read, before = marks ++ read ∧
      (start.read settings.delimiterByte read).positions.length = n ∧
      (start.read settings.delimiterByte (read ++ [c])).positions.length = n + 1 := by
  have hsnoc : before ++ [c] <+: before ++ c :: after := ⟨after, by simp⟩
  have hcount := ho.count
  have hcount' := ho.count_snoc
  rw [h.recordCount_eq (List.prefix_append before _)] at hcount
  rw [h.recordCount_eq hsnoc] at hcount'
  by_cases hlong : marks.length ≤ before.length
  · obtain ⟨read, rfl⟩ := List.prefix_of_prefix_length_le h.inFront (List.prefix_append _ _) hlong
    rw [List.drop_left] at hcount
    rw [List.append_assoc, List.drop_left] at hcount'
    exact ⟨read, rfl, hcount, hcount'⟩
  · have hnone : [c].drop (marks.length - before.length) = [] :=
      List.drop_eq_nil_of_le (by simp; omega)
    rw [Reader.read_drop_append, hnone, Reader.read_nil] at hcount'
    omega

/-- Where a record begins, the reader stands between records, and it remembers this place of the
record from then on. -/
theorem Opens.reached (hs : settings.fault? = none) (ho : Opens settings n before c)
    (h : Enters settings (before ++ c :: after) marks start) :
    ∃ read, before = marks ++ read ∧ ¬ IsBreak c ∧
      (start.read settings.delimiterByte read).place = .between ∧
      (start.read settings.delimiterByte read).records.length = n ∧
      ((recordsOf settings (String.ofList (before ++ c :: after))).map Record.position)[n]?
        = some (start.read settings.delimiterByte read).began := by
  have hd := Settings.separates_delimiterByte hs
  have hascii := (Settings.toNat_delimiterByte hs).2
  obtain ⟨read, rfl, hcount, hcount'⟩ := ho.exists_read h
  have htakes := takes_read hd hascii (start.read settings.delimiterByte read) c
  rw [← Reader.read_append] at htakes
  rcases htakes.positions with hsame | ⟨hc, hplace, hmore⟩
  · rw [hsame] at hcount'
    omega
  · refine ⟨read, rfl, hc, hplace, ?_, ?_⟩
    · rw [Reader.positions_between hplace] at hcount
      simpa using hcount
    · -- behind the character there are only more places
      obtain ⟨others, hothers⟩ := positions_grow hd hascii
        (start.read settings.delimiterByte (read ++ [c])) after
      have hall : (marks ++ read ++ c :: after).drop marks.length = (read ++ [c]) ++ after := by
        simp
      rw [h.read _ (List.prefix_refl _), hall, Reader.read_append]
      show (Reader.positions _)[n]? = _
      rw [← hothers, hmore, ← hcount, List.append_assoc,
        List.getElem?_append_right (Nat.le_refl _), Nat.sub_self]
      rfl

/-- One character makes at most one record. -/
theorem recordCount_snoc_le (hs : settings.fault? = none) (cs : List Char) (c : Char) :
    recordCount settings (cs ++ [c]) ≤ recordCount settings cs + 1 := by
  obtain ⟨marks, start, h⟩ := exists_enters settings (cs ++ [c])
  rw [h.recordCount_eq (List.prefix_refl _), h.recordCount_eq (List.prefix_append cs _),
    Reader.read_drop_append]
  cases marks.length - cs.length with
  | zero =>
    rcases (takes_read (Settings.separates_delimiterByte hs) (Settings.toNat_delimiterByte hs).2
      (start.read settings.delimiterByte (cs.drop marks.length)) c).positions with hp | ⟨_, _, hp⟩
    · rw [List.drop_zero, hp]
      omega
    · rw [List.drop_zero, hp, List.length_append]
      exact Nat.le_refl _
  | succ k =>
    rw [List.drop_succ_cons, List.drop_nil, Reader.read_nil]
    omega

/-- **Every record has a first character.** -/
theorem exists_opens (hs : settings.fault? = none) (hn : n < recordCount settings cs) :
    ∃ before c after, cs = before ++ c :: after ∧ Opens settings n before c := by
  induction cs using List.reverseRecOn with
  | nil =>
    have hnone : recordCount settings [] = 0 := congrArg List.length (recordsOf_nil settings)
    omega
  | append_singleton cs c ih =>
    by_cases hin : n < recordCount settings cs
    · obtain ⟨before, c', after, hsplit, ho⟩ := ih hin
      exact ⟨before, c', after ++ [c], by rw [hsplit]; simp, ho⟩
    · have hle := recordCount_snoc_le hs cs c
      exact ⟨cs, c, [], rfl, by omega, by omega⟩

/-- Behind the first character of a record no other one is its first. -/
theorem Opens.length_le {c' : Char} {before' after' : List Char} (hs : settings.fault? = none)
    (h : Opens settings n before c) (h' : Opens settings n before' c')
    (hsplit : before ++ c :: after = before' ++ c' :: after') : before'.length ≤ before.length := by
  by_contra hlt
  have hfirst : before ++ [c] <+: before ++ c :: after := ⟨after, by simp⟩
  have hsecond : before' <+: before ++ c :: after := ⟨c' :: after', hsplit.symm⟩
  have hprefix : before ++ [c] <+: before' :=
    List.prefix_of_prefix_length_le hfirst hsecond (by simp; omega)
  have hcount := recordCount_mono hs hprefix
  rw [h.count_snoc, h'.count] at hcount
  omega

/-- **It has only one.** -/
theorem Opens.unique {c' : Char} {before' after' : List Char} (hs : settings.fault? = none)
    (h : Opens settings n before c) (h' : Opens settings n before' c')
    (hsplit : before ++ c :: after = before' ++ c' :: after') : before = before' :=
  List.append_inj_left hsplit
    (Nat.le_antisymm (h'.length_le hs h hsplit.symm) (h.length_le hs h' hsplit))

end TidyTable.Csv
