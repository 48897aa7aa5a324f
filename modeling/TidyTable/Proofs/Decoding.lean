import TidyTable.Proofs.Passes

/-!
# Bytes and the text they stand for

Bytes are processed as the text that they stand for, and what comes out is the text in UTF-8. There
are three exceptions. A line feed alone has no table and comes out as it is, and this is asked of
the export itself, before its bytes are decoded. So a line feed behind a byte order mark is no such
export, although it stands for the same text; it is read as a table and refused.

That there are no more of them is a statement on decoding: which bytes stand for a line feed? In
UTF-8 a character that is begun is outside ASCII or is broken off, and in UTF-16 every pair of bytes
gives some character, so it is only the line feed itself in each of the encodings.
-/

namespace TidyTable

namespace Text

variable {b : Nat} {p : Partial} {bs : List UInt8}

/-! ## The list of bytes -/

/-- The list is made from the back of the bytes on: what is collected so far stands in front. -/
theorem toList_loop (bytes : ByteArray) (i : Nat) (r : List UInt8) :
    ByteArray.toList.loop bytes i r = r.reverse ++ bytes.data.toList.drop i := by
  fun_induction ByteArray.toList.loop bytes i r with
  | case1 i r h ih =>
    have hi : i < bytes.data.toList.length := h
    have hget : bytes.get! i = bytes.data.toList[i] := by
      show bytes.data[i]! = _
      rw [getElem!_pos bytes.data i h, Array.getElem_toList]
    rw [ih, List.drop_eq_getElem_cons hi, hget, List.reverse_cons, List.append_assoc]
    rfl
  | case2 i r h =>
    have hi : bytes.data.toList.length ≤ i := Nat.le_of_not_lt h
    rw [List.drop_eq_nil_of_le hi, List.append_nil]

/-- Bytes are determined by their list. -/
theorem toList_injective {bytes bytes' : ByteArray} (h : bytes.toList = bytes'.toList) :
    bytes = bytes' := by
  unfold ByteArray.toList at h
  rw [toList_loop, toList_loop] at h
  exact ByteArray.ext (Array.toList_inj.mp h)

/-- So they are equal if their lists are. -/
theorem beq_iff_toList_eq (bytes bytes' : ByteArray) :
    (bytes == bytes') = true ↔ bytes.toList = bytes'.toList := by
  show (bytes.data == bytes'.data) = true ↔ _
  rw [beq_iff_eq]
  exact ⟨fun h => congrArg ByteArray.toList (ByteArray.ext h),
    fun h => congrArg ByteArray.data (toList_injective h)⟩

/-! ## A line feed in UTF-8 -/

/-- Only one number stands for a line feed; one that is no character stands for NUL. -/
theorem eq_of_ofNat_eq_lineFeed {n : Nat} (h : Char.ofNat n = '\n') : n = 10 := by
  unfold Char.ofNat at h
  by_cases hvalid : n.isValidChar
  · rw [dif_pos hvalid] at h
    exact congrArg Char.toNat h
  · rw [dif_neg hvalid] at h
    exact absurd h (by decide)

/-- A character that is begun is more than the line feed, whatever comes next: some of its bits are
set, or more bytes are missing and the next one sets some. -/
def Partial.Wide (p : Partial) : Prop := 1 ≤ p.value ∨ (1 < p.missing ∧ 0x80 < p.least)

/-- The first byte of a longer character sets some bits, or at least two more follow and the number
has to be large. -/
theorem wide_of_lead? (h : lead? b = some p) : p.Wide := by
  grind [lead?, Partial.Wide]

/-- A byte is a character of ASCII, begins a longer one, or is undecodable. -/
theorem begin_cases (b : Nat) :
    (b < 0x80 ∧ begin b = (some (Char.ofNat b), none)) ∨
    (∃ p : Partial, p.Wide ∧ begin b = (none, some p)) ∨ begin b = (some undecodable, none) := by
  unfold begin
  split
  · rename_i h
    exact Or.inl ⟨h, rfl⟩
  · cases hlead : lead? b with
    | some p => exact Or.inr (Or.inl ⟨p, wide_of_lead? hlead, rfl⟩)
    | none => exact Or.inr (Or.inr rfl)

/-- What a byte gives to a character that is begun: it is broken off, it is complete, or it is still
begun. In no case is it a line feed. -/
theorem Partial.Wide.step_cases (h : p.Wide) (b : Nat) :
    (∃ cs q, p.step b = (undecodable :: cs, q)) ∨
    (∃ c, c ≠ '\n' ∧ p.step b = ([c], none)) ∨ ∃ q : Partial, q.Wide ∧ p.step b = ([], some q) := by
  unfold Partial.step
  unfold Partial.Wide at h
  split
  · rename_i hb
    simp only [Bool.and_eq_true, decide_eq_true_eq] at hb
    split
    · rename_i hlast
      refine Or.inr (Or.inl ⟨_, fun e => ?_, rfl⟩)
      have hn := eq_of_ofNat_eq_lineFeed e
      omega
    · refine Or.inr (Or.inr ⟨_, Or.inl ?_, rfl⟩)
      show 1 ≤ p.value * 64 + (b - 0x80)
      omega
  · exact Or.inl ⟨_, _, rfl⟩

/-- **What is begun never ends as a line feed.** -/
theorem Partial.Wide.decodeUtf8From (h : p.Wide) (bs : List UInt8) :
    ∃ c cs, Text.decodeUtf8From (some p) bs = c :: cs ∧ c ≠ '\n' := by
  induction bs generalizing p with
  | nil => exact ⟨undecodable, [], rfl, by decide⟩
  | cons b bs ih =>
    rw [Text.decodeUtf8From]
    rcases h.step_cases b.toNat with ⟨cs, q, hstep⟩ | ⟨c, hc, hstep⟩ | ⟨q, hq, hstep⟩
    · rw [hstep]
      exact ⟨undecodable, _, rfl, by decide⟩
    · rw [hstep]
      exact ⟨c, _, rfl, hc⟩
    · rw [hstep]
      exact ih hq

/-- Every byte gives some character sooner or later. -/
theorem decodeUtf8_eq_nil_iff : decodeUtf8 bs = [] ↔ bs = [] := by
  refine ⟨fun h => ?_, fun h => h ▸ rfl⟩
  cases bs with
  | nil => rfl
  | cons b bs =>
    unfold decodeUtf8 at h
    rw [decodeUtf8From] at h
    rcases begin_cases b.toNat with ⟨_, hb⟩ | ⟨p, hp, hb⟩ | hb
    · rw [hb] at h
      exact absurd h nofun
    · obtain ⟨c, cs, hcs, _⟩ := hp.decodeUtf8From bs
      rw [hb] at h
      exact absurd (hcs.symm.trans h) nofun
    · rw [hb] at h
      exact absurd h nofun

/-- **Only its own byte stands for a line feed in UTF-8.** -/
theorem decodeUtf8_eq_lineFeed_iff : decodeUtf8 bs = ['\n'] ↔ bs = [0x0a] := by
  refine ⟨fun h => ?_, fun h => h ▸ rfl⟩
  cases bs with
  | nil => exact absurd h nofun
  | cons b bs =>
    unfold decodeUtf8 at h
    rw [decodeUtf8From] at h
    rcases begin_cases b.toNat with ⟨_, hb⟩ | ⟨p, hp, hb⟩ | hb
    · rw [hb] at h
      obtain ⟨hc, hrest⟩ := List.cons.inj h
      obtain rfl := decodeUtf8_eq_nil_iff.mp hrest
      have hb' : b = 0x0a := UInt8.toNat_inj.mp (eq_of_ofNat_eq_lineFeed hc)
      rw [hb']
    · obtain ⟨c, cs, hcs, hc⟩ := hp.decodeUtf8From bs
      rw [hb] at h
      exact absurd (List.cons.inj (hcs.symm.trans h)).1 hc
    · rw [hb] at h
      exact absurd (List.cons.inj h).1 (by decide)

/-! ## A line feed in UTF-16 -/

/-- So does every unit. -/
theorem decodeUnits_ne_nil (odd : Bool) (u : Nat) (us : List Nat) :
    decodeUnits odd (u :: us) ≠ [] := by
  cases us with
  | nil =>
    rw [decodeUnits]
    split <;> exact List.cons_ne_nil _ _
  | cons v us =>
    rw [decodeUnits]
    repeat' split
    all_goals exact List.cons_ne_nil _ _

/-- Of a pair of halves comes a character that one unit alone cannot stand for. -/
theorem paired_ne_lineFeed (first second : Nat) : paired first second ≠ '\n' := by
  intro h
  have hn := eq_of_ofNat_eq_lineFeed h
  omega

/-- A unit alone stands for itself or is undecodable. -/
theorem eq_of_lone_eq_lineFeed {u : Nat}
    (h : (if isSecondHalf u then undecodable else Char.ofNat u) = '\n') : u = 10 := by
  split at h
  · exact absurd h (by decide)
  · exact eq_of_ofNat_eq_lineFeed h

/-- **Only its own unit stands for a line feed in UTF-16.** -/
theorem decodeUnits_eq_lineFeed_iff {odd : Bool} {us : List Nat} :
    decodeUnits odd us = ['\n'] ↔ us = [10] ∧ odd = false := by
  refine ⟨fun h => ?_, fun ⟨hus, hodd⟩ => by rw [hus, hodd]; rfl⟩
  cases us with
  | nil =>
    cases odd with
    | true => exact absurd (List.cons.inj h).1 (by decide)
    | false => exact absurd h nofun
  | cons u us =>
    cases us with
    | nil =>
      rw [decodeUnits] at h
      split at h
      · exact absurd (List.cons.inj h).1 (by decide)
      · obtain ⟨hu, hrest⟩ := List.cons.inj h
        cases odd with
        | true => exact absurd hrest nofun
        | false => exact ⟨by rw [eq_of_lone_eq_lineFeed hu], rfl⟩
    | cons v us =>
      rw [decodeUnits] at h
      split at h
      · split at h
        · exact absurd (List.cons.inj h).1 (paired_ne_lineFeed u v)
        · exact absurd (List.cons.inj h).1 (by decide)
      · -- the unit behind it would have to stand for nothing
        exact absurd (List.cons.inj h).2 (decodeUnits_ne_nil odd v us)

/-- One unit comes of two bytes. -/
theorem units_eq_singleton_iff {unit : UInt8 → UInt8 → Nat} {u : Nat} :
    units unit bs = ([u], false) ↔ ∃ a b, bs = [a, b] ∧ unit a b = u := by
  refine ⟨fun h => ?_, fun ⟨a, b, hbs, hu⟩ => by rw [hbs, ← hu]; rfl⟩
  match bs with
  | [] => exact absurd h nofun
  | [_] => exact absurd h nofun
  | [a, b] => exact ⟨a, b, rfl, (List.cons.inj (Prod.mk.inj h).1).1⟩
  | [_, _, _] => exact absurd h nofun
  | _ :: _ :: _ :: _ :: _ => exact absurd (List.cons.inj (Prod.mk.inj h).1).2 nofun

/-- So two bytes stand for a line feed, and none may be left over. -/
theorem decodeUtf16_eq_lineFeed_iff {unit : UInt8 → UInt8 → Nat} :
    decodeUtf16 unit bs = ['\n'] ↔ ∃ a b, bs = [a, b] ∧ unit a b = 10 := by
  rw [← units_eq_singleton_iff]
  unfold decodeUtf16
  rw [decodeUnits_eq_lineFeed_iff, Prod.ext_iff]

/-! ## Bytes that stand for a line feed -/

/-- A line feed behind each of the byte order marks, in the encoding of the mark. -/
def markedLineFeeds : List (List UInt8) :=
  [[0xef, 0xbb, 0xbf, 0x0a], [0xff, 0xfe, 0x0a, 0x00], [0xfe, 0xff, 0x00, 0x0a]]

/-- The two bytes of a line feed, the high one first. -/
theorem highFirst_eq_lineFeed_iff {a b : UInt8} : highFirst a b = 10 ↔ a = 0x00 ∧ b = 0x0a := by
  unfold highFirst
  refine ⟨fun h => ?_, fun ⟨ha, hb⟩ => by rw [ha, hb]; rfl⟩
  have hlt := b.toNat_lt
  exact ⟨UInt8.toNat_inj.mp (show a.toNat = 0 by omega),
    UInt8.toNat_inj.mp (show b.toNat = 10 by omega)⟩

/-- These are the bytes that stand for it when the high one comes first. -/
theorem decodeUtf16_highFirst_iff : decodeUtf16 highFirst bs = ['\n'] ↔ bs = [0x00, 0x0a] := by
  rw [decodeUtf16_eq_lineFeed_iff]
  constructor
  · rintro ⟨a, b, rfl, h⟩
    obtain ⟨rfl, rfl⟩ := highFirst_eq_lineFeed_iff.mp h
    rfl
  · rintro rfl
    exact ⟨_, _, rfl, rfl⟩

/-- When the low one comes first, they are exchanged. -/
theorem decodeUtf16_lowFirst_iff : decodeUtf16 lowFirst bs = ['\n'] ↔ bs = [0x0a, 0x00] := by
  rw [decodeUtf16_eq_lineFeed_iff]
  constructor
  · rintro ⟨a, b, rfl, h⟩
    -- the same unit with its bytes exchanged
    have h' : highFirst b a = 10 := h
    obtain ⟨rfl, rfl⟩ := highFirst_eq_lineFeed_iff.mp h'
    rfl
  · rintro rfl
    exact ⟨_, _, rfl, rfl⟩

/-- **The bytes that stand for a line feed** are the line feed and those behind a mark. -/
theorem decode_eq_lineFeed_iff {bytes : ByteArray} :
    decode bytes = "\n" ↔ bytes.toList = [0x0a] ∨ bytes.toList ∈ markedLineFeeds := by
  unfold decode markedLineFeeds
  rw [show "\n" = String.ofList ['\n'] from rfl, String.ofList_inj]
  split
  · rename_i bs hbytes
    rw [hbytes, decodeUtf8_eq_lineFeed_iff]
    simp
  · rename_i bs hbytes
    rw [hbytes, decodeUtf16_lowFirst_iff]
    simp
  · rename_i bs hbytes
    rw [hbytes, decodeUtf16_highFirst_iff]
    simp
  · -- without a mark the bytes are none of those behind one
    rename_i hutf8 hlow hhigh
    rw [decodeUtf8_eq_lineFeed_iff]
    refine ⟨Or.inl, fun h => h.resolve_right fun hmem => ?_⟩
    simp only [List.mem_cons, List.not_mem_nil, or_false] at hmem
    rcases hmem with h | h | h
    · exact hutf8 _ h
    · exact hlow _ h
    · exact hhigh _ h

end Text

/-! ## Processing bytes -/

/-- An export of text as an export of the bytes of this text. -/
def Payload.encoded : Payload → Payload
  | .text s => .bytes s.toUTF8
  | other => other

namespace Processor

/-- The export without a table is one byte. -/
theorem toList_emptyCsv : Payload.emptyCsv.toUTF8.toList = [0x0a] := by decide +kernel

/-- Bytes are asked for this one byte before they are decoded. -/
theorem process_bytes (p : Processor) (b : ByteArray) :
    p.process .csv (.bytes b) =
      if b.toList = [0x0a] then .ok (.bytes b)
      else (p.processCsv (Text.decode b)).map fun s => .bytes s.toUTF8 := by
  unfold process
  simp only [Text.beq_iff_toList_eq, toList_emptyCsv]

/-- A text is asked for the same, as a text. -/
theorem process_text_encoded (p : Processor) (s : String) :
    (p.process .csv (.text s)).map Payload.encoded =
      if s = Payload.emptyCsv then .ok (.bytes Payload.emptyCsv.toUTF8)
      else (p.processCsv s).map fun s => .bytes s.toUTF8 := by
  unfold process
  dsimp only
  by_cases hs : s = Payload.emptyCsv
  · rw [if_pos hs, if_pos (beq_iff_eq.mpr hs), hs]
    rfl
  · rw [if_neg hs, if_neg (by simpa using hs)]
    cases p.processCsv s <;> rfl

/-- A line feed has no header, so as a table it is refused. -/
theorem processCsv_emptyCsv (p : Processor) :
    p.processCsv Payload.emptyCsv = .error .noColumns := by
  unfold processCsv
  rw [ofCsv_emptyCsv]
  rfl

/-- The bytes behind a mark stand for it too. -/
theorem decode_marked {b : ByteArray} (h : b.toList ∈ Text.markedLineFeeds) :
    Text.decode b = Payload.emptyCsv :=
  Text.decode_eq_lineFeed_iff.mpr (Or.inr h)

/-- **Bytes are processed as the text that they stand for**, with the same failures, and what comes
out is the bytes of the text that comes out. Only a line feed behind a byte order mark is refused,
and its text is passed as it is. -/
theorem process_bytes_eq (p : Processor) (b : ByteArray) :
    (p.process .csv (.bytes b) =
      if b.toList ∈ Text.markedLineFeeds then .error .noColumns
      else (p.process .csv (.text (Text.decode b))).map Payload.encoded) ∧
    (b.toList ∈ Text.markedLineFeeds →
      p.process .csv (.text (Text.decode b)) = .ok (.text (Text.decode b))) := by
  constructor
  · rw [process_bytes, process_text_encoded]
    by_cases hempty : b.toList = [0x0a]
    · -- the line feed itself
      have hmarked : b.toList ∉ Text.markedLineFeeds := by rw [hempty]; decide
      have hb : b = Payload.emptyCsv.toUTF8 :=
        Text.toList_injective (hempty.trans toList_emptyCsv.symm)
      have htext : Text.decode b = Payload.emptyCsv :=
        Text.decode_eq_lineFeed_iff.mpr (Or.inl hempty)
      rw [if_pos hempty, if_neg hmarked, if_pos htext, ← hb]
    rw [if_neg hempty]
    by_cases hmarked : b.toList ∈ Text.markedLineFeeds
    · rw [if_pos hmarked, decode_marked hmarked, processCsv_emptyCsv]
      rfl
    · have htext : Text.decode b ≠ Payload.emptyCsv := fun h =>
        (Text.decode_eq_lineFeed_iff.mp h).elim hempty hmarked
      rw [if_neg hmarked, if_neg htext]
  · intro hmarked
    rw [decode_marked hmarked]
    rfl

/-- The mark may be one of UTF-16. -/
theorem process_bytes_eq_behind_mark :
    let b : ByteArray := ⟨#[0xff, 0xfe, 0x0a, 0x00]⟩
    ofSettings {} = .ok standard ∧ b.toList ∈ Text.markedLineFeeds ∧
      standard.process .csv (.bytes b) = .error .noColumns ∧
      standard.process .csv (.text (Text.decode b)) = .ok (.text (Text.decode b)) := by
  intro b
  have hmarked : b.toList ∈ Text.markedLineFeeds := by decide +kernel
  obtain ⟨hbytes, htext⟩ := process_bytes_eq standard b
  exact ⟨ofSettings_standard, hmarked, hbytes.trans (if_pos hmarked), htext hmarked⟩

/-- A line feed behind the mark of UTF-8 is refused as bytes and passed as text. -/
theorem process_bytes_marked_lineFeed :
    let b : ByteArray := ⟨#[0xef, 0xbb, 0xbf, 0x0a]⟩
    ofSettings {} = .ok standard ∧ Text.decode b = "\n" ∧
      standard.process .csv (.bytes b) = .error .noColumns ∧
      standard.process .csv (.text (Text.decode b)) = .ok (.text "\n") := by
  intro b
  have hbytes : b.toList = [0xef, 0xbb, 0xbf, 0x0a] := by decide +kernel
  have htext : Text.decode b = "\n" := decode_marked (by rw [hbytes]; decide)
  refine ⟨ofSettings_standard, htext, ?_, ?_⟩
  · rw [process_bytes, htext, hbytes, if_neg (by decide)]
    exact congrArg (Except.map _) (processCsv_emptyCsv standard)
  · rw [htext]
    rfl

end Processor

end TidyTable
