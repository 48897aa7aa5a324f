import TidyTable.Proofs.Records
import TidyTable.Proofs.Utf8

/-!
# What a text says

A text is read in two steps: its bytes are taken apart into records, and the records are made into a
table. `Reads` is what lies between: the texts of the fields, with no trace of how they were quoted.

The bytes are taken apart without asking whether they are text, so it has to be shown that the
pieces are. They are, because the delimiter and the marks are bytes of ASCII. Such a byte is a
character of its own, so no character is ever cut in two. The invariant is `Sound`: between
characters, whatever a reader has in hand is text. Inside a character it is not, and a whole
character is one step.
-/

namespace TidyTable

open Text (Bytes IsText)

namespace Csv

variable {d b : UInt8} {r : Reader}

/-- Whatever a reader has in hand is text. -/
structure Sound (r : Reader) : Prop where
  field : IsText r.field.reverse
  fields : ∀ f ∈ r.fields, IsText f
  records : ∀ record ∈ r.records, ∀ f ∈ record.fields, IsText f

/-- One byte does one of four things, wherever in the text it stands: it only changes the place, it
goes into the field, or it completes the field or the record. -/
theorem Reader.step_cases (d : UInt8) (r : Reader) (b : UInt8) :
    (∃ p, r.step d b = { r with now := r.now.advance b, place := p }) ∨
    (∃ p, r.step d b = { r with now := r.now.advance b }.push p b) ∨
    r.step d b = { r with now := r.now.advance b }.endField ∨
    r.step d b = { r with now := r.now.advance b }.endRecord := by
  have hbare (s : Reader) : s.stepBare d b = s.push .bare b ∨ s.stepBare d b = s.endField ∨
      s.stepBare d b = s.endRecord := by
    unfold stepBare
    split
    · exact Or.inr (Or.inl rfl)
    split
    · exact Or.inr (Or.inr rfl)
    · exact Or.inl rfl
  have hother (s : Reader) : (∃ p, s.stepBare d b = { s with place := p }) ∨
      (∃ p, s.stepBare d b = s.push p b) ∨ s.stepBare d b = s.endField ∨
      s.stepBare d b = s.endRecord :=
    Or.inr ((hbare s).imp (fun h => ⟨.bare, h⟩) id)
  have hstart (s : Reader) : (∃ p, s.stepStart d b = { s with place := p }) ∨
      (∃ p, s.stepStart d b = s.push p b) ∨ s.stepStart d b = s.endField ∨
      s.stepStart d b = s.endRecord := by
    unfold stepStart
    split
    · exact Or.inl ⟨.quoted, rfl⟩
    · exact hother s
  unfold step
  cases hp : r.place with
  | between =>
    dsimp only
    split
    · exact Or.inl ⟨.between, by rw [← hp]⟩
    · exact hstart _
  | start => exact hstart _
  | bare => exact hother _
  | quoted =>
    dsimp only
    split
    · exact Or.inl ⟨.closed, rfl⟩
    · exact Or.inr (Or.inl ⟨.quoted, rfl⟩)
  | closed =>
    dsimp only
    split
    · exact Or.inr (Or.inl ⟨.quoted, rfl⟩)
    · exact hother _

theorem Sound.endField (h : Sound r) : Sound r.endField := by
  refine ⟨Text.isText_nil, fun f hf => ?_, h.records⟩
  rcases List.mem_cons.mp hf with rfl | hf
  · exact h.field
  · exact h.fields f hf

theorem Sound.endRecord (h : Sound r) : Sound r.endRecord := by
  refine ⟨Text.isText_nil, fun f hf => absurd hf List.not_mem_nil, fun record hrecord f hf => ?_⟩
  rcases List.mem_cons.mp hrecord with rfl | hrecord
  · rcases List.mem_cons.mp (List.mem_reverse.mp hf) with rfl | hf
    · exact h.field
    · exact h.fields f hf
  · exact h.records record hrecord f hf

/-- A byte of ASCII is text by itself, so what is in hand stays text. -/
theorem Sound.ascii (h : Sound r) (hb : b.toNat < 0x80) : Sound (r.step d b) := by
  have hnow (now : Position) : Sound { r with now := now } := ⟨h.field, h.fields, h.records⟩
  rcases r.step_cases d b with ⟨p, hs⟩ | ⟨p, hs⟩ | hs | hs
  · rw [hs]
    exact ⟨h.field, h.fields, h.records⟩
  · rw [hs]
    refine ⟨?_, h.fields, h.records⟩
    show IsText (b :: r.field).reverse
    rw [List.reverse_cons]
    exact h.field.append (Text.isText_ascii hb)
  · rw [hs]
    exact (hnow _).endField
  · rw [hs]
    exact (hnow _).endRecord

/-- A byte outside ASCII is neither the delimiter nor a mark. -/
theorem needsQuotes_of_other (hd : d.toNat < 0x80) (hb : 0x80 ≤ b.toNat) :
    needsQuotes d b = false := by
  have hne {c : UInt8} (hc : c.toNat < 0x80) : b ≠ c := by
    intro e
    rw [e] at hb
    omega
  have hquote : b ≠ quote := hne (by decide)
  have hlf : b ≠ lineFeed := hne (by decide)
  have hcr : b ≠ carriageReturn := hne (by decide)
  simp [needsQuotes, isTerminator, hne hd, hquote, hlf, hcr]

/-- Bytes outside ASCII go into the field one after another. -/
theorem Reader.run_other (hd : d.toNat < 0x80) {bs : Bytes} (hbs : ∀ b ∈ bs, 0x80 ≤ b.toNat)
    (r : Reader) : (r.run d bs).field = bs.reverse ++ r.field ∧
      (r.run d bs).fields = r.fields ∧ (r.run d bs).records = r.records := by
  induction bs generalizing r with
  | nil => exact ⟨rfl, rfl, rfl⟩
  | cons b bs ih =>
    have hstep := r.step_plain (needsQuotes_of_other hd (hbs b List.mem_cons_self))
    have hrest := ih (fun x hx => hbs x (List.mem_cons_of_mem _ hx)) (r.step d b)
    rw [Reader.run_cons, List.reverse_cons, List.append_assoc]
    rw [hstep] at hrest ⊢
    exact hrest

/-- A character goes in as a whole or stands for itself. -/
theorem Sound.char (hd : d.toNat < 0x80) (h : Sound r) (c : Char) :
    Sound (r.run d (String.utf8EncodeChar c)) := by
  rcases Text.encodeChar_ascii_or c with ⟨hc, hbytes⟩ | hbytes
  · rw [hbytes]
    exact h.ascii (by rw [Text.toNat_ofNat_byte (by omega)]; exact hc)
  · -- the bytes are no text one by one, so they are taken together
    obtain ⟨hfield, hfields, hrecords⟩ := r.run_other hd hbytes
    refine ⟨?_, hfields ▸ h.fields, hrecords ▸ h.records⟩
    rw [hfield, List.reverse_append, List.reverse_reverse]
    refine h.field.append ⟨String.ofList [c], ?_⟩
    simp [Text.utf8]

theorem Sound.run (hd : d.toNat < 0x80) (h : Sound r) {bs : Bytes} (hbs : IsText bs) :
    Sound (r.run d bs) := by
  obtain ⟨s, rfl⟩ := hbs
  unfold Text.utf8
  induction s.toList generalizing r with
  | nil => exact h
  | cons c cs ih =>
    rw [List.flatMap_cons, Reader.run_append]
    exact ih (h.char hd c)

theorem Sound.finish (h : Sound r) : ∀ record ∈ r.finish, ∀ f ∈ record.fields, IsText f := by
  have hend : Sound (if r.place = .between then r else r.endRecord) := by
    split
    · exact h
    · exact h.endRecord
  intro record hrecord
  exact hend.records record (List.mem_reverse.mp hrecord)

/-- The byte order mark is one character, so what stands behind it is text. -/
theorem isText_drop_mark {bs : Bytes} (h : IsText bs) (hmark : mark.isPrefixOf bs = true) :
    IsText (bs.drop mark.length) := by
  obtain ⟨s, rfl⟩ := h
  obtain ⟨rest, hrest⟩ := List.isPrefixOf_iff_prefix.mp hmark
  unfold Text.utf8 at hrest ⊢
  generalize s.toList = cs at hrest ⊢
  cases cs with
  | nil => exact absurd hrest (List.cons_ne_nil _ _)
  | cons c cs =>
    rw [List.flatMap_cons] at hrest ⊢
    have hcs : IsText (cs.flatMap String.utf8EncodeChar) := ⟨String.ofList cs, by simp [Text.utf8]⟩
    -- only a character of three bytes begins as the mark does
    have hlead {n : Nat} {bytes : Bytes} (hn : n < 0x100)
        (he : String.utf8EncodeChar c = UInt8.ofNat n :: bytes) : n = 0xef := by
      rw [he] at hrest
      have h0 : (0xef : UInt8) = UInt8.ofNat n := (List.cons.inj hrest).1
      have hnat := congrArg UInt8.toNat h0
      rw [Text.toNat_ofNat_byte hn] at hnat
      exact hnat.symm
    rcases Text.encodeChar_cases c with ⟨h1, he⟩ | ⟨h1, h2, he⟩ | ⟨h1, h2, he⟩ | ⟨h1, h2, he⟩
    · have := hlead (by omega) he
      omega
    · have := hlead (by omega) he
      omega
    · rw [he]
      exact hcs
    · have := hlead (by omega) he
      omega

theorem records_sound (hd : d.toNat < 0x80) {bs : Bytes} (hbs : IsText bs) :
    ∀ record ∈ records d bs, ∀ f ∈ record.fields, IsText f := by
  have hinit (n : Nat) : Sound { now := { byte := n } } :=
    ⟨Text.isText_nil, fun _ hf => absurd hf List.not_mem_nil,
      fun _ hr => absurd hr List.not_mem_nil⟩
  unfold records
  cases hmark : mark.isPrefixOf bs with
  | true => exact ((hinit _).run hd (isText_drop_mark hbs hmark)).finish
  | false => exact ((hinit _).run hd hbs).finish

/-- What a text says: the records of its bytes, with every field as a text. -/
def Reads (d : UInt8) (bs : Bytes) (rows : List (List String)) : Prop :=
  (records d bs).map Record.fields = rows.map (·.map Text.utf8)

/-- Lists of bytes that are all text are the bytes of texts. -/
theorem exists_texts {fields : List Bytes} (h : ∀ f ∈ fields, IsText f) :
    ∃ texts : List String, fields = texts.map Text.utf8 := by
  induction fields with
  | nil => exact ⟨[], rfl⟩
  | cons f fields ih =>
    obtain ⟨s, hs⟩ := h f List.mem_cons_self
    obtain ⟨texts, htexts⟩ := ih fun x hx => h x (List.mem_cons_of_mem _ hx)
    exact ⟨s :: texts, by rw [List.map_cons, ← hs, ← htexts]⟩

/-- **Every text says something.** -/
theorem exists_reads (hd : d.toNat < 0x80) {bs : Bytes} (hbs : IsText bs) :
    ∃ rows, Reads d bs rows := by
  have hsound := records_sound hd hbs
  unfold Reads
  generalize records d bs = read at hsound ⊢
  induction read with
  | nil => exact ⟨[], rfl⟩
  | cons record rest ih =>
    obtain ⟨texts, htexts⟩ := exists_texts (hsound record List.mem_cons_self)
    obtain ⟨rows, hrows⟩ := ih fun x hx => hsound x (List.mem_cons_of_mem _ hx)
    exact ⟨texts :: rows, by rw [List.map_cons, List.map_cons, htexts, hrows]⟩

end Csv

end TidyTable
