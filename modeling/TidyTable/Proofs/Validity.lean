import TidyTable.Csv.Codec
import TidyTable.Proofs.Records
import TidyTable.Proofs.Utf8

/-!
# Valid settings

`Settings.Valid` lists what settings must meet, and `fault?` finds a fault exactly if one of these
is not met. For text tables two of them matter. The delimiter is a character of ASCII and none of
the marks, so its one byte can be told from everything else that stands in a text. And there are
only two ends of a line.
-/

namespace TidyTable.Settings

variable {s : Settings}

/-- What settings must meet. -/
structure Valid (s : Settings) : Prop where
  nestedColumn : s.nestedColumn ≠ ""
  markerTag : Text.trim s.markerTag.toList ≠ []
  markerAttributes : s.markerTypeAttr ≠ "" ∧ s.markerValueAttr ≠ ""
  keySeparator : s.keySeparator ≠ ""
  csvDelimiter : isDelimiter s.csvDelimiter = true
  lineTerminator : s.lineTerminator = "\n" ∨ s.lineTerminator = "\r\n"
  sheetNameLength : s.sheetName.length ≠ 0 ∧ s.sheetName.length ≤ sheetNameLimit
  sheetNameCharacters : ∀ c ∈ s.sheetName.toList, c ∉ sheetNameForbidden

/-- A check that is passed leaves it to the checks behind it. -/
theorem check_eq_none_iff {c : Prop} [Decidable c] {fault : Fault} {rest : Option Fault} :
    (if c then some fault else rest) = none ↔ ¬ c ∧ rest = none := by
  by_cases h : c
  · rw [if_pos h]
    exact ⟨nofun, fun hrest => absurd h hrest.1⟩
  · rw [if_neg h]
    exact ⟨fun hrest => ⟨h, hrest⟩, fun hrest => hrest.2⟩

/-- **Settings are valid exactly if no fault is found.** -/
theorem fault?_eq_none_iff : s.fault? = none ↔ s.Valid := by
  unfold fault?
  simp only [check_eq_none_iff]
  constructor
  · rintro ⟨hnested, htag, hattr, hsep, hdelimiter, hterm, hlength, hchars, -⟩
    refine ⟨by simpa using hnested, by simpa using htag, by simpa using hattr, by simpa using hsep,
      by simpa using hdelimiter, ?_, by simpa using hlength, by simpa using hchars⟩
    by_cases hlf : s.lineTerminator = "\n"
    · exact Or.inl hlf
    · exact Or.inr (by simpa [hlf] using hterm)
  · intro h
    refine ⟨by simpa using h.nestedColumn, by simpa using h.markerTag,
      by simpa using h.markerAttributes, by simpa using h.keySeparator,
      by simpa using h.csvDelimiter, ?_, by simpa using h.sheetNameLength,
      by simpa using h.sheetNameCharacters, trivial⟩
    rcases h.lineTerminator with hterm | hterm <;> simp [hterm]

/-! ## The form of a text table -/

/-- The delimiter is one byte of ASCII. -/
theorem toNat_delimiterByte (h : s.fault? = none) :
    s.delimiterByte.toNat = s.csvDelimiter.toNat ∧ s.delimiterByte.toNat < 0x80 := by
  have hd := (fault?_eq_none_iff.mp h).csvDelimiter
  simp only [isDelimiter, Bool.and_eq_true, decide_eq_true_eq] at hd
  have hlt : s.csvDelimiter.toNat < 0x80 := hd.1.1.1
  have hb : s.delimiterByte.toNat = s.csvDelimiter.toNat :=
    Text.toNat_ofNat_byte (by omega)
  exact ⟨hb, by omega⟩

/-- The delimiter is none of the marks. -/
theorem separates_delimiterByte (h : s.fault? = none) : Csv.Separates s.delimiterByte := by
  have hd := (fault?_eq_none_iff.mp h).csvDelimiter
  have hb := (toNat_delimiterByte h).1
  simp only [isDelimiter, Bool.and_eq_true, bne_iff_ne] at hd
  obtain ⟨⟨⟨_, hquote⟩, hlf⟩, hcr⟩ := hd
  have hne : ∀ c : Char, s.csvDelimiter ≠ c → ∀ b : UInt8, b.toNat = c.toNat →
      s.delimiterByte ≠ b := by
    intro c hc b hbc e
    rw [e, hbc] at hb
    exact hc (Char.toNat_inj.mp hb.symm)
  exact ⟨hne _ hquote _ rfl, hne _ hlf _ rfl, hne _ hcr _ rfl⟩

/-- A record ends in one of the two ends of a line. -/
theorem isLineEnd_terminator (h : s.fault? = none) : Csv.IsLineEnd (Csv.terminator s) := by
  unfold Csv.terminator usesCrlf
  rcases (fault?_eq_none_iff.mp h).lineTerminator with ht | ht
  · rw [ht]; exact Or.inl rfl
  · rw [ht]; exact Or.inr rfl

end TidyTable.Settings
