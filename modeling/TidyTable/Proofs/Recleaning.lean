import TidyTable.Proofs.Html.Literal
import TidyTable.Proofs.Reprocessing

/-!
# Cleaning again

Cleaning takes a text for markup by its ends, and what markup is reduced to can be markup again. So
one pass is not always enough. What is cleaned becomes shorter with each pass, and the passes that
leave a text alone are known: those of what is no markup, and of markup that stands for itself.
-/

namespace TidyTable.Cleaner

open Html (Document Element isLiteral lineFeeds standsForItself)

variable {s : String}

/-- The text of the cell that is read from a text and cleaned. -/
def pass (c : Cleaner) (s : String) : String := (c.clean (Cell.ofText false s)).render

/-! ## One pass -/

theorem pass_of_plain (c : Cleaner) (h : Cell.looksLikeMarkup s = false) : c.pass s = s := by
  rw [pass, Table.clean_ofText c h, Table.render_ofText]

theorem pass_of_markup (c : Cleaner) (h : Cell.looksLikeMarkup s = true) :
    c.pass s = c.reduce (Document.ofFragment s.toList) := by
  have hcell : Cell.ofText false s = .markup s := by
    unfold Cell.ofText
    rw [if_neg fun hempty => ?_, if_neg Bool.false_ne_true, if_pos h]
    rw [String.isEmpty_iff.mp hempty] at h
    exact absurd h nofun
  rw [pass, hcell, clean, extract?, if_pos h]
  rfl

/-- What a document is reduced to is the value of an attribute in it, or its text. -/
theorem reduce_cases (c : Cleaner) (d : Document) :
    c.reduce d = d.text ∨
      ∃ x e a, d.element? x = some e ∧ a ∈ e.attributes ∧ c.reduce d = a.value := by
  unfold reduce
  cases hparameter : (c.markerElement? d).bind c.parameter? with
  | none => exact Or.inl rfl
  | some value =>
    right
    obtain ⟨e, he, hvalue⟩ := Option.bind_eq_some_iff.mp hparameter
    obtain ⟨x, -, hx⟩ := Option.bind_eq_some_iff.mp he
    unfold parameter? at hvalue
    split_ifs at hvalue
    obtain ⟨a, ha, rfl⟩ := Option.map_eq_some_iff.mp hvalue
    exact ⟨x, e, a, hx, List.mem_of_find?_eq_some ha, rfl⟩

/-- Markup that stands for itself but for its line ends is reduced to itself but for them. -/
theorem reduce_of_stands (c : Cleaner) {cs : List Char}
    (h : standsForItself (lineFeeds cs) = true) :
    c.reduce (Document.ofFragment cs) = String.ofList (lineFeeds cs) := by
  obtain ⟨ts, hd, hjoin⟩ := Html.hasTexts_ofFragment h
  rcases c.reduce_cases (Document.ofFragment cs) with htext | ⟨x, e, a, he, ha, -⟩
  · rw [htext, hd.text, hjoin]
  · rw [hd.element?_eq he] at ha
    exact absurd ha List.not_mem_nil

/-- **A pass shortens markup, or leaves markup that the next pass leaves alone.** -/
theorem pass_cases (c : Cleaner) (h : Cell.looksLikeMarkup s = true) :
    (standsForItself (lineFeeds s.toList) = true ∧ c.pass s = String.ofList (lineFeeds s.toList)) ∨
      (standsForItself (lineFeeds s.toList) = false ∧ (c.pass s).length < s.length) := by
  rw [c.pass_of_markup h]
  cases hstands : standsForItself (lineFeeds s.toList) with
  | true => exact Or.inl ⟨rfl, c.reduce_of_stands hstands⟩
  | false =>
    refine Or.inr ⟨rfl, ?_⟩
    rcases c.reduce_cases (Document.ofFragment s.toList) with htext | ⟨x, e, a, he, ha, hvalue⟩
    · rw [htext]
      exact Html.length_text_ofFragment_lt hstands
    · rw [hvalue]
      exact Html.length_value_lt he ha

/-- A pass leaves alone what is no markup, and markup that stands for itself. -/
theorem pass_eq_iff (c : Cleaner) (s : String) :
    c.pass s = s ↔ (Cell.looksLikeMarkup s = true → isLiteral s.toList = true) := by
  cases h : Cell.looksLikeMarkup s with
  | false => exact ⟨fun _ => nofun, fun _ => c.pass_of_plain h⟩
  | true =>
    rw [imp_iff_right rfl]
    have hliteral : isLiteral s.toList = true ↔
        '\r' ∉ s.toList ∧ standsForItself s.toList = true := by
      simp [isLiteral]
    rw [hliteral]
    constructor
    · intro heq
      rcases c.pass_cases h with ⟨hstands, hpass⟩ | ⟨-, hless⟩
      · have hlines : s.toList = lineFeeds s.toList := by
          rw [← String.toList_ofList (l := lineFeeds s.toList), ← hpass, heq]
        rw [← hlines] at hstands
        exact ⟨hlines ▸ Html.not_mem_lineFeeds s.toList, hstands⟩
      · rw [heq] at hless
        exact absurd hless (Nat.lt_irrefl _)
    · rintro ⟨hreturn, hstands⟩
      have hlines := Html.lineFeeds_of_not_mem hreturn
      rcases c.pass_cases h with ⟨-, hpass⟩ | ⟨hnot, -⟩
      · rw [hpass, hlines, String.ofList_toList]
      · rw [hlines, hstands] at hnot
        exact absurd hnot nofun

example : Processor.standard.cleaner.pass "<- a & b ->" = "<- a & b ->" := by decide +kernel

/-! ## More passes -/

/-- A pass that changes a text makes it shorter, or is the last one that changes it. -/
theorem length_pass_lt_or (c : Cleaner) (s : String) :
    (c.pass s).length < s.length ∨ c.pass (c.pass s) = c.pass s := by
  cases h : Cell.looksLikeMarkup s with
  | false => exact Or.inr (by rw [c.pass_of_plain h, c.pass_of_plain h])
  | true =>
    rcases c.pass_cases h with ⟨hstands, hpass⟩ | ⟨-, hless⟩
    · right
      rw [c.pass_eq_iff, hpass, String.toList_ofList]
      intro _
      simp [isLiteral, hstands, Html.not_mem_lineFeeds]
    · exact Or.inl hless

/-- **Passes come to an end.** -/
theorem exists_iterate_pass (c : Cleaner) (s : String) :
    ∃ k ≤ s.length, c.pass^[k + 1] s = c.pass^[k] s := by
  induction hn : s.length using Nat.strongRecOn generalizing s with
  | ind n ih =>
    -- a pass that is not the last one that changes the text makes it shorter
    rcases c.length_pass_lt_or s with hless | hlast
    · obtain ⟨k, hk, hend⟩ := ih _ (hn ▸ hless) (c.pass s) rfl
      exact ⟨k + 1, by omega, hend⟩
    · rcases Nat.eq_zero_or_pos n with rfl | hpos
      · obtain rfl : s = "" := String.length_eq_zero_iff.mp hn
        have hempty : Cell.looksLikeMarkup "" = false := by decide
        exact ⟨0, Nat.le_refl _, c.pass_of_plain hempty⟩
      · exact ⟨1, hpos, hlast⟩

/-- **A second pass changes nothing exactly if the first leaves no markup, or markup that stands for
itself; and with every text a pass comes that changes nothing.** -/
theorem pass_pass_eq_iff (c : Cleaner) (s : String) :
    (c.pass (c.pass s) = c.pass s ↔
      (Cell.looksLikeMarkup (c.pass s) = true → isLiteral (c.pass s).toList = true)) ∧
    ∃ k ≤ s.length, c.pass^[k + 1] s = c.pass^[k] s :=
  ⟨c.pass_eq_iff (c.pass s), c.exists_iterate_pass s⟩

/-- Markup that is written with references is markup once they are read. -/
theorem pass_pass_ne_escaped :
    Processor.standard.cleaner.pass "<b>&lt;i&gt;x&lt;/i&gt;</b>" = "<i>x</i>" ∧
      Processor.standard.cleaner.pass "<i>x</i>" = "x" := by
  decide +kernel

end TidyTable.Cleaner
