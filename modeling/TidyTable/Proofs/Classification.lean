import TidyTable.Cell
import TidyTable.Proofs.Json.RoundTrip

/-!
# A cell is read again as what it is

A cell keeps no more of the text it was read from than its kind needs. An empty cell, a plain text
and markup keep the text as it stands, so nothing can change when their text is read. A record keeps
its fields, and what is written for it need not be the text it came from: the blanks are gone, and
so are the fields whose keys were set again. But it is a text of the same fields, it begins and ends
with a brace, and so it is read as the same record.
-/

namespace TidyTable

namespace Text

/-- Nothing is trimmed between characters that are no blanks. -/
theorem trim_between {first last : Char} {cs rest middle : List Char}
    (hfirst : isBlank first = false) (hlast : isBlank last = false) (hcons : cs = first :: rest)
    (hconcat : cs = middle ++ [last]) : trim cs = cs := by
  have hdrop : cs.dropWhile isBlank = cs := by
    rw [hcons, List.dropWhile_cons, hfirst, if_neg Bool.false_ne_true]
  have hreverse : cs.reverse = last :: middle.reverse := by
    rw [hconcat, List.reverse_append]
    rfl
  unfold trim
  rw [hdrop, hreverse, List.dropWhile_cons, hlast, if_neg Bool.false_ne_true, ← hreverse,
    List.reverse_reverse]

end Text

namespace Record

theorem exists_renderFields_concat (fields : List (String × Json)) :
    ∃ middle, Json.renderFields fields = middle ++ ['\x7d'] := by
  induction fields with
  | nil => exact ⟨[], rfl⟩
  | cons field fields ih =>
    obtain ⟨key, value⟩ := field
    obtain ⟨middle, hmiddle⟩ := ih
    refine ⟨',' :: (Json.quoted key ++ ':' :: (value.render ++ middle)), ?_⟩
    rw [Json.renderFields, hmiddle]
    simp

/-- The text of a record stands between braces. -/
theorem trim_render (fields : Record) :
    Text.trim (Json.object fields).render = (Json.object fields).render := by
  cases fields with
  | nil => decide
  | cons field fields =>
    obtain ⟨key, value⟩ := field
    obtain ⟨middle, hmiddle⟩ := exists_renderFields_concat fields
    have hconcat : (Json.object ((key, value) :: fields)).render
        = '\x7b' :: (Json.quoted key ++ ':' :: (value.render ++ middle)) ++ ['\x7d'] := by
      rw [Json.render, hmiddle]
      simp
    exact Text.trim_between (by decide) (by decide) rfl hconcat

end Record

namespace Cell

variable {s : String} {fields : Record}

theorem readRecord?_eq_some_iff :
    readRecord? s = some fields ↔ Json.parse? (Text.trim s.toList) = some (.object fields) := by
  unfold readRecord?
  split
  · rename_i found hparse
    rw [hparse]
    exact ⟨fun h => congrArg _ (congrArg _ (Option.some.inj h)), fun h =>
      congrArg _ (Json.object.inj (Option.some.inj h))⟩
  · rename_i hother
    exact ⟨fun h => absurd h nofun, fun h => absurd h (hother fields)⟩

/-- The text of a record that was read is read as this record. -/
theorem readRecord?_text (hread : readRecord? s = some fields)
    (hwhole : (Json.object fields).Whole) : readRecord? fields.text = some fields := by
  have hsound := Json.sound_of_parse? (readRecord?_eq_some_iff.mp hread)
  rw [readRecord?_eq_some_iff, Record.text, Json.text, String.toList_ofList, Record.trim_render]
  exact Json.parse?_render hsound hwhole

/-- The kinds of cells that a text can be read as. -/
theorem ofText_cases (nested : Bool) (s : String) :
    (∃ fields, nested = true ∧ readRecord? s = some fields ∧ ofText nested s = .record fields) ∨
      ((∀ fields, ofText nested s ≠ .record fields) ∧ (ofText nested s).render = s) := by
  unfold ofText
  by_cases hempty : s.isEmpty = true
  · obtain rfl := String.isEmpty_iff.mp hempty
    exact Or.inr ⟨fun _ => nofun, rfl⟩
  · rw [if_neg hempty]
    split
    · rename_i fields hread
      cases nested with
      | true => exact Or.inl ⟨fields, rfl, hread, rfl⟩
      | false => exact absurd hread nofun
    · refine Or.inr ⟨fun fields => ?_, ?_⟩ <;> split
      · exact nofun
      · exact nofun
      · rfl
      · rfl

/-- **A cell is read from its own text as what it is**, if no record has a double in it. The text is
the one that the cell was read from, unless the cell is a record. -/
theorem ofText_render_ofText (nested : Bool) (s : String)
    (h : ∀ fields, ofText nested s = .record fields → (Json.object fields).Whole) :
    ofText nested (ofText nested s).render = ofText nested s ∧
      ((∀ fields, ofText nested s ≠ .record fields) → (ofText nested s).render = s) := by
  rcases ofText_cases nested s with ⟨fields, rfl, hread, hcell⟩ | ⟨hnone, hrender⟩
  · refine ⟨?_, fun hnone => absurd hcell (hnone fields)⟩
    have htext := readRecord?_text hread (h fields hcell)
    have hne : fields.text.isEmpty = false := by
      cases hempty : fields.text.isEmpty with
      | false => rfl
      | true =>
        have hblank : readRecord? "" = none := by decide
        rw [String.isEmpty_iff.mp hempty, hblank] at htext
        exact absurd htext nofun
    rw [hcell]
    show ofText true fields.text = .record fields
    unfold ofText
    rw [hne, if_neg Bool.false_ne_true, if_pos rfl, htext]
  · rw [hrender]
    exact ⟨rfl, fun _ => rfl⟩

/-- A key that is set again, the largest and the smallest integer, a character that has to be
escaped, and blanks that are not written. -/
theorem ofText_render_ofText_repeated_key :
    let s := " \x7b\"a\": 0, \"b\": [18446744073709551615, \"\\u0001\", \x7b\x7d],"
      ++ " \"a\": -9223372036854775808\x7d\t"
    let fields : Record :=
      [("a", .number (.integer (-9223372036854775808))),
        ("b", .array [.number (.integer 18446744073709551615), .string "\x01", .object []])]
    ofText true s = .record fields ∧
      (ofText true s).render
        = "\x7b\"a\":-9223372036854775808,\"b\":[18446744073709551615,\"\\u0001\",\x7b\x7d]\x7d" ∧
      (∀ found, ofText true s = .record found → (Json.object found).Whole) ∧
      ofText true (ofText true s).render = ofText true s ∧
      ((∀ found, ofText true s ≠ .record found) → (ofText true s).render = s) := by
  intro s fields
  have hcell : ofText true s = .record fields := by decide +kernel
  have hwhole : ∀ found, ofText true s = .record found → (Json.object found).Whole := by
    intro found hfound n hn
    obtain rfl := Cell.record.inj (hcell.symm.trans hfound)
    simp only [fields, Json.subvalues, Json.subvaluesOfFields, Json.subvaluesOfItems,
      List.append_nil, List.cons_append, List.nil_append, List.mem_cons, reduceCtorEq, false_or,
      Json.number.injEq, List.not_mem_nil, or_false] at hn
    rcases hn with rfl | rfl <;> exact ⟨_, rfl⟩
  exact ⟨hcell, by decide +kernel, hwhole, ofText_render_ofText true s hwhole⟩

end Cell

end TidyTable
