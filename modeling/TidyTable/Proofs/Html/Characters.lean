import Mathlib.Tactic.SplitIfs
import TidyTable.Html.Token

/-!
# Text that is read from markup

What a run of characters stands for is never longer than the run. A reference always stands for
fewer characters than it takes, and so does a NUL, which stands for none outside of raw content.
What has neither stands for itself.
-/

namespace TidyTable.Html

namespace Reference

variable {inValue : Bool} {cs name text : List Char} {r : Found}

/-- No name stands for more than two characters. -/
theorem length_startingWith (c : Char) :
    (startingWith c).all fun entry => decide (entry.2.length ≤ 2) := by
  unfold startingWith
  split <;> decide +kernel

/-- What is looked up is in the table. -/
theorem mem_of_lookup {entries : List (String × String)} {key value : String}
    (h : entries.lookup key = some value) : (key, value) ∈ entries := by
  induction entries with
  | nil => exact absurd h nofun
  | cons entry entries ih =>
    obtain ⟨k, v⟩ := entry
    rw [List.lookup_cons] at h
    split at h
    · rename_i heq
      obtain rfl := Option.some.inj h
      rw [eq_of_beq heq]
      exact List.mem_cons_self
    · exact List.mem_cons_of_mem _ (ih h)

/-- A name that stands for something is not empty. -/
theorem length_lookup? (h : lookup? name = some text) : name ≠ [] ∧ text.length ≤ 2 := by
  have hessential : ∀ entry ∈ essential, entry.1 ≠ "" ∧ entry.2.length ≤ 2 := by decide +kernel
  unfold lookup? at h
  dsimp only at h
  split at h
  -- the few names that are kept apart, and then the table for the first letter
  · rename_i value hvalue
    obtain ⟨hne, hlength⟩ := hessential _ (mem_of_lookup hvalue)
    obtain rfl := Option.some.inj h
    refine ⟨?_, hlength⟩
    rintro rfl
    exact hne rfl
  · split at h
    · exact absurd h nofun
    · rename_i c rest _
      obtain ⟨value, hvalue, rfl⟩ := Option.map_eq_some_iff.mp h
      have hall := List.all_eq_true.mp (length_startingWith c) _ (mem_of_lookup hvalue)
      exact ⟨List.cons_ne_nil _ _, of_decide_eq_true hall⟩

/-- A name that needs no semicolon has two characters or more. -/
theorem longest?_spec : ∀ {n : Nat}, longest? cs n = some name →
    2 ≤ name.length ∧ name.length ≤ cs.length
  | n + 1, h => by
      have hnames : ∀ s ∈ withoutSemicolon, 2 ≤ s.toList.length := by decide +kernel
      unfold longest? at h
      split_ifs at h with hmem
      · obtain rfl := Option.some.inj h
        have htwo := hnames _ (List.contains_iff_mem.mp hmem)
        rw [String.toList_ofList] at htwo
        exact ⟨htwo, List.length_take_le' _ _⟩
      · exact longest?_spec h

/-- A name without a semicolon stands for no more characters than it has. -/
theorem bare?_spec (h : bare? inValue cs = some r) :
    r.text.length ≤ r.length ∧ r.length ≤ cs.length := by
  unfold bare? at h
  simp only [Option.bind_eq_bind, Option.bind_eq_some_iff] at h
  obtain ⟨name, hname, text, htext, h⟩ := h
  obtain ⟨htwo, hle⟩ := longest?_spec hname
  obtain ⟨-, hshort⟩ := length_lookup? htext
  split_ifs at h
  obtain rfl := Option.some.inj h
  exact ⟨Nat.le_trans hshort htwo, hle⟩

/-- With a semicolon a name may have one character and stand for two. -/
theorem named?_spec (h : named? inValue cs = some r) :
    r.text.length ≤ r.length ∧ r.length ≤ cs.length := by
  unfold named? at h
  dsimp only at h
  split at h
  · rename_i text hwhole
    obtain rfl := Option.some.inj h
    split_ifs at hwhole with hsemicolon
    obtain ⟨hne, hshort⟩ := length_lookup? hwhole
    have hpos := List.length_pos_iff.mpr hne
    -- the semicolon stands behind the name
    have hlt : (cs.takeWhile Char.isAlphanum).length < cs.length := by
      rw [beq_iff_eq, List.head?_drop] at hsemicolon
      exact (List.getElem?_eq_some_iff.mp hsemicolon).1
    dsimp only
    omega
  · exact bare?_spec h

/-- A number stands for one character. The characters before its digits are counted with it. -/
theorem digits?_spec {base before : Nat} (h : digits? base before cs = some r) :
    r.text.length ≤ r.length ∧ r.length ≤ before + cs.length := by
  unfold digits? at h
  dsimp only at h
  have hle := (cs.takeWhile_sublist fun c => (digit? base c).isSome).length_le
  split_ifs at h with hempty hsemicolon
  · -- the semicolon stands behind the digits
    have hlt : (cs.takeWhile fun c => (digit? base c).isSome).length < cs.length := by
      rw [beq_iff_eq, List.head?_drop] at hsemicolon
      exact (List.getElem?_eq_some_iff.mp hsemicolon).1
    obtain rfl := Option.some.inj h
    simp only [List.length_singleton]
    omega
  · have hpos : 0 < (cs.takeWhile fun c => (digit? base c).isSome).length := by
      rw [List.length_pos_iff]
      intro hnil
      rw [hnil] at hempty
      exact hempty rfl
    obtain rfl := Option.some.inj h
    simp only [List.length_singleton]
    omega

/-- A reference stands for fewer characters than it takes with its ampersand. -/
theorem read?_spec (h : read? inValue cs = some r) :
    r.text.length ≤ r.length ∧ r.length ≤ cs.length := by
  unfold read? at h
  split at h
  · have hspec := digits?_spec h
    simp only [List.length_cons]
    omega
  · have hspec := digits?_spec h
    simp only [List.length_cons]
    omega
  · have hspec := digits?_spec h
    simp only [List.length_cons]
    omega
  · exact named?_spec h

end Reference

namespace Symbol

/-- The characters among some symbols. -/
def chars (symbols : List Symbol) : List Char := symbols.filterMap char?

/-- What has no references stands for itself. -/
@[simp] theorem chars_map_char (cs : List Char) : chars (cs.map char) = cs := by
  induction cs with
  | nil => rfl
  | cons c cs ih => exact congrArg (c :: ·) ih

@[simp] theorem chars_append (symbols symbols' : List Symbol) :
    chars (symbols ++ symbols') = chars symbols ++ chars symbols' :=
  List.filterMap_append

/-- A reference that was found stands for its text, broken off or not. -/
@[simp] theorem chars_ofFound (r : Reference.Found) : chars (ofFound r) = r.text := by
  unfold ofFound
  split_ifs
  · exact chars_map_char r.text
  · exact chars_map_char r.text

/-- By induction on the characters. Those of a reference are skipped one by one, and the text of the
reference counts for them. -/
theorem length_decodeFrom (inValue : Bool) : ∀ (cs : List Char) (skip : Nat), skip ≤ cs.length →
    (chars (decodeFrom inValue skip cs)).length + skip ≤ cs.length
  | [], skip, h => by
      rw [decodeFrom]
      exact Nat.le_trans (Nat.le_of_eq (Nat.zero_add skip)) h
  | c :: cs, skip + 1, h => by
      have ih := length_decodeFrom inValue cs skip (Nat.le_of_succ_le_succ h)
      rw [decodeFrom, List.length_cons]
      omega
  | c :: cs, 0, _ => by
      have hkept := length_decodeFrom inValue cs 0 (Nat.zero_le _)
      rw [decodeFrom, List.length_cons]
      split_ifs
      · split
        -- a reference pays for its text with the characters that it skips
        · rename_i r hread
          obtain ⟨htext, hlength⟩ := Reference.read?_spec hread
          have ih := length_decodeFrom inValue cs r.length hlength
          rw [chars_append, chars_ofFound, List.length_append]
          omega
        · show (chars _).length + 1 + 0 ≤ _
          omega
      · show (chars _).length + 1 + 0 ≤ _
        omega

/-- **What a run of characters stands for is no longer than the run.** -/
theorem length_decode (inValue : Bool) (cs : List Char) :
    (chars (decode inValue cs)).length ≤ cs.length :=
  length_decodeFrom inValue cs 0 (Nat.zero_le _)

end Symbol

/-- So is the value of an attribute. -/
theorem length_attributeValue_le (cs : List Char) : (attributeValue cs).length ≤ cs.length := by
  rw [attributeValue, List.length_map]
  exact Symbol.length_decode true cs

end TidyTable.Html
