import TidyTable.Json.Printer
import TidyTable.Proofs.DroppedIndex
import TidyTable.Proofs.Json.Reading

/-!
# Reading what was written

The compact text of a value reads as that value, if the value is `Sound` and all of its numbers are
integers. Each reader takes exactly what was written for its part and leaves what stands behind it,
whatever that is; only behind a number something has to follow that does not go on with the number,
and in a compact text a comma or a closing bracket does.

Doubles are left out: what is written for one is the shortest decimal that is closest to it, and
reading a decimal as JSON does not always give the closest double.
-/

namespace TidyTable.Json

open Decimal (digits)

/-! ## Strings -/

/-- A character that needs no escape reads as itself. -/
theorem readString?_plain {c : Char} (hquote : c ≠ '\x22') (hback : c ≠ '\\')
    (hcontrol : ¬ c.toNat < 0x20) (cs : List Char) :
    readString? (c :: cs) = (readString? cs).map fun (s, r) => (c :: s, r) := by
  rw [readString?]
  · rw [if_neg hquote, if_neg (not_or.mpr ⟨hback, hcontrol⟩)]
  · exact fun _ _ _ _ _ h => absurd h hback
  · exact fun _ _ h => absurd h hback

/-- An escape of one letter reads as what it stands for. -/
theorem readString?_simple {c x : Char} (hc : c ≠ 'u') (h : simpleEscape? c = some x)
    (cs : List Char) :
    readString? ('\\' :: c :: cs) = (readString? cs).map fun (s, r) => (x :: s, r) := by
  rw [readString?]
  · rw [h]
  · exact fun _ _ _ _ _ h => absurd h hc

/-- A control character is written by its number. -/
theorem readString?_unit {n : Nat} (h : n < 0x20) (cs : List Char) :
    readString? ('\\' :: 'u' :: '0' :: '0' :: hexDigit (n / 16) :: hexDigit n :: cs)
      = (readString? cs).map fun (s, r) => (Char.ofNat n :: s, r) := by
  have hunit : ∀ n < 0x20, hexUnit? '0' '0' (hexDigit (n / 16)) (hexDigit n) = some n := by decide
  have hhigh : isHighSurrogate n = false := by
    unfold isHighSurrogate
    simp only [Bool.and_eq_false_iff, decide_eq_false_iff_not]
    omega
  have hlow : isLowSurrogate n = false := by
    unfold isLowSurrogate
    simp only [Bool.and_eq_false_iff, decide_eq_false_iff_not]
    omega
  rw [readString?, hunit n h]
  simp only [hhigh, hlow]
  rfl

/-- A character reads as itself, however it is written. -/
theorem readString?_escape (c : Char) (cs : List Char) :
    readString? (escape c ++ cs) = (readString? cs).map fun (s, r) => (c :: s, r) := by
  unfold escape
  split_ifs with hquote hback hb hf hn hr ht hcontrol
  · subst hquote; exact readString?_simple (by decide) (by decide) cs
  · subst hback; exact readString?_simple (by decide) (by decide) cs
  · subst hb; exact readString?_simple (by decide) (by decide) cs
  · subst hf; exact readString?_simple (by decide) (by decide) cs
  · subst hn; exact readString?_simple (by decide) (by decide) cs
  · subst hr; exact readString?_simple (by decide) (by decide) cs
  · subst ht; exact readString?_simple (by decide) (by decide) cs
  · have hread := readString?_unit hcontrol cs
    rw [Char.ofNat_toNat] at hread
    exact hread
  · exact readString?_plain hquote hback hcontrol cs

/-- **A string reads as it was written**, up to its closing quote. -/
theorem readString?_escaped (s rest : List Char) :
    readString? (s.flatMap escape ++ '\x22' :: rest) = some (s, rest) := by
  induction s with
  | nil =>
    rw [List.flatMap_nil, List.nil_append, readString?, if_pos rfl]
    · exact fun _ _ _ _ _ h => absurd h (by decide)
    · exact fun _ _ h => absurd h (by decide)
  | cons c s ih =>
    rw [List.flatMap_cons, List.append_assoc, readString?_escape, ih]
    rfl

/-! ## Integers -/

/-- What may stand behind a value in a compact text: nothing, a comma or a closing bracket. -/
def Follows (rest : List Char) : Prop :=
  ∀ c ∈ rest.head?, c = ',' ∨ c = ']' ∨ c = '\x7d'

/-- Whether something follows depends on the first character. -/
theorem Follows.cons {c : Char} (h : c = ',' ∨ c = ']' ∨ c = '\x7d') (rest : List Char) :
    Follows (c :: rest) := by
  intro x hx
  obtain rfl := Option.some.inj hx
  exact h

/-- There are three characters that can follow, or nothing does. -/
theorem Follows.cases {rest : List Char} (h : Follows rest) :
    rest = [] ∨ ∃ c behind, rest = c :: behind ∧ (c = ',' ∨ c = ']' ∨ c = '\x7d') := by
  cases rest with
  | nil => exact Or.inl rfl
  | cons c behind => exact Or.inr ⟨c, behind, rfl, h c rfl⟩

/-- A number ends where something follows. -/
theorem Follows.ends {rest : List Char} (h : Follows rest) :
    rest.takeWhile Char.isDigit = [] ∧ rest.dropWhile Char.isDigit = rest ∧
      readFraction? rest = some ([], rest) ∧ readPower? rest = some (none, rest) := by
  rcases h.cases with rfl | ⟨c, behind, rfl, rfl | rfl | rfl⟩ <;> exact ⟨rfl, rfl, rfl, rfl⟩

/-- The digits of a number are all read, and nothing behind them. -/
theorem readUnsigned?_digits (negative : Bool) (n : Nat) {rest : List Char} (h : Follows rest) :
    readUnsigned? negative (digits n ++ rest)
      = (integerNumber? negative (digits n)).map fun number => (number, rest) := by
  obtain ⟨c, cs, hcons, -, hall⟩ := Decimal.digits_spec n
  obtain ⟨htake, hdrop, hfraction, hpower⟩ := h.ends
  have hne : (digits n).isEmpty = false := by rw [hcons]; rfl
  have hzero : ((digits n).head? == some '0' && decide (1 < (digits n).length)) = false := by
    rw [Bool.eq_false_iff, ne_eq, Bool.and_eq_true, beq_iff_eq, decide_eq_true_iff]
    exact fun hpadded => Decimal.not_padded_digits n (Or.inr hpadded)
  unfold readUnsigned?
  rw [List.takeWhile_append_of_pos hall, List.dropWhile_append_of_pos hall, htake, hdrop,
    List.append_nil]
  dsimp only
  rw [hne, hzero, hfraction]
  simp only [Bool.or_self, Bool.false_eq_true, if_false, Option.bind_eq_bind, Option.bind_some,
    hpower, List.isEmpty_nil, Option.isNone_none, Bool.and_self, if_true]
  cases integerNumber? negative (digits n) <;> rfl

/-- An integer begins with its sign or with a digit. -/
theorem exists_integer_cons (i : Int) :
    ∃ c cs, Decimal.integer i = c :: cs ∧ (c = '-' ∨ c.isDigit = true) := by
  obtain ⟨c, cs, hcons, hc, -⟩ := Decimal.digits_spec i.natAbs
  unfold Decimal.integer
  split
  · exact ⟨_, _, rfl, Or.inl rfl⟩
  · exact ⟨c, cs, hcons, Or.inr hc⟩

/-- Sign and digits give the integer back if a word holds it. -/
theorem integerNumber?_natAbs {i : Int} (hi : (Number.integer i).InRange) :
    integerNumber? (decide (i < 0)) (digits i.natAbs) = some (.integer i) := by
  obtain ⟨hmin, hmax⟩ : minInteger ≤ i ∧ i ≤ maxInteger := hi
  have hvalue : (if decide (i < 0) = true then -(i.natAbs : Int) else i.natAbs) = i := by
    simp only [decide_eq_true_eq]
    split <;> omega
  have hzero : (decide (i < 0) && i.natAbs == 0) = false := by
    rw [Bool.and_eq_false_iff, decide_eq_false_iff_not, beq_eq_false_iff_ne]
    omega
  unfold integerNumber?
  dsimp only
  rw [Decimal.value_digits, hvalue, hzero, Bool.false_or, if_neg]
  rw [Bool.or_eq_true, decide_eq_true_iff, decide_eq_true_iff]
  omega

/-- An integer that a word holds reads as it was written. -/
theorem readNumber?_integer {i : Int} (hi : (Number.integer i).InRange) {rest : List Char}
    (h : Follows rest) :
    readNumber? (Decimal.integer i ++ rest) = some (.integer i, rest) := by
  obtain ⟨c, cs, hcons, hc, -⟩ := Decimal.digits_spec i.natAbs
  have hnumber := integerNumber?_natAbs hi
  have hread := readUnsigned?_digits (decide (i < 0)) i.natAbs h
  rw [hnumber] at hread
  unfold Decimal.integer
  by_cases hneg : i < 0
  · rw [decide_eq_true hneg] at hread
    rw [if_pos hneg, List.cons_append, readNumber?, hread]
    rfl
  · have hminus : c ≠ '-' := Text.ne_of_isDigit hc (by decide)
    rw [decide_eq_false hneg] at hread
    rw [if_neg hneg, readNumber?, hread]
    · rfl
    · intro behind e
      rw [hcons, List.cons_append] at e
      exact absurd (List.cons.inj e).1 hminus

/-! ## Values -/

/-- All numbers in a value are integers. -/
def Whole (j : Json) : Prop := ∀ n, Json.number n ∈ j.subvalues → ∃ i, n = .integer i

/-- The numbers in an array are those in its items. -/
@[simp] theorem whole_array_iff {items : List Json} :
    (Json.array items).Whole ↔ ∀ item ∈ items, item.Whole := by
  unfold Whole
  simp only [subvalues, List.mem_cons, reduceCtorEq, false_or, mem_subvaluesOfItems_iff]
  exact ⟨fun h item hitem n hn => h n ⟨item, hitem, hn⟩,
    fun h n ⟨item, hitem, hn⟩ => h item hitem n hn⟩

/-- Those in an object are those in its fields. -/
@[simp] theorem whole_object_iff {fields : List (String × Json)} :
    (Json.object fields).Whole ↔ ∀ field ∈ fields, field.2.Whole := by
  unfold Whole
  simp only [subvalues, List.mem_cons, reduceCtorEq, false_or, mem_subvaluesOfFields_iff]
  exact ⟨fun h field hfield n hn => h n ⟨field, hfield, hn⟩,
    fun h n ⟨field, hfield, hn⟩ => h field hfield n hn⟩

/-- Space is not looked for where none is. -/
theorem skipSpace_cons {c : Char} (h : isSpace c = false) (cs : List Char) :
    skipSpace (c :: cs) = c :: cs := by
  rw [skipSpace, List.dropWhile_cons, h, if_neg Bool.false_ne_true]

/-- A character that can begin a number is no other one. -/
theorem ne_of_begins {c x : Char} (hc : c = '-' ∨ c.isDigit = true) (hminus : '-' ≠ x)
    (hdigit : x.isDigit = false) : c ≠ x := by
  rcases hc with rfl | hc
  · exact hminus
  · exact Text.ne_of_isDigit hc hdigit

/-- No number begins with space. -/
theorem isSpace_of_begins {c : Char} (hc : c = '-' ∨ c.isDigit = true) : isSpace c = false := by
  simp only [isSpace, Bool.or_eq_false_iff, beq_eq_false_iff_ne]
  exact ⟨⟨⟨ne_of_begins hc (by decide) (by decide), ne_of_begins hc (by decide) (by decide)⟩,
    ne_of_begins hc (by decide) (by decide)⟩, ne_of_begins hc (by decide) (by decide)⟩

/-- What begins like a number is read as one. -/
theorem readValue?_number {n : Number} {c : Char} {cs rest : List Char} (fuel d : Nat)
    (hc : c = '-' ∨ c.isDigit = true) (h : readNumber? (c :: cs) = some (n, rest)) :
    readValue? (fuel + 1) d (c :: cs) = some (.number n, rest) := by
  rw [readValue?, skipSpace_cons (isSpace_of_begins hc)]
  split
  case h_1 e => exact absurd e (List.cons_ne_nil c cs)
  case h_2 e => exact absurd (List.cons.inj e).1 (ne_of_begins hc (by decide) (by decide))
  case h_3 e => exact absurd (List.cons.inj e).1 (ne_of_begins hc (by decide) (by decide))
  case h_4 e => exact absurd (List.cons.inj e).1 (ne_of_begins hc (by decide) (by decide))
  case h_5 e => exact absurd (List.cons.inj e).1 (ne_of_begins hc (by decide) (by decide))
  case h_6 e => exact absurd (List.cons.inj e).1 (ne_of_begins hc (by decide) (by decide))
  case h_7 e => exact absurd (List.cons.inj e).1 (ne_of_begins hc (by decide) (by decide))
  case h_8 => rw [h]; rfl

/-- What begins with a quote is a string. -/
theorem readValue?_quote (fuel d : Nat) (cs : List Char) :
    readValue? (fuel + 1) d ('\x22' :: cs)
      = (readString? cs).map fun (s, r) => (.string (String.ofList s), r) := by
  rw [readValue?]
  rfl

/-- What begins with a bracket is an array, with items if it is not closed at once. -/
theorem readValue?_bracket (fuel d : Nat) {c : Char} (hspace : isSpace c = false) (hc : c ≠ ']')
    (cs : List Char) :
    readValue? (fuel + 1) (d + 1) ('[' :: c :: cs)
      = (readItems? fuel d (c :: cs)).map fun (items, r) => (.array items, r) := by
  have hopen : skipSpace ('[' :: c :: cs) = '[' :: c :: cs := rfl
  rw [readValue?, hopen]
  simp only [skipSpace_cons hspace]
  split
  · rename_i e
    exact absurd (List.cons.inj e).1 hc
  · rfl

/-- What begins with a brace and a quote is an object with fields. -/
theorem readValue?_brace (fuel d : Nat) (cs : List Char) :
    readValue? (fuel + 1) (d + 1) ('\x7b' :: '\x22' :: cs)
      = (readFields? fuel d ('\x22' :: cs)).map fun (pairs, r) =>
        (.object (Record.ofPairs pairs), r) := by
  rw [readValue?]
  rfl

/-- Every value is written with a character in front that is neither space nor a closing bracket. -/
theorem exists_render_cons : ∀ {j : Json}, j.Whole →
    ∃ c cs, j.render = c :: cs ∧ isSpace c = false ∧ c ≠ ']' ∧ c ≠ '\x7d'
  | .null, _ | .bool true, _ | .bool false, _ | .string _, _ | .array [], _ | .array (_ :: _), _
  | .object [], _ | .object ((_, _) :: _), _ => ⟨_, _, rfl, by decide, by decide, by decide⟩
  | .number n, h => by
      obtain ⟨i, rfl⟩ := h n (mem_subvalues_self _)
      obtain ⟨c, cs, hcons, hc⟩ := exists_integer_cons i
      exact ⟨c, cs, hcons, isSpace_of_begins hc, ne_of_begins hc (by decide) (by decide),
        ne_of_begins hc (by decide) (by decide)⟩

/-- So it is not written with nothing, and the fuel is enough for one more. -/
theorem length_render_pos {j : Json} (h : j.Whole) : 0 < j.render.length := by
  obtain ⟨c, cs, hcons, -⟩ := exists_render_cons h
  rw [hcons]
  exact Nat.succ_pos _

/-- A string between quotes ends at the second one. -/
theorem quoted_append (s : String) (rest : List Char) :
    quoted s ++ rest = '\x22' :: (s.toList.flatMap escape ++ '\x22' :: rest) := by
  rw [quoted, List.cons_append, List.append_assoc, List.singleton_append]

/-- Behind an item stands a comma or the closing bracket. -/
theorem follows_renderItems (items : List Json) (rest : List Char) :
    Follows (renderItems items ++ rest) := by
  cases items with
  | nil => exact Follows.cons (Or.inr (Or.inl rfl)) _
  | cons item items => exact Follows.cons (Or.inl rfl) _

/-- Behind a field stands a comma or the closing brace. -/
theorem follows_renderFields (fields : List (String × Json)) (rest : List Char) :
    Follows (renderFields fields ++ rest) := by
  cases fields with
  | nil => exact Follows.cons (Or.inr (Or.inr rfl)) _
  | cons field fields => exact Follows.cons (Or.inl rfl) _

/-- A new key goes behind the others. -/
theorem insert_of_not_mem {key : String} {value : Json} {record : Record}
    (h : key ∉ Record.keys record) : Record.insert key value record = record ++ [(key, value)] := by
  induction record with
  | nil => rfl
  | cons field rest ih =>
    obtain ⟨hne, hrest⟩ := not_or.mp fun hmem => h (List.mem_cons.mpr hmem)
    rw [Record.insert, if_neg (Ne.symm hne), ih hrest]
    rfl

/-- Setting distinct keys one after another gives the record of these keys. -/
theorem ofPairs_eq_self {fields : Record} (h : (Record.keys fields).Nodup) :
    Record.ofPairs fields = fields := by
  suffices hfold : ∀ front rest : Record, (Record.keys (front ++ rest)).Nodup →
      rest.foldl (fun record pair => Record.insert pair.1 pair.2 record) front = front ++ rest from
    hfold [] fields h
  intro front rest
  induction rest generalizing front with
  | nil => exact fun _ => (List.append_nil front).symm
  | cons field rest ih =>
    intro hkeys
    have hnew : field.1 ∉ Record.keys front := by
      rw [Record.keys, List.map_append, List.nodup_append] at hkeys
      exact fun hmem => hkeys.2.2 _ hmem field.1 List.mem_cons_self rfl
    rw [List.foldl_cons, insert_of_not_mem hnew]
    have hfold := ih (front ++ [field])
    rw [List.append_assoc, List.singleton_append] at hfold
    exact hfold hkeys

mutual

/-- **A value reads as it was written**, with whatever stands behind it left over. -/
theorem readValue?_render : ∀ {j : Json} {n d : Nat} {r : List Char}, Sound d j → j.Whole →
    2 * j.render.length ≤ n + 1 → Follows r →
    readValue? (n + 1) d (j.render ++ r) = some (j, r)
  | .null, fuel, d, rest, _, _, _, _ => by
      rw [readValue?]
      rfl
  | .bool true, fuel, d, rest, _, _, _, _ => by
      rw [readValue?]
      rfl
  | .bool false, fuel, d, rest, _, _, _, _ => by
      rw [readValue?]
      rfl
  | .number n, fuel, d, rest, hsound, hwhole, _, hrest => by
      obtain ⟨i, rfl⟩ := hwhole n (mem_subvalues_self _)
      obtain ⟨c, cs, hcons, hc⟩ := exists_integer_cons i
      have hread := readNumber?_integer (hsound.inRange _ (mem_subvalues_self _)) hrest
      show readValue? _ _ (Decimal.integer i ++ rest) = _
      rw [hcons, List.cons_append] at hread ⊢
      exact readValue?_number fuel d hc hread
  | .string s, fuel, d, rest, _, _, _, _ => by
      rw [render, quoted_append, readValue?_quote, readString?_escaped]
      simp only [Option.map_some, String.ofList_toList]
  | .array [], fuel, d, rest, hsound, _, _, _ => by
      obtain ⟨inner, rfl, -⟩ := sound_array_iff.mp hsound
      rw [readValue?]
      rfl
  | .array (item :: items), fuel, d, rest, hsound, hwhole, hfuel, _ => by
      obtain ⟨inner, rfl, hitems⟩ := sound_array_iff.mp hsound
      have hwholes := whole_array_iff.mp hwhole
      obtain ⟨c, cs, hcons, hspace, hbracket, -⟩ :=
        exists_render_cons (hwholes item List.mem_cons_self)
      have hread := readItems?_render hitems hwholes (n := fuel) (r := rest) (by
        rw [render, List.length_cons, List.length_append] at hfuel
        omega)
      rw [hcons, List.cons_append] at hread
      rw [render, List.cons_append, List.append_assoc, hcons, List.cons_append,
        readValue?_bracket fuel inner hspace hbracket, hread, Option.map_some]
  | .object [], fuel, d, rest, hsound, hwhole, hfuel, _ => by
      obtain ⟨inner, rfl, -⟩ := sound_object_iff.mp hsound
      rw [readValue?]
      rfl
  | .object ((key, value) :: fields), fuel, d, rest, hsound, hwhole, hfuel, _ => by
      obtain ⟨inner, rfl, hkeys, hfields⟩ := sound_object_iff.mp hsound
      have hread := readFields?_render hfields (whole_object_iff.mp hwhole) (n := fuel)
        (r := rest) (by
          rw [render, List.length_cons, List.length_append, List.length_cons,
            List.length_append] at hfuel
          omega)
      rw [quoted_append] at hread
      rw [render, List.cons_append, List.append_assoc, List.cons_append, List.append_assoc,
        quoted_append, readValue?_brace, hread]
      simp only [Option.map_some, ofPairs_eq_self hkeys]
termination_by j => sizeOf j

/-- So do the items of an array, up to its closing bracket. -/
theorem readItems?_render : ∀ {item : Json} {items : List Json} {n d : Nat} {r : List Char},
    (∀ x ∈ item :: items, Sound d x) → (∀ x ∈ item :: items, x.Whole) →
    2 * (item.render.length + (renderItems items).length) ≤ n →
    readItems? n d (item.render ++ (renderItems items ++ r)) = some (item :: items, r)
  | item, [], fuel, d, rest, hsound, hwhole, hfuel => by
      have hpos := length_render_pos (hwhole item List.mem_cons_self)
      obtain ⟨fuel, rfl⟩ := Nat.exists_eq_add_of_le' (show 2 ≤ fuel by omega)
      rw [renderItems, List.length_singleton] at hfuel
      have hitem := readValue?_render (hsound item List.mem_cons_self)
        (hwhole item List.mem_cons_self) (n := fuel) (by omega) (follows_renderItems [] rest)
      rw [readItems?, hitem]
      rfl
  | item, next :: items, fuel, d, rest, hsound, hwhole, hfuel => by
      have hpos := length_render_pos (hwhole item List.mem_cons_self)
      obtain ⟨fuel, rfl⟩ := Nat.exists_eq_add_of_le' (show 2 ≤ fuel by omega)
      rw [renderItems, List.length_cons, List.length_append] at hfuel
      have hitem := readValue?_render (hsound item List.mem_cons_self)
        (hwhole item List.mem_cons_self) (n := fuel) (by omega)
        (follows_renderItems (next :: items) rest)
      have hitems := readItems?_render (List.forall_mem_cons.mp hsound).2
        (List.forall_mem_cons.mp hwhole).2 (n := fuel + 1) (r := rest) (by omega)
      rw [readItems?, hitem, renderItems, List.cons_append, List.append_assoc]
      simp only [Option.bind_eq_bind, Option.bind_some, skipSpace_cons (c := ',') (by decide),
        hitems]
termination_by item items => sizeOf item + sizeOf items

/-- So do the fields of an object, up to its closing brace. -/
theorem readFields?_render : ∀ {key : String} {value : Json} {fields : List (String × Json)}
    {n d : Nat} {r : List Char}, (∀ field ∈ (key, value) :: fields, Sound d field.2) →
    (∀ field ∈ (key, value) :: fields, field.2.Whole) →
    2 * ((quoted key).length + (value.render.length + (renderFields fields).length)) ≤ n →
    readFields? n d (quoted key ++ ':' :: (value.render ++ (renderFields fields ++ r)))
      = some ((key, value) :: fields, r)
  | key, value, [], fuel, d, rest, hsound, hwhole, hfuel => by
      have hpos : 0 < value.render.length := length_render_pos (hwhole _ List.mem_cons_self)
      obtain ⟨fuel, rfl⟩ := Nat.exists_eq_add_of_le' (show 2 ≤ fuel by omega)
      rw [renderFields, List.length_singleton] at hfuel
      have hvalue := readValue?_render (hsound _ List.mem_cons_self)
        (hwhole _ List.mem_cons_self) (n := fuel) (by dsimp only; omega)
        (follows_renderFields [] rest)
      rw [quoted_append, readFields?, skipSpace_cons (by decide)]
      simp only [readString?_escaped, Option.bind_eq_bind, Option.bind_some,
        skipSpace_cons (c := ':') (by decide), hvalue, String.ofList_toList]
      rfl
  | key, value, (next, other) :: fields, fuel, d, rest, hsound, hwhole, hfuel => by
      have hpos : 0 < value.render.length := length_render_pos (hwhole _ List.mem_cons_self)
      obtain ⟨fuel, rfl⟩ := Nat.exists_eq_add_of_le' (show 2 ≤ fuel by omega)
      rw [renderFields, List.length_cons, List.length_append, List.length_cons,
        List.length_append] at hfuel
      have hvalue := readValue?_render (hsound _ List.mem_cons_self)
        (hwhole _ List.mem_cons_self) (n := fuel) (by dsimp only; omega)
        (follows_renderFields ((next, other) :: fields) rest)
      have hfields := readFields?_render (List.forall_mem_cons.mp hsound).2
        (List.forall_mem_cons.mp hwhole).2 (n := fuel + 1) (r := rest) (by omega)
      rw [quoted_append, readFields?, skipSpace_cons (by decide)]
      simp only [readString?_escaped, Option.bind_eq_bind, Option.bind_some,
        skipSpace_cons (c := ':') (by decide), hvalue, String.ofList_toList]
      rw [renderFields, List.cons_append, List.append_assoc, List.cons_append, List.append_assoc]
      simp only [skipSpace_cons (c := ',') (by decide), hfields, Option.bind_some]
termination_by _ value fields => sizeOf value + sizeOf fields

end

/-- **The compact text of a value reads as the value.** -/
theorem parse?_render {j : Json} (hsound : Sound maxDepth j) (hwhole : j.Whole) :
    parse? j.render = some j := by
  have hread := readValue?_render hsound hwhole (n := 2 * j.render.length + 1) (by omega)
    (r := []) nofun
  rw [List.append_nil] at hread
  unfold parse?
  rw [hread]
  rfl

end TidyTable.Json
