import TidyTable.Json.Parser
import TidyTable.Proofs.Json.Values

/-!
# What reading a value guarantees

Not every value can be the result of reading a text. An object that was read has each of its keys
once, because a repeated key only sets the value again; containers nest no deeper than reading
allows; and a number that counts as an integer is one that a word holds.
-/

namespace TidyTable

namespace Record

variable {fields : List (String × Json)} {key : String} {value : Json}

/-- Setting a key adds nothing but the field that is set. -/
theorem mem_insert {record : Record} {field : String × Json}
    (h : field ∈ insert key value record) : field = (key, value) ∨ field ∈ record := by
  induction record with
  | nil => exact Or.inl (List.mem_singleton.mp h)
  | cons first rest ih =>
    rw [insert] at h
    split at h
    · exact (List.mem_cons.mp h).imp_right (List.mem_cons_of_mem _)
    · rcases List.mem_cons.mp h with rfl | h
      · exact Or.inr List.mem_cons_self
      · exact (ih h).imp_right (List.mem_cons_of_mem _)

/-- The keys of a record that is made from pairs are distinct, and its fields are among the
pairs. -/
theorem ofPairs_spec (pairs : List (String × Json)) :
    (keys (ofPairs pairs)).Nodup ∧ ∀ field ∈ ofPairs pairs, field ∈ pairs := by
  -- the record that is made so far is any with distinct keys
  suffices h : ∀ record : Record, (keys record).Nodup →
      (keys (pairs.foldl (fun record pair => insert pair.1 pair.2 record) record)).Nodup ∧
        ∀ field ∈ pairs.foldl (fun record pair => insert pair.1 pair.2 record) record,
          field ∈ record ∨ field ∈ pairs by
    obtain ⟨hkeys, hfields⟩ := h [] List.nodup_nil
    exact ⟨hkeys, fun field hfield => (hfields field hfield).resolve_left List.not_mem_nil⟩
  induction pairs with
  | nil => exact fun record h => ⟨h, fun field hfield => Or.inl hfield⟩
  | cons pair pairs ih =>
    intro record h
    obtain ⟨hkeys, hfields⟩ := ih (insert pair.1 pair.2 record) (nodup_keys_insert h)
    refine ⟨hkeys, fun field hfield => ?_⟩
    rcases hfields field hfield with hold | hnew
    · rcases mem_insert hold with rfl | hold
      · exact Or.inr List.mem_cons_self
      · exact Or.inl hold
    · exact Or.inr (List.mem_cons_of_mem _ hnew)

end Record

namespace Json

variable {fuel d : Nat} {cs rest : List Char} {j : Json}

/-- An integer is one that a signed or an unsigned word holds. -/
def Number.InRange : Number → Prop
  | .integer i => minInteger ≤ i ∧ i ≤ maxInteger
  | .float _ => True

/-- A number with a fraction or an exponent is no integer. -/
theorem inRange_of_decimalNumber? {negative : Bool} {ds fraction : List Char} {power : Int}
    {n : Number} (h : decimalNumber? negative ds fraction power = some n) : n.InRange := by
  obtain ⟨x, -, rfl⟩ := Option.map_eq_some_iff.mp h
  trivial

/-- An integer that no word holds is read as a double. -/
theorem inRange_of_integerNumber? {negative : Bool} {ds : List Char} {n : Number}
    (h : integerNumber? negative ds = some n) : n.InRange := by
  unfold integerNumber? at h
  extract_lets value i at h
  split at h
  · exact inRange_of_decimalNumber? h
  · rename_i hrange
    obtain rfl := Option.some.inj h
    simp only [Bool.or_eq_true, decide_eq_true_eq, not_or, Int.not_lt] at hrange
    exact ⟨hrange.1.2, hrange.2⟩

/-- **Every number that is read is in range.** -/
theorem inRange_of_readNumber? {n : Number} (h : readNumber? cs = some (n, rest)) :
    n.InRange := by
  -- with and without a sign, what follows is read in the same way
  have hunsigned : ∀ {negative : Bool} {cs : List Char},
      readUnsigned? negative cs = some (n, rest) → n.InRange := by
    intro negative cs h
    unfold readUnsigned? at h
    dsimp only at h
    split at h
    · exact absurd h nofun
    · obtain ⟨⟨fraction, afterFraction⟩, -, h⟩ := Option.bind_eq_some_iff.mp h
      obtain ⟨⟨power, afterPower⟩, -, h⟩ := Option.bind_eq_some_iff.mp h
      dsimp only at h
      split at h
      · obtain ⟨number, hnumber, h⟩ := Option.bind_eq_some_iff.mp h
        obtain ⟨rfl, -⟩ := Prod.mk.inj (Option.some.inj h)
        exact inRange_of_integerNumber? hnumber
      · obtain ⟨number, hnumber, h⟩ := Option.bind_eq_some_iff.mp h
        obtain ⟨rfl, -⟩ := Prod.mk.inj (Option.some.inj h)
        exact inRange_of_decimalNumber? hnumber
  unfold readNumber? at h
  split at h <;> exact hunsigned h

/-! ## Values -/

/-- What is known of a value that was read where containers may nest `d` deep. -/
structure Sound (d : Nat) (j : Json) : Prop where
  /-- No object in it has a key twice. -/
  distinct : j.Distinct
  /-- It is no deeper than is allowed. -/
  depth_le : j.depth ≤ d
  /-- A word holds each of its integers. -/
  inRange : ∀ n, Json.number n ∈ j.subvalues → n.InRange

/-- **What reading a value can give**: a value without parts, or a container of one level less. -/
theorem readValue?_cases (h : readValue? (fuel + 1) d cs = some (j, rest)) :
    (j.subvalues = [j] ∧ j.keys = [] ∧ j.depth = 0 ∧ ∀ n, j = .number n → n.InRange) ∨
      (∃ inner items, d = inner + 1 ∧ j = .array items ∧
        (items = [] ∨ ∃ cs', readItems? fuel inner cs' = some (items, rest))) ∨
      ∃ inner pairs, d = inner + 1 ∧ j = .object (Record.ofPairs pairs) ∧
        (pairs = [] ∨ ∃ cs', readFields? fuel inner cs' = some (pairs, rest)) := by
  rw [readValue?] at h
  split at h
  · exact absurd h nofun
  · obtain ⟨rfl, -⟩ := Prod.mk.inj (Option.some.inj h)
    exact Or.inl ⟨rfl, rfl, rfl, nofun⟩
  · obtain ⟨rfl, -⟩ := Prod.mk.inj (Option.some.inj h)
    exact Or.inl ⟨rfl, rfl, rfl, nofun⟩
  · obtain ⟨rfl, -⟩ := Prod.mk.inj (Option.some.inj h)
    exact Or.inl ⟨rfl, rfl, rfl, nofun⟩
  · -- a string
    obtain ⟨⟨s, r⟩, -, hj⟩ := Option.map_eq_some_iff.mp h
    obtain ⟨rfl, -⟩ := Prod.mk.inj hj
    exact Or.inl ⟨rfl, rfl, rfl, nofun⟩
  · -- an array
    cases d with
    | zero => exact absurd h nofun
    | succ inner =>
      dsimp only at h
      split at h
      · obtain ⟨rfl, -⟩ := Prod.mk.inj (Option.some.inj h)
        exact Or.inr (Or.inl ⟨inner, [], rfl, rfl, Or.inl rfl⟩)
      · obtain ⟨⟨items, r⟩, hitems, hj⟩ := Option.map_eq_some_iff.mp h
        obtain ⟨rfl, rfl⟩ := Prod.mk.inj hj
        exact Or.inr (Or.inl ⟨inner, items, rfl, rfl, Or.inr ⟨_, hitems⟩⟩)
  · -- an object
    cases d with
    | zero => exact absurd h nofun
    | succ inner =>
      dsimp only at h
      split at h
      · obtain ⟨rfl, -⟩ := Prod.mk.inj (Option.some.inj h)
        exact Or.inr (Or.inr ⟨inner, [], rfl, rfl, Or.inl rfl⟩)
      · obtain ⟨⟨pairs, r⟩, hpairs, hj⟩ := Option.map_eq_some_iff.mp h
        obtain ⟨rfl, rfl⟩ := Prod.mk.inj hj
        exact Or.inr (Or.inr ⟨inner, pairs, rfl, rfl, Or.inr ⟨_, hpairs⟩⟩)
  · -- a number
    obtain ⟨⟨n, r⟩, hn, hj⟩ := Option.map_eq_some_iff.mp h
    obtain ⟨rfl, rfl⟩ := Prod.mk.inj hj
    refine Or.inl ⟨rfl, rfl, rfl, fun m hm => ?_⟩
    obtain rfl := Json.number.inj hm
    exact inRange_of_readNumber? hn

/-- What reading items can give: an item, and after a comma those behind it. -/
theorem readItems?_cases {items : List Json}
    (h : readItems? (fuel + 1) d cs = some (items, rest)) :
    ∃ item more behind, items = item :: more ∧ readValue? fuel d cs = some (item, behind) ∧
      (more = [] ∨ ∃ cs', readItems? fuel d cs' = some (more, rest)) := by
  rw [readItems?] at h
  obtain ⟨⟨item, behind⟩, hitem, h⟩ := Option.bind_eq_some_iff.mp h
  dsimp only at h
  split at h
  · obtain ⟨⟨more, r⟩, hmore, h⟩ := Option.bind_eq_some_iff.mp h
    obtain ⟨rfl, rfl⟩ := Prod.mk.inj (Option.some.inj h)
    exact ⟨item, more, behind, rfl, hitem, Or.inr ⟨_, hmore⟩⟩
  · obtain ⟨rfl, rfl⟩ := Prod.mk.inj (Option.some.inj h)
    exact ⟨item, [], behind, rfl, hitem, Or.inl rfl⟩
  · exact absurd h nofun

/-- What reading fields can give: a key with its value, and after a comma those behind it. -/
theorem readFields?_cases {pairs : List (String × Json)}
    (h : readFields? (fuel + 1) d cs = some (pairs, rest)) :
    ∃ key value more cs' behind, pairs = (key, value) :: more ∧
      readValue? fuel d cs' = some (value, behind) ∧
      (more = [] ∨ ∃ cs', readFields? fuel d cs' = some (more, rest)) := by
  rw [readFields?] at h
  split at h
  · obtain ⟨⟨key, r⟩, -, h⟩ := Option.bind_eq_some_iff.mp h
    dsimp only at h
    split at h
    · obtain ⟨⟨value, behind⟩, hvalue, h⟩ := Option.bind_eq_some_iff.mp h
      dsimp only at h
      split at h
      · obtain ⟨⟨more, r⟩, hmore, h⟩ := Option.bind_eq_some_iff.mp h
        obtain ⟨rfl, rfl⟩ := Prod.mk.inj (Option.some.inj h)
        exact ⟨_, value, more, _, behind, rfl, hvalue, Or.inr ⟨_, hmore⟩⟩
      · obtain ⟨rfl, rfl⟩ := Prod.mk.inj (Option.some.inj h)
        exact ⟨_, value, [], _, behind, rfl, hvalue, Or.inl rfl⟩
      · exact absurd h nofun
    · exact absurd h nofun
  · exact absurd h nofun

/-- An array is sound if its items are, one level further inside. -/
theorem sound_array_iff {items : List Json} :
    Sound d (.array items) ↔ ∃ inner, d = inner + 1 ∧ ∀ item ∈ items, Sound inner item := by
  constructor
  · intro h
    have hdepth : depthOfItems items + 1 ≤ d := h.depth_le
    obtain ⟨inner, rfl⟩ := Nat.exists_eq_add_of_le' (Nat.le_trans (Nat.le_add_left 1 _) hdepth)
    refine ⟨inner, rfl, fun item hitem => ⟨distinct_array.mp h.distinct item hitem,
      depthOfItems_le_iff.mp (Nat.le_of_succ_le_succ hdepth) item hitem, fun n hn => ?_⟩⟩
    refine h.inRange n ?_
    rw [subvalues]
    exact List.mem_cons_of_mem _ (mem_subvaluesOfItems_iff.mpr ⟨item, hitem, hn⟩)
  · rintro ⟨inner, rfl, h⟩
    refine ⟨distinct_array.mpr fun item hitem => (h item hitem).distinct,
      Nat.succ_le_succ (depthOfItems_le_iff.mpr fun item hitem => (h item hitem).depth_le),
      fun n hn => ?_⟩
    rw [subvalues, List.mem_cons] at hn
    rcases hn with heq | hn
    · cases heq
    · obtain ⟨item, hitem, hin⟩ := mem_subvaluesOfItems_iff.mp hn
      exact (h item hitem).inRange n hin

/-- An object also has distinct keys. -/
theorem sound_object_iff {fields : List (String × Json)} :
    Sound d (.object fields) ↔ ∃ inner, d = inner + 1 ∧ (Record.keys fields).Nodup ∧
      ∀ field ∈ fields, Sound inner field.2 := by
  constructor
  · intro h
    have hdepth : depthOfFields fields + 1 ≤ d := h.depth_le
    obtain ⟨inner, rfl⟩ := Nat.exists_eq_add_of_le' (Nat.le_trans (Nat.le_add_left 1 _) hdepth)
    obtain ⟨hkeys, hvalues⟩ := distinct_object.mp h.distinct
    refine ⟨inner, rfl, hkeys, fun field hfield => ⟨hvalues field hfield,
      depthOfFields_le_iff.mp (Nat.le_of_succ_le_succ hdepth) field hfield, fun n hn => ?_⟩⟩
    refine h.inRange n ?_
    rw [subvalues]
    exact List.mem_cons_of_mem _ (mem_subvaluesOfFields_iff.mpr ⟨field, hfield, hn⟩)
  · rintro ⟨inner, rfl, hkeys, h⟩
    refine ⟨distinct_object.mpr ⟨hkeys, fun field hfield => (h field hfield).distinct⟩,
      Nat.succ_le_succ (depthOfFields_le_iff.mpr fun field hfield => (h field hfield).depth_le),
      fun n hn => ?_⟩
    rw [subvalues, List.mem_cons] at hn
    rcases hn with heq | hn
    · cases heq
    · obtain ⟨field, hfield, hin⟩ := mem_subvaluesOfFields_iff.mp hn
      exact (h field hfield).inRange n hin

/-- **What is read is sound**, and so are the items and the fields of what is read. -/
theorem sound_of_read (fuel : Nat) :
    (∀ d cs j rest, readValue? fuel d cs = some (j, rest) → Sound d j) ∧
      (∀ d cs items rest, readItems? fuel d cs = some (items, rest) →
        ∀ item ∈ items, Sound d item) ∧
      ∀ d cs pairs rest, readFields? fuel d cs = some (pairs, rest) →
        ∀ pair ∈ pairs, Sound d pair.2 := by
  induction fuel with
  | zero =>
    refine ⟨fun d cs j rest h => ?_, fun d cs items rest h => ?_, fun d cs pairs rest h => ?_⟩
    · rw [readValue?] at h; exact absurd h nofun
    · rw [readItems?] at h; exact absurd h nofun
    · rw [readFields?] at h; exact absurd h nofun
  | succ fuel ih =>
    obtain ⟨hvalue, hitems, hfields⟩ := ih
    refine ⟨fun d cs j rest h => ?_, fun d cs items rest h => ?_, fun d cs pairs rest h => ?_⟩
    · rcases readValue?_cases h with ⟨hparts, hkeys, hdepth, hrange⟩ |
        ⟨inner, items, rfl, rfl, hread⟩ | ⟨inner, pairs, rfl, rfl, hread⟩
      · refine ⟨?_, hdepth ▸ Nat.zero_le d, fun n hn => ?_⟩
        · intro v hv
          rw [hparts, List.mem_singleton] at hv
          rw [hv, hkeys]
          exact List.nodup_nil
        · rw [hparts, List.mem_singleton] at hn
          exact hrange n hn.symm
      · refine sound_array_iff.mpr ⟨inner, rfl, fun item hitem => ?_⟩
        rcases hread with rfl | ⟨cs', hread⟩
        · exact absurd hitem List.not_mem_nil
        · exact hitems inner cs' items rest hread item hitem
      · obtain ⟨hkeys, hmem⟩ := Record.ofPairs_spec pairs
        refine sound_object_iff.mpr ⟨inner, rfl, hkeys, fun field hfield => ?_⟩
        rcases hread with rfl | ⟨cs', hread⟩
        · exact absurd hfield List.not_mem_nil
        · exact hfields inner cs' pairs rest hread field (hmem field hfield)
    · obtain ⟨item, more, behind, rfl, hitem, hmore⟩ := readItems?_cases h
      refine List.forall_mem_cons.mpr ⟨hvalue d cs item behind hitem, ?_⟩
      rcases hmore with rfl | ⟨cs', hmore⟩
      · exact fun item h => absurd h List.not_mem_nil
      · exact hitems d cs' more rest hmore
    · obtain ⟨key, value, more, cs', behind, rfl, hval, hmore⟩ := readFields?_cases h
      refine List.forall_mem_cons.mpr ⟨hvalue d cs' value behind hval, ?_⟩
      rcases hmore with rfl | ⟨cs'', hmore⟩
      · exact fun pair h => absurd h List.not_mem_nil
      · exact hfields d cs'' more rest hmore

/-- **What is read of a whole text is sound** for the depth that reading allows. -/
theorem sound_of_parse? (h : parse? cs = some j) : Sound maxDepth j := by
  unfold parse? at h
  split at h
  · rename_i j' rest hread
    split at h
    · obtain rfl := Option.some.inj h
      exact (sound_of_read _).1 _ _ _ _ hread
    · exact absurd h nofun
  · exact absurd h nofun

end Json

end TidyTable
