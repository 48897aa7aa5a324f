import TidyTable.Json.Basic

/-!
# Inside a value

What is true of everything in a value, at any depth, is said about the list of all values in it.
The keys of its objects are one such thing: reading leaves no object with a key twice, although the
type of values would allow it. How deep a value is counts the objects and arrays around its
innermost part, the value itself among them.
-/

namespace TidyTable.Json

mutual

/-- A value and all values in it, each before those in it. -/
def subvalues : Json → List Json
  | .array items => .array items :: subvaluesOfItems items
  | .object fields => .object fields :: subvaluesOfFields fields
  | j => [j]

/-- All values in the items of an array. -/
def subvaluesOfItems : List Json → List Json
  | [] => []
  | item :: items => subvalues item ++ subvaluesOfItems items

/-- All values in the fields of an object. -/
def subvaluesOfFields : List (String × Json) → List Json
  | [] => []
  | (_, value) :: fields => subvalues value ++ subvaluesOfFields fields

end

mutual

/-- How many arrays and objects stand inside one another. -/
def depth : Json → Nat
  | .array items => depthOfItems items + 1
  | .object fields => depthOfFields fields + 1
  | _ => 0

/-- How deep the deepest item is. -/
def depthOfItems : List Json → Nat
  | [] => 0
  | item :: items => max (depth item) (depthOfItems items)

/-- How deep the deepest field is. -/
def depthOfFields : List (String × Json) → Nat
  | [] => 0
  | (_, value) :: fields => max (depth value) (depthOfFields fields)

end

/-- The keys of a value that is an object. -/
def keys : Json → List String
  | .object fields => Record.keys fields
  | _ => []

/-- No object in a value has a key twice. -/
def Distinct (j : Json) : Prop := ∀ v ∈ j.subvalues, v.keys.Nodup

instance (j : Json) : Decidable j.Distinct :=
  inferInstanceAs (Decidable (∀ v ∈ j.subvalues, v.keys.Nodup))

variable {j : Json} {items : List Json} {fields : List (String × Json)}

/-- A value is among the values in it. -/
theorem mem_subvalues_self : ∀ j : Json, j ∈ j.subvalues
  | .array _ | .object _ => by rw [subvalues]; exact List.mem_cons_self
  | .null | .bool _ | .number _ | .string _ => List.mem_singleton_self _

/-- What is in the items of an array is in one of them. -/
theorem mem_subvaluesOfItems_iff {v : Json} :
    v ∈ subvaluesOfItems items ↔ ∃ item ∈ items, v ∈ item.subvalues := by
  induction items with
  | nil => simp [subvaluesOfItems]
  | cons item items ih => simp [subvaluesOfItems, ih]

/-- What is in the fields of an object is in one of them. -/
theorem mem_subvaluesOfFields_iff {v : Json} :
    v ∈ subvaluesOfFields fields ↔ ∃ field ∈ fields, v ∈ field.2.subvalues := by
  induction fields with
  | nil => simp [subvaluesOfFields]
  | cons field fields ih => simp [subvaluesOfFields, ih]

/-- What is true of everything in an array. -/
theorem forall_subvalues_array {p : Json → Prop} :
    (∀ v ∈ (Json.array items).subvalues, p v) ↔
      p (.array items) ∧ ∀ item ∈ items, ∀ v ∈ item.subvalues, p v := by
  rw [subvalues, List.forall_mem_cons]
  refine and_congr_right fun _ => ⟨fun h item hitem v hv => ?_, fun h v hv => ?_⟩
  · exact h v (mem_subvaluesOfItems_iff.mpr ⟨item, hitem, hv⟩)
  · obtain ⟨item, hitem, hv⟩ := mem_subvaluesOfItems_iff.mp hv
    exact h item hitem v hv

/-- What is true of everything in an object. -/
theorem forall_subvalues_object {p : Json → Prop} :
    (∀ v ∈ (Json.object fields).subvalues, p v) ↔
      p (.object fields) ∧ ∀ field ∈ fields, ∀ v ∈ field.2.subvalues, p v := by
  rw [subvalues, List.forall_mem_cons]
  refine and_congr_right fun _ => ⟨fun h field hfield v hv => ?_, fun h v hv => ?_⟩
  · exact h v (mem_subvaluesOfFields_iff.mpr ⟨field, hfield, hv⟩)
  · obtain ⟨field, hfield, hv⟩ := mem_subvaluesOfFields_iff.mp hv
    exact h field hfield v hv

@[simp] theorem distinct_array : (Json.array items).Distinct ↔ ∀ item ∈ items, item.Distinct := by
  have hown : (Json.array items).keys.Nodup := List.nodup_nil
  exact forall_subvalues_array.trans (and_iff_right hown)

@[simp] theorem distinct_object : (Json.object fields).Distinct ↔
    (Record.keys fields).Nodup ∧ ∀ field ∈ fields, field.2.Distinct :=
  forall_subvalues_object

/-- Items are as deep as the deepest one. -/
theorem depthOfItems_le_iff {n : Nat} :
    depthOfItems items ≤ n ↔ ∀ item ∈ items, item.depth ≤ n := by
  induction items with
  | nil => simp [depthOfItems]
  | cons item items ih => rw [depthOfItems, Nat.max_le, ih, List.forall_mem_cons]

/-- So are fields. -/
theorem depthOfFields_le_iff {n : Nat} :
    depthOfFields fields ≤ n ↔ ∀ field ∈ fields, field.2.depth ≤ n := by
  induction fields with
  | nil => simp [depthOfFields]
  | cons field fields ih => rw [depthOfFields, Nat.max_le, ih, List.forall_mem_cons]

end TidyTable.Json
