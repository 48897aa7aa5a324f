/-!
# JSON values

The values that a cell of the record column may hold. An object keeps its keys in the order in
which they were first written; writing a key again changes its value and not its place. That rule
is `Record.insert`, and `Record.ofPairs` applies it to the pairs of a text from left to right, so
the keys of a record that was read are distinct.

A number remembers whether it was written as an integer, because an integer has a text of its own
and keeps all its digits.
-/

namespace TidyTable

namespace Json

/-- A number of a JSON text: a 64-bit integer, signed or unsigned, or a double. -/
inductive Number where
  | integer (value : Int)
  | float (value : Float)
deriving DecidableEq, Repr

end Json

/-- A JSON value. -/
inductive Json where
  | null
  | bool (value : Bool)
  | number (value : Json.Number)
  | string (value : String)
  | array (items : List Json)
  | object (fields : List (String × Json))
deriving Repr

/-- The fields of an object, in order. -/
abbrev Record := List (String × Json)

namespace Record

/-- Sets a key: in place if it is there, otherwise behind the others. -/
def insert (key : String) (value : Json) : Record → Record
  | [] => [(key, value)]
  | (k, v) :: rest => if k = key then (key, value) :: rest else (k, v) :: insert key value rest

/-- The record that a list of pairs describes. -/
def ofPairs (pairs : List (String × Json)) : Record :=
  pairs.foldl (fun record pair => insert pair.1 pair.2 record) []

/-- The keys in order. -/
def keys (record : Record) : List String := record.map Prod.fst

theorem keys_insert (key : String) (value : Json) (record : Record) :
    keys (insert key value record) =
      if key ∈ keys record then keys record else keys record ++ [key] := by
  induction record with
  | nil => simp [insert, keys]
  | cons pair rest ih =>
    obtain ⟨k, v⟩ := pair
    by_cases h : k = key
    · simp [insert, keys, h]
    · have h' : ¬ key = k := fun e => h e.symm
      simp only [keys] at ih
      by_cases hm : key ∈ List.map Prod.fst rest <;> simp [insert, keys, h, h', ih, hm]

/-- Setting a key keeps the keys distinct. -/
theorem nodup_keys_insert {key : String} {value : Json} {record : Record}
    (h : (keys record).Nodup) : (keys (insert key value record)).Nodup := by
  rw [keys_insert]
  split
  · exact h
  · rename_i hk
    rw [List.nodup_append]
    exact ⟨h, by simp, by intro a ha b hb; simp at hb; subst hb; intro e; exact hk (e ▸ ha)⟩

end Record

namespace Json

mutual

/-- Equality of values is decided field by field. -/
def decEq : (a b : Json) → Decidable (a = b)
  | .null, .null => isTrue rfl
  | .bool x, .bool y =>
    if h : x = y then isTrue (h ▸ rfl) else isFalse fun e => h (Json.bool.inj e)
  | .number x, .number y =>
    if h : x = y then isTrue (h ▸ rfl) else isFalse fun e => h (Json.number.inj e)
  | .string x, .string y =>
    if h : x = y then isTrue (h ▸ rfl) else isFalse fun e => h (Json.string.inj e)
  | .array xs, .array ys =>
    match decEqItems xs ys with
    | isTrue h => isTrue (h ▸ rfl)
    | isFalse h => isFalse fun e => h (Json.array.inj e)
  | .object xs, .object ys =>
    match decEqFields xs ys with
    | isTrue h => isTrue (h ▸ rfl)
    | isFalse h => isFalse fun e => h (Json.object.inj e)
  | .null, .bool _ | .null, .number _ | .null, .string _ | .null, .array _ | .null, .object _
  | .bool _, .null | .bool _, .number _ | .bool _, .string _ | .bool _, .array _
  | .bool _, .object _
  | .number _, .null | .number _, .bool _ | .number _, .string _ | .number _, .array _
  | .number _, .object _
  | .string _, .null | .string _, .bool _ | .string _, .number _ | .string _, .array _
  | .string _, .object _
  | .array _, .null | .array _, .bool _ | .array _, .number _ | .array _, .string _
  | .array _, .object _
  | .object _, .null | .object _, .bool _ | .object _, .number _ | .object _, .string _
  | .object _, .array _ => isFalse nofun

def decEqItems : (xs ys : List Json) → Decidable (xs = ys)
  | [], [] => isTrue rfl
  | [], _ :: _ => isFalse nofun
  | _ :: _, [] => isFalse nofun
  | x :: xs, y :: ys =>
    match decEq x y, decEqItems xs ys with
    | isTrue h, isTrue hs => isTrue (h ▸ hs ▸ rfl)
    | isFalse h, _ => isFalse fun e => h (List.cons.inj e).1
    | _, isFalse hs => isFalse fun e => hs (List.cons.inj e).2

def decEqFields : (xs ys : List (String × Json)) → Decidable (xs = ys)
  | [], [] => isTrue rfl
  | [], _ :: _ => isFalse nofun
  | _ :: _, [] => isFalse nofun
  | (k, x) :: xs, (l, y) :: ys =>
    if hk : k = l then
      match decEq x y, decEqFields xs ys with
      | isTrue h, isTrue hs => isTrue (hk ▸ h ▸ hs ▸ rfl)
      | isFalse h, _ => isFalse fun e => h (Prod.mk.inj (List.cons.inj e).1).2
      | _, isFalse hs => isFalse fun e => hs (List.cons.inj e).2
    else isFalse fun e => hk (Prod.mk.inj (List.cons.inj e).1).1

end

instance : DecidableEq Json := decEq

end Json

end TidyTable
