import TidyTable.Proofs.Invariant
import TidyTable.Proofs.Json.Values

/-!
# One path for one leaf

Joining keys forgets where one key ends and the next begins, so two leaves of a record can come to
stand on one path, and then only the later one is kept. This cannot happen if the separator is one
character and no key has it: the keys can be read off the path, by cutting it at the separators.
Empty keys do no harm, because a path comes from one key at least.

What is left to show is that the keys tell the leaves apart. They do, since an object has every key
once. Other rows do not matter. They may bring any records and add any columns, but a cell is filled
from the leaves of its own row.
-/

namespace TidyTable

namespace Json

variable {fields : List (String × Json)}

/-! ## Keys tell leaves apart -/

/-- The first key on the way to a leaf is a key of the object itself. -/
theorem head?_of_mem_walkFields : ∀ {fields : List (String × Json)} {e : List String × Json},
    e ∈ walkFields fields → ∃ key ∈ Record.keys fields, e.1.head? = some key
  | [], _, h => by rw [walkFields] at h; exact absurd h List.not_mem_nil
  | (key, value) :: rest, e, h => by
      rw [walkFields] at h
      rcases List.mem_append.mp h with h | h
      · obtain ⟨inner, _, rfl⟩ := List.mem_map.mp h
        exact ⟨key, List.mem_cons_self, rfl⟩
      · obtain ⟨other, hother, hhead⟩ := head?_of_mem_walkFields h
        exact ⟨other, List.mem_cons_of_mem _ hother, hhead⟩

mutual

theorem nodup_keys_walk : ∀ {j : Json}, j.Distinct → ((walk j).map Prod.fst).Nodup
  | .object fields, h => by
      rw [walk]
      exact nodup_keys_walkFields (distinct_object.mp h).1 (distinct_object.mp h).2
  | .null, _ | .bool _, _ | .number _, _ | .string _, _ | .array _, _ => List.nodup_singleton _

/-- **Distinct leaves have distinct keys**: two leaves below one field differ by the keys that
follow, and two leaves below different fields by the first key. -/
theorem nodup_keys_walkFields : ∀ {fields : List (String × Json)}, (Record.keys fields).Nodup →
    (∀ field ∈ fields, field.2.Distinct) → ((walkFields fields).map Prod.fst).Nodup
  | [], _, _ => List.nodup_nil
  | (key, value) :: rest, hkeys, hvalues => by
      obtain ⟨hnot, hrest⟩ := List.nodup_cons.mp hkeys
      obtain ⟨hvalue, hvalues⟩ := List.forall_mem_cons.mp hvalues
      have hbelow : ((walk value).map Prod.fst).Nodup := nodup_keys_walk hvalue
      rw [walkFields, List.map_append]
      refine List.nodup_append.mpr ⟨?_, nodup_keys_walkFields hrest hvalues, ?_⟩
      · have hcons : ((walk value).map fun (keys, leaf) => (key :: keys, leaf)).map Prod.fst
            = ((walk value).map Prod.fst).map (key :: ·) := by
          rw [List.map_map, List.map_map]
          rfl
        rw [hcons]
        exact hbelow.map fun a b heq => (List.cons.inj heq).2
      · rintro _ hfirst _ hsecond rfl
        obtain ⟨below, hbelow', hkeys'⟩ := List.mem_map.mp hfirst
        obtain ⟨inner, -, rfl⟩ := List.mem_map.mp hbelow'
        obtain ⟨other, hother, heq⟩ := List.mem_map.mp hsecond
        obtain ⟨k, hk, hhead⟩ := head?_of_mem_walkFields hother
        rw [heq, ← hkeys'] at hhead
        obtain rfl := Option.some.inj hhead
        exact hnot hk

end

mutual

/-- The keys on the way to a leaf are keys of objects in the value. -/
theorem exists_key_of_mem_walk : ∀ {j : Json} {e : List String × Json} {key : String},
    e ∈ walk j → key ∈ e.1 → ∃ v ∈ j.subvalues, key ∈ v.keys
  | .object fields, e, key, he, hkey => by
      rw [walk] at he
      rcases exists_key_of_mem_walkFields he hkey with hown | ⟨field, hfield, v, hv, hin⟩
      · exact ⟨_, mem_subvalues_self _, hown⟩
      · refine ⟨v, ?_, hin⟩
        rw [subvalues]
        exact List.mem_cons_of_mem _ (mem_subvaluesOfFields_iff.mpr ⟨field, hfield, hv⟩)
  | .null, _, _, he, hkey | .bool _, _, _, he, hkey | .number _, _, _, he, hkey
  | .string _, _, _, he, hkey | .array _, _, _, he, hkey => by
      obtain rfl := List.mem_singleton.mp he
      exact absurd hkey List.not_mem_nil

theorem exists_key_of_mem_walkFields : ∀ {fields : List (String × Json)}
    {e : List String × Json} {key : String}, e ∈ walkFields fields → key ∈ e.1 →
    key ∈ Record.keys fields ∨ ∃ field ∈ fields, ∃ v ∈ field.2.subvalues, key ∈ v.keys
  | [], _, _, he, _ => by rw [walkFields] at he; exact absurd he List.not_mem_nil
  | (first, value) :: rest, e, key, he, hkey => by
      rw [walkFields] at he
      rcases List.mem_append.mp he with he | he
      · obtain ⟨inner, hinner, rfl⟩ := List.mem_map.mp he
        rcases List.mem_cons.mp hkey with rfl | hkey
        · exact Or.inl List.mem_cons_self
        · exact Or.inr ⟨_, List.mem_cons_self, exists_key_of_mem_walk hinner hkey⟩
      · rcases exists_key_of_mem_walkFields he hkey with hown | ⟨field, hfield, hin⟩
        · exact Or.inl (List.mem_cons_of_mem _ hown)
        · exact Or.inr ⟨field, List.mem_cons_of_mem _ hfield, hin⟩

end

/-! ## Paths tell keys apart -/

/-- Keys are read off a path by cutting it at the separators. -/
theorem intercalate_injective {c : Char} {keys other : List String} (hne : keys ≠ [])
    (hne' : other ≠ []) (hfree : ∀ key ∈ keys, c ∉ key.toList)
    (hfree' : ∀ key ∈ other, c ∉ key.toList)
    (h : (String.singleton c).intercalate keys = (String.singleton c).intercalate other) :
    keys = other := by
  have hcut : ∀ {keys : List String}, keys ≠ [] → (∀ key ∈ keys, c ∉ key.toList) →
      ((String.singleton c).intercalate keys).toList.splitOn c = keys.map String.toList := by
    intro keys hne hfree
    rw [String.toList_intercalate, String.toList_singleton]
    refine List.splitOn_intercalate _ (fun cs hcs => ?_) (by simpa using hne)
    obtain ⟨key, hkey, rfl⟩ := List.mem_map.mp hcs
    exact hfree key hkey
  have hlists : keys.map String.toList = other.map String.toList := by
    rw [← hcut hne hfree, ← hcut hne' hfree', h]
  exact List.map_injective_iff.mpr (fun a b => String.toList_inj.mp) hlists

/-- Distinct leaves stand on distinct paths. -/
theorem nodup_paths {c : Char} (hkeys : (Json.object fields).Distinct)
    (hfree : ∀ v ∈ (Json.object fields).subvalues, ∀ key ∈ v.keys, c ∉ key.toList) :
    ((walkFields fields).map fun e => (String.singleton c).intercalate e.1).Nodup := by
  have hnodup := nodup_keys_walkFields (distinct_object.mp hkeys).1 (distinct_object.mp hkeys).2
  have hjoin : ((walkFields fields).map fun e => (String.singleton c).intercalate e.1)
      = ((walkFields fields).map Prod.fst).map (String.singleton c).intercalate := by
    rw [List.map_map]
    rfl
  rw [hjoin]
  refine hnodup.map_on fun keys hmem other hmem' heq => ?_
  obtain ⟨e, he, rfl⟩ := List.mem_map.mp hmem
  obtain ⟨e', he', rfl⟩ := List.mem_map.mp hmem'
  have hon : ∀ e ∈ walk (.object fields), ∀ key ∈ e.1, c ∉ key.toList := by
    intro e he key hkey
    obtain ⟨v, hv, hin⟩ := exists_key_of_mem_walk he hkey
    exact hfree v hv key hin
  exact intercalate_injective (keys_ne_nil_of_mem_walkFields he)
    (keys_ne_nil_of_mem_walkFields he') (hon e he) (hon e' he') heq

end Json

namespace Table

variable {t : Table} {i k : Nat} {row : Row} {fields : Record}

/-- A value that is alone on its path is the last one there. -/
theorem lastOn_of_mem {entries : List Leaf} {path : String} {value : Scalar}
    (hnodup : (entries.map Prod.fst).Nodup) (hmem : (path, value) ∈ entries) :
    lastOn path entries = some value := by
  induction entries with
  | nil => exact absurd hmem List.not_mem_nil
  | cons entry entries ih =>
    obtain ⟨hnot, hrest⟩ := List.nodup_cons.mp hnodup
    unfold lastOn
    rcases List.mem_cons.mp hmem with rfl | hlater
    · have hnone : entries.filter (·.1 == path) = [] := by
        refine List.filter_eq_nil_iff.mpr fun other hother heq => ?_
        exact hnot (List.mem_map.mpr ⟨other, hother, by simpa using heq⟩)
      rw [List.filter_cons_of_pos (by simp), hnone]
      rfl
    · have hne : entry.1 ≠ path :=
        fun heq => hnot (List.mem_map.mpr ⟨(path, value), hlater, heq.symm⟩)
      rw [List.filter_cons_of_neg (by simpa using hne)]
      exact ih hrest hlater

/-- A cell of a new column holds the last value of its row on the path. -/
theorem cell_flattened (ht : t.WellFormed) {separator path : String} (hrow : t.rows[i]? = some row)
    (hpath : path ∈ t.newPaths separator k) :
    ∃ j flat, (t.flattened separator k).columnIndex? path = some j ∧
      (t.flattened separator k).rows[i]? = some flat ∧
      flat[j]? = some (.plain ((lastOn path (entriesOf separator k row)).getD .empty)) := by
  obtain ⟨m, hm⟩ := List.mem_iff_getElem?.mp hpath
  have hlen : (row.eraseIdx k).length = (t.columns.eraseIdx k).length := by
    rw [List.length_eraseIdx, List.length_eraseIdx, ht.length_row row (List.mem_of_getElem? hrow)]
  have hcolumn : (t.flattened separator k).columns[(t.columns.eraseIdx k).length + m]?
      = some path := by
    show (t.columns.eraseIdx k ++ t.newPaths separator k)[_]? = some path
    rw [List.getElem?_append_right (by omega), Nat.add_sub_cancel_left, hm]
  refine ⟨_, _, columnIndex?_of_getElem? (ht.flattened separator k).nodup_columns hcolumn,
    by rw [flattened, List.getElem?_map, hrow]; rfl, ?_⟩
  rw [← hlen, List.getElem?_append_right (by omega), Nat.add_sub_cancel_left, List.getElem?_map,
    hm]
  rfl

/-- **No leaf is lost if no key has the separator.** The leaves of a record stand on distinct paths,
and each of them fills the cell of its row under its path, unless the path is the name of a column
that was there before. -/
theorem flatten_keeps_leaves (settings : Settings) {c : Char}
    (hsep : settings.keySeparator = String.singleton c)
    (ht : t.WellFormed) (hk : t.columns[k]? = some settings.nestedColumn)
    (hrow : t.rows[i]? = some row) (hcell : row[k]? = some (.record fields))
    (hkeys : (Json.object fields).Distinct)
    (hfree : ∀ v ∈ (Json.object fields).subvalues, ∀ key ∈ v.keys, c ∉ key.toList) :
    ((Json.walkFields fields).map fun e => settings.keySeparator.intercalate e.1).Nodup ∧
      ∀ keys leaf, (keys, leaf) ∈ Json.walkFields fields →
        settings.keySeparator.intercalate keys ∉ t.columns.eraseIdx k →
        ∃ j flat, (t.flatten settings.nestedColumn settings.keySeparator).columnIndex?
            (settings.keySeparator.intercalate keys) = some j ∧
          (t.flatten settings.nestedColumn settings.keySeparator).rows[i]? = some flat ∧
          flat[j]? = some (.plain (Scalar.ofJson leaf)) := by
  have hflat : t.flatten settings.nestedColumn settings.keySeparator
      = t.flattened settings.keySeparator k :=
    flatten_at _ (columnIndex?_of_getElem? ht.nodup_columns hk)
  have hentries : entriesOf settings.keySeparator k row
      = (Json.walkFields fields).map fun e =>
        (settings.keySeparator.intercalate e.1, Scalar.ofJson e.2) := by
    unfold entriesOf
    rw [hcell]
    rfl
  have hnodup : ((Json.walkFields fields).map fun e =>
      settings.keySeparator.intercalate e.1).Nodup := by
    rw [hsep]
    exact Json.nodup_paths hkeys hfree
  refine ⟨hnodup, fun keys leaf hleaf htaken => ?_⟩
  have hmem : (settings.keySeparator.intercalate keys, Scalar.ofJson leaf)
      ∈ entriesOf settings.keySeparator k row := by
    rw [hentries]
    exact List.mem_map.mpr ⟨(keys, leaf), hleaf, rfl⟩
  have hnew : settings.keySeparator.intercalate keys ∈ t.newPaths settings.keySeparator k :=
    mem_newPaths_iff.mpr
      ⟨⟨row, List.mem_of_getElem? hrow, List.mem_map.mpr ⟨_, hmem, rfl⟩⟩, htaken⟩
  have hlast : lastOn (settings.keySeparator.intercalate keys)
      (entriesOf settings.keySeparator k row) = some (Scalar.ofJson leaf) := by
    refine lastOn_of_mem ?_ hmem
    rw [hentries, List.map_map]
    exact hnodup
  obtain ⟨j, flat, hj, hi, hcell'⟩ := cell_flattened ht hrow hnew
  rw [hflat]
  refine ⟨j, flat, hj, hi, ?_⟩
  rw [hcell', hlast]
  rfl

/-- Empty keys, a path that is taken, and a second row in which two leaves do share a path. -/
theorem flatten_keeps_leaves_beside_shared_path :
    let fields : Record :=
      [("", .object [("", .string "p"), ("b", .number (.integer 7))]), ("a", .array [.null])]
    let t : Table :=
      { columns := ["a", "More"]
        rows := [[.text "1", .record fields],
          [.text "2", .record [("/b", .string "q"), ("", .object [("b", .string "r")])]]] }
    t.WellFormed ∧ (Json.object fields).Distinct ∧
      (∀ v ∈ (Json.object fields).subvalues, ∀ key ∈ v.keys, '/' ∉ key.toList) ∧
      ((Json.walkFields fields).map fun e => "/".intercalate e.1) = ["/", "/b", "a"] ∧
      ∃ j flat, (t.flatten "More" "/").columnIndex? "/b" = some j ∧
        (t.flatten "More" "/").rows[0]? = some flat ∧
        flat[j]? = some (.plain (.int 7)) := by
  intro fields t
  have ht : t.WellFormed := by decide
  have hkeys : (Json.object fields).Distinct := by decide
  have hfree : ∀ v ∈ (Json.object fields).subvalues, ∀ key ∈ v.keys, '/' ∉ key.toList := by
    decide
  refine ⟨ht, hkeys, hfree, by decide, ?_⟩
  exact (flatten_keeps_leaves { keySeparator := "/" } rfl ht (k := 1) (i := 0) rfl rfl rfl hkeys
    hfree).2 ["", "b"] (.number (.integer 7)) (by decide) (by decide)

end Table

end TidyTable
