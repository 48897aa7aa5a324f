import TidyTable.Proofs.Commuting
import TidyTable.Proofs.Fidelity
import TidyTable.Proofs.Json.RoundTrip
import TidyTable.Proofs.Paths
import TidyTable.Proofs.Rendering

/-!
# The integers of records

An integer in a record is a word of 64 bits, with a sign or without. One that a signed word holds is
kept, and the digits that are written are its own. One that only an unsigned word holds is made a
double, and what is written is the shortest decimal of the double. Doubles of this size are 2048
apart, so the decimal ends in three zeros: it is near the integer, but it is the integer only if
that one ends in three zeros, too.
-/

namespace TidyTable

namespace Scalar

open Decimal

variable {n : Int}

/-- An integer that a signed word holds is written as it is. -/
theorem render_ofJson_integer (hlow : -2 ^ 63 ≤ n) (hhigh : n < 2 ^ 63) :
    (ofJson (.number (.integer n))).render = integerText n := by
  have hmin : Int64.minValue.toInt = -2 ^ 63 := by decide
  have hmax : Int64.maxValue.toInt = 2 ^ 63 - 1 := by decide
  have hkept : ofJson (.number (.integer n)) = .int (Int64.ofInt n) :=
    if_pos ⟨by omega, by omega⟩
  rw [hkept]
  show integerText (Int64.ofInt n).toInt = _
  rw [Int64.toInt_ofInt_of_le (by omega) (by omega)]

/-- The last place of the double for an integer that only an unsigned word holds is 2048, or 4096
where it is rounded up to `2 ^ 64`, and the double is at most 2048 away. -/
theorem place_of_rounded {k m : Nat} {e : Int} (h : Rounded k m e) (hlog : k.log2 = 63) :
    11 ≤ e ∧ e ≤ 12 ∧ |(m * 2 ^ e : ℚ) - k| ≤ 2048 := by
  obtain ⟨l, rfl, hlow, hhigh⟩ := h.near (j := 11) hlog
  have hk : k < 2 ^ 64 := Nat.lt_log2_self.trans_eq (by rw [hlog])
  have hne : m ≠ 0 := by
    rintro rfl
    exact absurd h.full (by decide)
  have hm : 2 ^ 52 ≤ m := ((Nat.log2_eq_iff hne).mp h.full).1
  -- a mantissa of 53 bits is shifted once at most, when it is rounded up to the next power of two
  have hl : l ≤ 1 := by
    by_contra hmore
    have hpow : 2 ^ 2 ≤ 2 ^ l := Nat.pow_le_pow_right (by decide) (by omega)
    have := Nat.mul_le_mul hm hpow
    omega
  have hvalue : (m * 2 ^ ((11 : Nat) + l : Int) : ℚ) = (m * 2 ^ l * 2 ^ 11 : Nat) := by
    rw [← Nat.cast_add, zpow_natCast]
    push_cast
    ring
  refine ⟨by omega, by omega, ?_⟩
  rw [hvalue, abs_le, neg_le_sub_iff_le_add, sub_le_iff_le_add']
  constructor
  · exact_mod_cast (show k ≤ m * 2 ^ l * 2 ^ 11 + 2048 by omega)
  · exact_mod_cast (show m * 2 ^ l * 2 ^ 11 ≤ k + 2048 by omega)

/-- Of an integer that only an unsigned word holds the last three places are lost. -/
theorem render_ofJson_large (hlow : 2 ^ 63 ≤ n) (hhigh : n < 2 ^ 64) :
    ∃ N : Nat, 1000 ∣ N ∧ |(N : Int) - n| ≤ 4096 ∧
      (ofJson (.number (.integer n))).render = integerText N := by
  obtain ⟨k, rfl⟩ := Int.eq_ofNat_of_zero_le (show 0 ≤ n by omega)
  have hmax : Int64.maxValue.toInt = 2 ^ 63 - 1 := by decide
  have hdouble : ofJson (.number (.integer k)) = .float (nearest k) :=
    if_neg fun h => by omega
  have hk : k ≠ 0 := by omega
  have hlog : k.log2 = 63 := (Nat.log2_eq_iff hk).mpr ⟨by omega, by omega⟩
  obtain ⟨negative, m, e, hfinite, hsign, hrounded⟩ := ofFloat_round hk (by omega) .positive
  obtain rfl := hsign rfl
  rw [← nearest_natCast hk] at hfinite
  obtain ⟨he, he', hnear⟩ := place_of_rounded hrounded hlog
  obtain ⟨hnear₁, hnear₂⟩ := abs_le.mp hnear
  have hkq : ((2 ^ 63 : Nat) : ℚ) ≤ k := Nat.cast_le.mpr (by omega)
  have hlarge : (10 ^ 16 : ℚ) ≤ m * 2 ^ e := by
    push_cast at hkq
    linarith
  obtain ⟨N, -, hrender, hplace, -, -, hzeros⟩ := render_of_large hfinite (Or.inl rfl) hlarge
  refine ⟨N, hzeros he, ?_, hdouble ▸ hrender⟩
  -- one rounding leads to the double, and a second one from there to the decimal
  have hunit : (2 : ℚ) ^ e ≤ 2 ^ (12 : Int) := zpow_le_zpow_right₀ (by norm_num) he'
  have htotal : |(N : ℚ) - k| ≤ 4096 := calc
    |(N : ℚ) - k| ≤ |(N : ℚ) - m * 2 ^ e| + |(m * 2 ^ e : ℚ) - k| := abs_sub_le _ _ _
    _ ≤ 2 ^ (12 : Int) / 2 + 2048 := add_le_add (le_trans hplace (by linarith)) hnear
    _ = 4096 := by norm_num
  exact_mod_cast htotal

end Scalar

namespace Table

/-- A value whose path comes once is the last one on it. -/
theorem lastOn_of_count {entries : List Leaf} {path : String} {value : Scalar}
    (hmem : (path, value) ∈ entries) (hcount : (entries.map Prod.fst).count path = 1) :
    lastOn path entries = some value := by
  have hlength : (entries.filter (·.1 == path)).length = 1 := by
    rw [← List.countP_eq_length_filter, ← hcount, List.count, List.countP_map]
    rfl
  obtain ⟨leaf, hleaf⟩ := List.length_eq_one_iff.mp hlength
  have hin : (path, value) ∈ entries.filter (·.1 == path) :=
    List.mem_filter.mpr ⟨hmem, beq_self_eq_true path⟩
  rw [hleaf, List.mem_singleton] at hin
  rw [lastOn, hleaf, ← hin]
  rfl

variable {t : Table} {i k : Nat} {row : Row} {fields : Record} {keys : List String} {leaf : Json}

/-- **A leaf that is alone on a new path fills the cell of its row under this path**, and cleaning
does not change it. -/
theorem cell_processTable (p : Processor) (ht : t.WellFormed)
    (hk : t.columns[k]? = some p.settings.nestedColumn) (hrow : t.rows[i]? = some row)
    (hcell : row[k]? = some (.record fields)) (hleaf : (keys, leaf) ∈ Json.walkFields fields)
    (hfree : p.settings.keySeparator.intercalate keys ∉ t.columns.eraseIdx k)
    (halone : ((Json.walkFields fields).map fun e => p.settings.keySeparator.intercalate e.1).count
      (p.settings.keySeparator.intercalate keys) = 1) :
    ∃ (j : Nat) (flat : Row),
      (p.processTable t).columns[j]? = some (p.settings.keySeparator.intercalate keys) ∧
      (p.processTable t).rows[i]? = some flat ∧
      flat[j]? = some (Cell.plain (Scalar.ofJson leaf)) := by
  have hentries : entriesOf p.settings.keySeparator k row
      = (Json.walkFields fields).map fun e =>
        (p.settings.keySeparator.intercalate e.1, Scalar.ofJson e.2) := by
    unfold entriesOf
    rw [hcell]
    rfl
  have hmem : (p.settings.keySeparator.intercalate keys, Scalar.ofJson leaf)
      ∈ entriesOf p.settings.keySeparator k row := by
    rw [hentries]
    exact List.mem_map.mpr ⟨(keys, leaf), hleaf, rfl⟩
  -- the path belongs to no other column, so it gets its own, and there its last value is shown
  have hnew : p.settings.keySeparator.intercalate keys ∈ t.newPaths p.settings.keySeparator k :=
    mem_newPaths_iff.mpr
      ⟨⟨row, List.mem_of_getElem? hrow, List.mem_map.mpr ⟨_, hmem, rfl⟩⟩, hfree⟩
  have hlast : lastOn (p.settings.keySeparator.intercalate keys)
      (entriesOf p.settings.keySeparator k row) = some (Scalar.ofJson leaf) := by
    refine lastOn_of_count hmem ?_
    rw [hentries, List.map_map]
    exact halone
  obtain ⟨j, flat, hj, hi, hvalue⟩ := cell_flattened ht hrow hnew
  have hflat : p.flatten t = t.flattened p.settings.keySeparator k :=
    flatten_at _ (columnIndex?_of_getElem? ht.nodup_columns hk)
  rw [hlast] at hvalue
  rw [p.processTable_eq_mapRows_flatten, hflat]
  refine ⟨j, p.processRow flat, ?_, ?_, ?_⟩
  · obtain ⟨hlt, hname, -⟩ := List.idxOf?_eq_some_iff.mp hj
    exact List.getElem?_eq_some_iff.mpr ⟨hlt, hname⟩
  · show ((t.flattened p.settings.keySeparator k).rows.map p.processRow)[i]? = _
    rw [List.getElem?_map, hi]
    rfl
  · show (flat.map p.cleaner.clean)[j]? = _
    rw [List.getElem?_map, hvalue]
    rfl

end Table

namespace Csv

variable {d : UInt8} {bs : Text.Bytes} {content name : String} {i : Nat}

/-- A text says one thing only. -/
theorem Reads.unique {rows rows' : List (List String)} (h : Reads d bs rows)
    (h' : Reads d bs rows') : rows = rows' :=
  List.map_injective_iff.mpr (List.map_injective_iff.mpr fun _ _ => Text.utf8_injective)
    (Eq.trans (Eq.symm h) h')

/-- In a row of a text, not counting the header and the column of the index, a column holds this
field. -/
def FieldAt (d : UInt8) (content : String) (i : Nat) (name field : String) : Prop :=
  ∃ (header : List String) (records : List (List String)) (record : List String) (j : Nat),
    Reads d (Text.utf8 content) (("" :: header) :: records) ∧ header.Nodup ∧
    header[j]? = some name ∧ records[i]? = some record ∧ record[j + 1]? = some field

/-- A column has one field in a row. -/
theorem FieldAt.unique {field field' : String} (h : FieldAt d content i name field)
    (h' : FieldAt d content i name field') : field = field' := by
  obtain ⟨header, records, record, j, hreads, hnodup, hj, hi, hfield⟩ := h
  obtain ⟨header', records', record', j', hreads', -, hj', hi', hfield'⟩ := h'
  obtain ⟨hheader, rfl⟩ := List.cons.inj (hreads.unique hreads')
  obtain rfl := (List.cons.inj hheader).2
  obtain rfl := Option.some.inj (hi.symm.trans hi')
  have hlt := (List.getElem?_eq_some_iff.mp hj).1
  obtain rfl := (List.getElem?_inj hlt hnodup).mp (hj.trans hj'.symm)
  exact Option.some.inj (hfield.symm.trans hfield')

end Csv

namespace Processor

variable {settings : Settings} {p : Processor} {s : String} {t : Table} {i k : Nat} {row : Row}
  {fields : Record} {keys : List String} {n : Int}

/-- **An integer of a record is written with its own digits if a signed word holds it.** Its path
must not be the name of another column, and no other leaf of the record may stand on it. A larger
integer is written as one that ends in three zeros and is at most 4096 away. -/
theorem process_text_integer (hp : ofSettings settings = .ok p)
    (hread : Table.ofCsv settings s = .ok t)
    (hk : t.columns[k]? = some settings.nestedColumn) (hrow : t.rows[i]? = some row)
    (hcell : row[k]? = some (.record fields))
    (hleaf : (keys, .number (.integer n)) ∈ Json.walkFields fields)
    (hfree : settings.keySeparator.intercalate keys ∉ t.columns.eraseIdx k)
    (halone : ((Json.walkFields fields).map fun e => settings.keySeparator.intercalate e.1).count
      (settings.keySeparator.intercalate keys) = 1)
    (hlow : -2 ^ 63 ≤ n) (hhigh : n < 2 ^ 64) :
    (∀ rest, Json.Follows rest →
        Json.readNumber? (Decimal.integer n ++ rest) = some (.integer n, rest)) ∧
      ∃ content field, p.process .csv (.text s) = .ok (.text content) ∧
        Csv.FieldAt settings.delimiterByte content i (settings.keySeparator.intercalate keys)
          field ∧
        (n < 2 ^ 63 → field = Decimal.integerText n) ∧
        (2 ^ 63 ≤ n →
          ∃ N : Nat, 1000 ∣ N ∧ |(N : Int) - n| ≤ 4096 ∧ field = Decimal.integerText N) := by
  obtain ⟨rfl, hvalid⟩ := settings_of_ofSettings hp
  have hs : s ≠ Payload.emptyCsv := by
    rintro rfl
    exact absurd hread nofun
  have hwell := Table.wellFormed_of_ofCsv hvalid hread
  obtain ⟨content, hwrite, -, hreads⟩ := Table.toCsv_reads hvalid (hwell.process p)
  obtain ⟨j, flat, hj, hi, hvalue⟩ :=
    Table.cell_processTable p hwell hk hrow hcell hleaf hfree halone
  refine ⟨fun rest => Json.readNumber?_integer ⟨hlow, by show n ≤ 2 ^ 64 - 1; omega⟩,
    content, _, (process_text_eq_ok_iff hs).mpr ⟨content, t, rfl, hread, hwrite⟩,
    ⟨_, _, Decimal.naturalText i :: flat.map Cell.render, j, hreads,
      (hwell.process p).nodup_columns, hj, ?_, ?_⟩,
    Scalar.render_ofJson_integer hlow, fun hlarge => Scalar.render_ofJson_large hlarge hhigh⟩
  · -- the row is written behind its number
    rw [List.getElem?_map, List.getElem?_zipIdx, hi, Nat.zero_add]
    rfl
  · rw [List.getElem?_cons_succ, List.getElem?_map, hvalue]
    rfl

/-- The largest integer with a sign, below another key, and the next one. -/
theorem process_text_integer_around_limit :
    let s := "A,More\nx,\"\x7b\"\"a\"\":\x7b\"\"b\"\":9223372036854775807\x7d," ++
      "\"\"c\"\":9223372036854775808\x7d\"\n"
    let out := ",A,a.b,c\n0,x,9223372036854775807,9223372036854776000\n"
    let fields : Record :=
      [("a", .object [("b", .number (.integer 9223372036854775807))]),
        ("c", .number (.integer 9223372036854775808))]
    let t : Table := { columns := ["A", "More"], rows := [[.text "x", .record fields]] }
    ofSettings {} = .ok standard ∧ Table.ofCsv {} s = .ok t ∧
      (["a", "b"], .number (.integer 9223372036854775807)) ∈ Json.walkFields fields ∧
      (["c"], .number (.integer 9223372036854775808)) ∈ Json.walkFields fields ∧
      standard.process .csv (.text s) = .ok (.text out) ∧
      Csv.FieldAt 0x2c out 0 "a.b" "9223372036854775807" ∧
      ∃ N : Nat, 1000 ∣ N ∧ |(N : Int) - 9223372036854775808| ≤ 4096 ∧
        Csv.FieldAt 0x2c out 0 "c" (Decimal.integerText N) := by
  intro s out fields t
  have hread : Table.ofCsv {} s = .ok t := by decide +kernel
  have hwrite : (standard.processTable t).toCsv {} = .ok out := by decide +kernel
  have hprocess : standard.process .csv (.text s) = .ok (.text out) :=
    (process_text_eq_ok_iff (by decide)).mpr ⟨out, t, rfl, hread, hwrite⟩
  have hinner : (["a", "b"], .number (.integer 9223372036854775807)) ∈ Json.walkFields fields :=
    List.mem_cons_self
  have houter : (["c"], .number (.integer 9223372036854775808)) ∈ Json.walkFields fields :=
    List.mem_cons_of_mem _ List.mem_cons_self
  obtain ⟨-, _, _, hout, hfield, hkept, -⟩ := process_text_integer ofSettings_standard hread
    (k := 1) (i := 0) rfl rfl rfl hinner (by decide) (by decide) (by decide) (by decide)
  obtain rfl := Payload.text.inj (Except.ok.inj (hprocess.symm.trans hout))
  obtain rfl := hkept (by decide)
  obtain ⟨-, _, _, hout, hfield', -, hlost⟩ := process_text_integer ofSettings_standard hread
    (k := 1) (i := 0) rfl rfl rfl houter (by decide) (by decide) (by decide) (by decide)
  obtain rfl := Payload.text.inj (Except.ok.inj (hprocess.symm.trans hout))
  obtain ⟨N, hzeros, hnear, rfl⟩ := hlost (by decide)
  exact ⟨ofSettings_standard, hread, hinner, houter, hprocess, hfield, N, hzeros, hnear, hfield'⟩

/-- The largest integer without a sign is written with other digits. -/
theorem process_text_integer_unsigned :
    let s := "More\n\"\x7b\"\"k\"\":18446744073709551615\x7d\"\n"
    let out := ",k\n0,18446744073709552000\n"
    let t : Table :=
      { columns := ["More"]
        rows := [[.record [("k", .number (.integer 18446744073709551615))]]] }
    Table.ofCsv {} s = .ok t ∧ standard.process .csv (.text s) = .ok (.text out) ∧
      ¬ Csv.FieldAt 0x2c out 0 "k" (Decimal.integerText 18446744073709551615) := by
  intro s out t
  have hread : Table.ofCsv {} s = .ok t := by decide +kernel
  have hwrite : (standard.processTable t).toCsv {} = .ok out := by decide +kernel
  have hreads : Csv.Reads 0x2c (Text.utf8 out) [["", "k"], ["0", "18446744073709552000"]] := by
    unfold Csv.Reads
    decide +kernel
  have hfield : Csv.FieldAt 0x2c out 0 "k" "18446744073709552000" :=
    ⟨["k"], _, _, 0, hreads, by decide, rfl, rfl, rfl⟩
  refine ⟨hread, (process_text_eq_ok_iff (by decide)).mpr ⟨out, t, rfl, hread, hwrite⟩, ?_⟩
  intro hexact
  have hdigits : "18446744073709552000" ≠ Decimal.integerText 18446744073709551615 := by
    decide +kernel
  exact hdigits (hfield.unique hexact)

end Processor

end TidyTable
