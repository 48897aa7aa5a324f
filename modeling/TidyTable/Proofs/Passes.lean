import Mathlib.Logic.Function.Iterate
import TidyTable.Proofs.Fidelity
import TidyTable.Proofs.RoundTrip

/-!
# Pass after pass

What comes out of one pass goes into the next. Cells may turn into markup or records on the way, and
columns may get other names each time, so there need not be an end to the changes. But three things
hold of every pass: there is a next one, it has the same number of rows, and it reads no other
columns than those that were written, for the row index is always recognized.

All of this is in the step from one pass to the next (`Pass.table_of_follows`): the table that is
read is the one that was written, under new names and with every cell read from its text. A `Run` is
as many steps as one likes.
-/

namespace TidyTable

namespace Processor

variable {settings : Settings} {p : Processor} {s : String} {out : Payload}

/-- The text of an export without a table has no record. -/
theorem ofCsv_emptyCsv (settings : Settings) :
    Table.ofCsv settings Payload.emptyCsv = .error .noColumns := rfl

/-! ## One pass -/

/-- One pass over a text: the table that is read from it and the text that is written in the end. -/
structure Pass (p : Processor) where
  input : String
  table : Table
  output : String
  input_ne : input ≠ Payload.emptyCsv
  reads : Table.ofCsv p.settings input = .ok table
  writes : (p.processTable table).toCsv p.settings = .ok output

namespace Pass

variable {pass next : Pass p}

/-- The table that is written. -/
def written (pass : Pass p) : Table := p.processTable pass.table

theorem process_input (pass : Pass p) :
    p.process .csv (.text pass.input) = .ok (.text pass.output) :=
  (process_text_eq_ok_iff pass.input_ne).mpr ⟨_, _, rfl, pass.reads, pass.writes⟩

/-- Whatever is processed is processed in a pass. -/
theorem exists_of_process (hs : s ≠ Payload.emptyCsv) (h : p.process .csv (.text s) = .ok out) :
    ∃ pass : Pass p, pass.input = s ∧ out = .text pass.output := by
  obtain ⟨content, t, rfl, hread, hwrite⟩ := (process_text_eq_ok_iff hs).mp h
  exact ⟨⟨s, t, content, hs, hread, hwrite⟩, rfl, rfl⟩

theorem wellFormed_written (hvalid : p.settings.fault? = none) (pass : Pass p) :
    pass.written.WellFormed :=
  (Table.wellFormed_of_ofCsv hvalid pass.reads).process p

/-! ## The next pass -/

variable (hvalid : p.settings.fault? = none) (hdetect : p.settings.detectIndexColumn = true)
include hvalid hdetect

/-- The text that comes out is read as the table that was written. -/
theorem ofCsv_output (pass : Pass p) : Table.ofCsv p.settings pass.output
    = .ok (pass.written.renamed.reread p.settings.nestedColumn) := by
  obtain ⟨output, hwrite, hread⟩ := Table.ofCsv_renamed hvalid (pass.wellFormed_written hvalid)
  obtain rfl : pass.output = output := Except.ok.inj (pass.writes.symm.trans hwrite)
  rwa [if_pos hdetect] at hread

/-- **After a pass there is another one** over the text that came out. -/
theorem exists_next (pass : Pass p) : ∃ next : Pass p, next.input = pass.output := by
  have hread := ofCsv_output hvalid hdetect pass
  have hne : pass.output ≠ Payload.emptyCsv := by
    intro e
    rw [e, ofCsv_emptyCsv] at hread
    exact absurd hread nofun
  have hwell := Table.wellFormed_of_ofCsv hvalid hread
  obtain ⟨output, hwrite, _⟩ := Table.toCsv_reads hvalid (hwell.process p)
  exact ⟨⟨pass.output, _, output, hne, hread, hwrite⟩, rfl⟩

/-- **What the next pass reads is what this one wrote**, under new names and with every cell read
from its text. -/
theorem table_of_follows (h : next.input = pass.output) :
    next.table = pass.written.renamed.reread p.settings.nestedColumn := by
  have hread := next.reads
  rw [h] at hread
  exact Except.ok.inj (hread.symm.trans (ofCsv_output hvalid hdetect pass))

theorem length_rows_of_follows (h : next.input = pass.output) :
    next.written.rows.length = pass.written.rows.length := by
  unfold written
  rw [Table.length_rows_processTable, table_of_follows hvalid hdetect h]
  exact List.length_map _

theorem length_columns_of_follows (h : next.input = pass.output) :
    next.table.columns.length = pass.written.columns.length := by
  rw [table_of_follows hvalid hdetect h]
  exact pass.written.length_renamed

end Pass

/-! ## Runs -/

/-- Passes without end, each over the text that came out of the one before. -/
structure Run (p : Processor) where
  pass : Nat → Pass p
  follows : ∀ n, (pass (n + 1)).input = (pass n).output

namespace Run

/-- The run from the second pass on. -/
def tail (run : Run p) : Run p where
  pass n := run.pass (n + 1)
  follows n := run.follows (n + 1)

/-- Processing so many times goes through the passes of the run. -/
theorem passes_eq (run : Run p) (n : Nat) : p.passes .csv (.text (run.pass 0).input) n
    = (List.range n).map fun k => .ok (.text (run.pass k).output) := by
  induction n generalizing run with
  | zero => rfl
  | succ n ih =>
    have hrest := ih run.tail
    rw [show (run.tail.pass 0).input = (run.pass 0).output from run.follows 0] at hrest
    rw [passes, (run.pass 0).process_input, List.range_succ_eq_map, List.map_cons, List.map_map]
    exact congrArg _ hrest

variable (hvalid : p.settings.fault? = none) (hdetect : p.settings.detectIndexColumn = true)
include hvalid hdetect

/-- A pass can always be gone on from. -/
theorem exists_from (first : Pass p) : ∃ run : Run p, run.pass 0 = first := by
  choose next hnext using Pass.exists_next hvalid hdetect
  exact ⟨⟨fun n => next^[n] first, fun n => by rw [Function.iterate_succ_apply', hnext]⟩, rfl⟩

/-- All passes write the same number of rows. -/
theorem length_rows (run : Run p) (n : Nat) :
    (run.pass n).written.rows.length = (run.pass 0).written.rows.length := by
  induction n with
  | zero => rfl
  | succ n ih => rw [Pass.length_rows_of_follows hvalid hdetect (run.follows n), ih]

end Run

/-- **Processing can go on for ever.** No pass fails, none writes more rows or fewer than the first,
and each reads as many columns as were written before, so that no index is left among them. -/
theorem process_text_passes (hp : ofSettings settings = .ok p)
    (hdetect : settings.detectIndexColumn = true) (hs : s ≠ Payload.emptyCsv)
    (h : p.process .csv (.text s) = .ok out) :
    ∃ run : Run p, (run.pass 0).input = s ∧ out = .text (run.pass 0).output ∧
      ∀ n, p.passes .csv (.text s) n
          = ((List.range n).map fun k => .ok (.text (run.pass k).output)) ∧
        (run.pass n).written.rows.length = (run.pass 0).written.rows.length ∧
        (run.pass (n + 1)).table.columns.length = (run.pass n).written.columns.length := by
  obtain ⟨rfl, hvalid⟩ := settings_of_ofSettings hp
  obtain ⟨first, rfl, rfl⟩ := Pass.exists_of_process hs h
  obtain ⟨run, rfl⟩ := Run.exists_from hvalid hdetect first
  refine ⟨run, rfl, rfl, fun n => ⟨run.passes_eq n, run.length_rows hvalid hdetect n, ?_⟩⟩
  exact Pass.length_columns_of_follows hvalid hdetect (run.follows n)

/-- A column that is called like the index, markup, and a record that makes a nested column anew. -/
theorem process_text_passes_nested_anew :
    let s := "Unnamed: 0,More\n<b>1</b>,\"\x7b\"\"More\"\":\"\"\x7b\\\"\"k\\\"\":1\x7d\"\"\x7d\"\n"
    let out := ",Unnamed: 0,More\n0,1,\"\x7b\"\"k\"\":1\x7d\"\n"
    ofSettings {} = .ok standard ∧ ({} : Settings).detectIndexColumn = true ∧
      s ≠ Payload.emptyCsv ∧ standard.process .csv (.text s) = .ok (.text out) ∧
      ∃ run : Run standard, (run.pass 0).input = s ∧
        Payload.text out = .text (run.pass 0).output ∧
        ∀ n, standard.passes .csv (.text s) n
            = ((List.range n).map fun k => .ok (.text (run.pass k).output)) ∧
          (run.pass n).written.rows.length = (run.pass 0).written.rows.length ∧
          (run.pass (n + 1)).table.columns.length = (run.pass n).written.columns.length := by
  intro s out
  have hs : s ≠ Payload.emptyCsv := by decide
  have hread : Table.ofCsv {} s = .ok
      { columns := ["Unnamed: 0", "More"]
        rows := [[.markup "<b>1</b>", .record [("More", .string "\x7b\"k\":1\x7d")]]] } := by decide +kernel
  have hclean : standard.processTable
      { columns := ["Unnamed: 0", "More"]
        rows := [[.markup "<b>1</b>", .record [("More", .string "\x7b\"k\":1\x7d")]]] }
      = { columns := ["Unnamed: 0", "More"]
          rows := [[.text "1", .text "\x7b\"k\":1\x7d"]] } := by
    decide +kernel
  have hwrite : Table.toCsv {}
      { columns := ["Unnamed: 0", "More"]
        rows := [[.text "1", .text "\x7b\"k\":1\x7d"]] } = .ok out := by decide +kernel
  have hprocess : standard.process .csv (.text s) = .ok (.text out) :=
    (process_text_eq_ok_iff hs).mpr
      ⟨out, _, rfl, hread, (congrArg (Table.toCsv {}) hclean).trans hwrite⟩
  exact ⟨ofSettings_standard, rfl, hs, hprocess,
    process_text_passes ofSettings_standard rfl hs hprocess⟩

end Processor

end TidyTable
