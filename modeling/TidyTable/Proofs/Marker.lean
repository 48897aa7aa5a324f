import TidyTable.Proofs.Fidelity
import TidyTable.Proofs.Html.Order

/-!
# The marker of markup

Of the elements that a selector means the marker is the one that was made first. The first one in
the text is another one if content was put elsewhere than it was written. As long as nothing was,
the two are one.
-/

namespace TidyTable.Cleaner

open Html (Document)

/-- The elements that the marker means, in the order of the text. -/
def marked (c : Cleaner) (d : Document) : List Html.NodeId :=
  d.inTextOrder.filter fun id => (d.element? id).isSome && c.marker.holds d none id

/-- What a document is reduced to if some element carries the parameter. -/
def reduceAt (c : Cleaner) (d : Document) (id : Option Html.NodeId) : String :=
  ((id.bind d.element?).bind c.parameter?).getD d.text

theorem reduce_eq_reduceAt (c : Cleaner) (d : Document) :
    c.reduce d = c.reduceAt d (c.marker.found d).head? := rfl

theorem found_eq (c : Cleaner) (d : Document) :
    c.marker.found d
      = d.inMakingOrder.filter fun id => (d.element? id).isSome && c.marker.holds d none id := by
  rw [Selector.found, Document.elements, List.filter_filter]
  simp only [Bool.and_comm]

/-- What the selector finds is what the marker means, in the order of making. -/
theorem found_perm_marked (c : Cleaner) (cs : List Char) :
    (c.marker.found (Document.ofFragment cs)).Perm (c.marked (Document.ofFragment cs)) := by
  rw [found_eq]
  exact ((Document.inTextOrder_perm (Html.forest_ofFragment cs)).filter _).symm

theorem pairwise_found (c : Cleaner) (d : Document) :
    (c.marker.found d).Pairwise (· < ·) := by
  rw [found_eq]
  exact (List.pairwise_lt_range.filter _).filter _

/-- The first one of a list in order is the least one, in whatever order they are. -/
theorem head?_eq_min? {l l' : List Nat} (hlt : l.Pairwise (· < ·)) (hperm : l.Perm l') :
    l.head? = l'.min? := by
  cases l with
  | nil =>
    obtain rfl := hperm.nil_eq
    rfl
  | cons x l =>
    symm
    rw [List.head?_cons, List.min?_eq_some_iff]
    refine ⟨hperm.mem_iff.mp List.mem_cons_self, fun y hy => ?_⟩
    rcases List.mem_cons.mp (hperm.mem_iff.mpr hy) with rfl | hy
    · exact Nat.le_refl _
    · exact Nat.le_of_lt ((List.pairwise_cons.mp hlt).1 y hy)

/-- **The marker is the element that was made first. It is the first one in the text where the two
orders are one, as they are where nothing was put elsewhere than it was written.** -/
theorem extract?_eq_earliest (c : Cleaner) (m : String) (hm : Cell.looksLikeMarkup m = true) :
    let d := Document.ofFragment m.toList
    c.extract? m = some (c.reduceAt d (c.marked d).min?) ∧
      (d.inTextOrder = d.inMakingOrder →
        c.extract? m = some (c.reduceAt d (c.marked d).head?)) ∧
      (d.InPlace → d.inTextOrder = d.inMakingOrder) := by
  intro d
  have hextract : c.extract? m = some (c.reduceAt d (c.marked d).min?) := by
    rw [extract?, if_pos hm, reduce_eq_reduceAt,
      head?_eq_min? (c.pairwise_found d) (c.found_perm_marked m.toList)]
  refine ⟨hextract, fun horder => ?_, Html.inTextOrder_ofFragment⟩
  have hsorted : (c.marked d).Pairwise (· < ·) := by
    rw [marked, horder]
    exact (List.pairwise_lt_range.filter _).filter _
  rw [hextract, head?_eq_min? hsorted (List.Perm.refl _)]

theorem extract?_eq_earliest_behind_formatting :
    let c := Processor.standard.cleaner
    let m := "<b>a</b><div data-info-type=\"show_params\" data-info=\"k\">b</div>"
    let d := Document.ofFragment m.toList
    Cell.looksLikeMarkup m = true ∧ d.InPlace ∧ d.inTextOrder = d.inMakingOrder ∧
      c.extract? m = some (c.reduceAt d (c.marked d).min?) ∧
      c.extract? m = some (c.reduceAt d (c.marked d).head?) := by
  intro c m d
  have hm : Cell.looksLikeMarkup m = true := by decide +kernel
  have hplace : d.InPlace := by decide +kernel
  obtain ⟨hearliest, hfirst, horder⟩ := extract?_eq_earliest c m hm
  exact ⟨hm, hplace, horder hplace, hearliest, hfirst (horder hplace)⟩

/-- Content that a table does not take is put before it, and is made later than what is in it. -/
theorem extract?_ne_first_in_text :
    let c := Processor.standard.cleaner
    let m := "<table><tr><td><div>a</div></td></tr>"
      ++ "<div data-info-type=\"show_params\" data-info=\"k\">b</div></table>"
    let d := Document.ofFragment m.toList
    c.extract? m = some "ba" ∧ c.reduceAt d (c.marked d).head? = "k" := by
  decide +kernel

end TidyTable.Cleaner
