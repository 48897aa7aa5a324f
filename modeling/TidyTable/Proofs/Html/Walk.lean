import Mathlib.Algebra.Order.BigOperators.Group.List
import Mathlib.Algebra.Order.Group.Nat
import Mathlib.Data.List.Chain
import Mathlib.Data.List.Nodup
import Mathlib.Data.List.Perm.Subperm
import TidyTable.Proofs.Html.Scanning
import TidyTable.Proofs.Html.Soundness

/-!
# The order of the text

A walk through a document from its root element meets every node that hangs somewhere once. So the
order of the text and the order of making are orders of the same nodes, and the text of a document
is no longer than the texts in it are together.
-/

namespace TidyTable.Html.Document

variable {d : Document} {x y a n : Nat} {loose : List Nat}

/-! ## A walk meets each node once -/

/-- A walk stays below the node that it starts from. -/
theorem under_of_mem_walk (h : Forest d loose) : ∀ {n a y : Nat}, y ∈ d.walk n a → d.Under y a
  | n + 1, a, y, hy => by
      rw [walk, List.mem_cons, List.mem_flatMap] at hy
      rcases hy with rfl | ⟨c, hc, hy⟩
      · exact Under.refl d y
      · exact (under_of_mem_walk h hy).tail (h.mem_children_iff.mp hc)

/-- Nothing stands below two children of one node. -/
theorem Forest.not_under_siblings (h : Forest d loose) {c c' : Nat} (hc : d.parent? c = some a)
    (hc' : d.parent? c' = some a) (hne : c ≠ c') (hup : d.Under y c) : ¬ d.Under y c' := by
  have hother : ∀ {s t : Nat}, d.parent? s = some a → d.parent? t = some a → s ≠ t →
      ¬ d.Under s t := by
    intro s t hs ht hne hst
    rcases hst.cases_head with heq | ⟨p, hp, hup⟩
    · exact hne heq
    · obtain rfl := Option.some.inj (hs.symm.trans hp)
      exact h.acyclic ht hup
  intro hup'
  rcases hup.of_under hup' with hst | hst
  · exact hother hc hc' hne hst
  · exact hother hc' hc (Ne.symm hne) hst

/-- **A walk meets no node twice.** The walks through the children have nothing in common, and none
of them comes back to the node itself. -/
theorem nodup_walk (h : Forest d loose) : ∀ n a : Nat, (d.walk n a).Nodup
  | 0, _ => List.nodup_nil
  | n + 1, a => by
      rw [walk, List.nodup_cons]
      constructor
      · intro hmem
        obtain ⟨c, hc, hup⟩ := List.mem_flatMap.mp hmem
        exact h.acyclic (h.mem_children_iff.mp hc) (under_of_mem_walk h hup)
      · refine List.nodup_flatMap.mpr ⟨fun c _ => nodup_walk h n c, ?_⟩
        refine (h.nodup_children a).imp_of_mem fun {c c'} hc hc' hne => ?_
        intro y hy hy'
        exact h.not_under_siblings (h.mem_children_iff.mp hc) (h.mem_children_iff.mp hc') hne
          (under_of_mem_walk h hy) (under_of_mem_walk h hy')

/-! ## A walk meets all nodes -/

/-- A walk meets the node that it starts from. -/
theorem mem_walk_self (n a : Nat) : a ∈ d.walk (n + 1) a := by
  rw [walk]
  exact List.mem_cons_self

/-- One more level is enough for the children of what is met. -/
theorem mem_walk_child (hc : y ∈ d.children x) : ∀ {n a : Nat}, x ∈ d.walk n a →
    y ∈ d.walk (n + 1) a
  | n + 1, a, hx => by
      rw [walk, List.mem_cons, List.mem_flatMap] at hx
      rw [walk, List.mem_cons, List.mem_flatMap]
      rcases hx with rfl | ⟨c, hc', hx⟩
      · exact Or.inr ⟨y, hc, mem_walk_self n y⟩
      · exact Or.inr ⟨c, hc', mem_walk_child hc hx⟩

theorem walk_subset_succ : ∀ n a : Nat, d.walk n a ⊆ d.walk (n + 1) a
  | 0, _ => List.nil_subset _
  | n + 1, a => by
      intro y hy
      rw [walk, List.mem_cons, List.mem_flatMap] at hy ⊢
      exact hy.imp_right fun ⟨c, hc, hy⟩ => ⟨c, hc, walk_subset_succ n c hy⟩

/-- A deeper walk meets more. -/
theorem walk_subset {m n : Nat} (h : m ≤ n) (a : Nat) : d.walk m a ⊆ d.walk n a := by
  induction h with
  | refl => exact List.Subset.refl _
  | step _ ih => exact List.Subset.trans ih (walk_subset_succ _ a)

/-- The nodes on a way up are met by a walk as deep as the way is long. -/
theorem mem_walk_of_isChain (h : Forest d loose) : ∀ {l : List Nat} {x : Nat},
    List.IsChain (fun x p => d.parent? x = some p) (x :: l) →
    x ∈ d.walk (l.length + 1) ((x :: l).getLast (List.cons_ne_nil x l))
  | [], x, _ => mem_walk_self 0 x
  | p :: l, x, hchain => by
      obtain ⟨hp, hrest⟩ := List.isChain_cons_cons.mp hchain
      exact mem_walk_child (h.mem_children_iff.mpr hp) (mem_walk_of_isChain h hrest)

/-- No node is on a way up twice. -/
theorem nodup_of_isChain (h : Forest d loose) {l : List Nat}
    (hchain : List.IsChain (fun x p => d.parent? x = some p) l) : l.Nodup := by
  have hup : List.IsChain (Relation.TransGen fun x p => d.parent? x = some p) l :=
    hchain.imp fun x p hp => Relation.TransGen.single hp
  refine (List.isChain_iff_pairwise.mp hup).imp fun {x y} hxy => ?_
  rintro rfl
  obtain ⟨p, hp, hback⟩ := Relation.TransGen.head'_iff.mp hxy
  exact h.acyclic hp hback

/-- A way up stays in the document. -/
theorem lt_size_of_isChain (h : Forest d loose) : ∀ {l : List Nat} {x : Nat}, x < d.nodes.size →
    List.IsChain (fun x p => d.parent? x = some p) (x :: l) → ∀ y ∈ x :: l, y < d.nodes.size
  | [], x, hx, _, y, hy => List.mem_singleton.mp hy ▸ hx
  | p :: l, x, hx, hchain, y, hy => by
      obtain ⟨hp, hrest⟩ := List.isChain_cons_cons.mp hchain
      rcases List.mem_cons.mp hy with rfl | hy
      · exact hx
      · exact lt_size_of_isChain h (h.parent_lt_size hp) hrest y hy

/-- **A walk as deep as there are nodes meets all that is below its start.** -/
theorem mem_walk_of_under (h : Forest d loose) (hx : x < d.nodes.size) (hup : d.Under x a) :
    x ∈ d.walk d.nodes.size a := by
  obtain ⟨l, hchain, hlast⟩ := List.exists_isChain_cons_of_relationReflTransGen hup
  have hlength : (x :: l).length ≤ d.nodes.size := by
    -- a way without repeats is no longer than there are nodes
    have hsub : (x :: l) ⊆ List.range d.nodes.size := fun y hy =>
      List.mem_range.mpr (lt_size_of_isChain h hx hchain y hy)
    have hle := ((nodup_of_isChain h hchain).subperm hsub).length_le
    rwa [List.length_range] at hle
  rw [← hlast]
  exact walk_subset hlength _ (mem_walk_of_isChain h hchain)

/-- **The order of the text and the order of making are orders of the same nodes.** -/
theorem inTextOrder_perm (h : Forest d []) : d.inTextOrder.Perm d.inMakingOrder := by
  refine (List.perm_ext_iff_of_nodup (nodup_walk h _ _) (List.nodup_range.filter _)).mpr fun x => ?_
  rw [List.mem_filter, List.mem_range]
  constructor
  · intro hx
    have hup := under_of_mem_walk h hx
    rcases hup.cases_head with rfl | ⟨p, hp, -⟩
    -- the root element hangs in the fragment
    · exact ⟨h.root_lt_size, by rw [h.parent_eq_fragment_iff.mpr rfl]; rfl⟩
    · exact ⟨lt_size_of_parent? hp, by rw [hp]; rfl⟩
  · rintro ⟨hx, hsome⟩
    have hne : x ≠ fragmentId := by
      rintro rfl
      rw [h.parent_fragment] at hsome
      exact absurd hsome nofun
    exact mem_walk_of_under h hx (h.under_root hx hne)

/-! ## The length of the text -/

/-- The text of a node is its content. -/
theorem text?_eq_some_iff {s : String} : d.text? x = some s ↔ d.content? x = some (.text s) := by
  unfold text? content?
  cases d.node? x with
  | none => simp
  | some n => cases n with
    | mk content => cases content <;> simp

/-- A node that is no text has none. -/
theorem length_text? (d : Document) (x : Nat) :
    ((d.text? x).map String.length).getD 0 = ((d.content? x).map Content.size).getD 0 := by
  unfold text? content?
  cases d.node? x with
  | none => rfl
  | some n => cases n with
    | mk content => cases content <;> rfl

/-- The length of texts together is the sum of their lengths. -/
theorem length_join_filterMap {α : Type} (f : α → Option String) : ∀ l : List α,
    (String.join (l.filterMap f)).length = (l.map fun x => ((f x).map String.length).getD 0).sum
  | [] => rfl
  | x :: l => by
      have ih := length_join_filterMap f l
      cases hx : f x with
      | none => rw [List.filterMap_cons_none hx, ih, List.map_cons, List.sum_cons, hx]; simp
      | some s =>
        rw [List.filterMap_cons_some hx, String.join_cons, String.length_append, ih, List.map_cons,
          List.sum_cons, hx]
        rfl

/-- **The text of a document is no longer than its texts together.** -/
theorem length_text_le (h : Forest d []) :
    d.text.length ≤ (d.contents.map Content.size).sum := by
  have hsizes : d.contents.map Content.size
      = (List.range d.nodes.size).map fun x => ((d.content? x).map Content.size).getD 0 := by
    refine List.ext_getElem (by simp) fun x hx _ => ?_
    have hlt : x < d.contents.length := by simpa using hx
    simp [← getElem?_contents, List.getElem?_eq_getElem hlt]
  rw [text, length_join_filterMap, hsizes]
  simp only [length_text?]
  -- both sums run over the nodes, one of them over those that hang somewhere
  rw [((inTextOrder_perm h).map _).sum_nat]
  exact (List.filter_sublist.map _).sum_le_sum fun _ _ => Nat.zero_le _

end TidyTable.Html.Document

/-! ## Fragments -/

namespace TidyTable.Html

open Document Construction

/-- What construction leads to from its beginning is a tree that is made of the input. -/
theorem Construction.Leads.fragment {P : String → Prop} {m : Nat} {b : Construction}
    (h : Leads P (m, {}) (0, b)) :
    Forest b.document [] ∧ b.document.text.length ≤ m ∧
      ∀ {x : Nat} {e : Element}, b.document.element? x = some e →
        ∀ a ∈ e.attributes, P a.value := by
  obtain ⟨hvalid, hsize⟩ := h.sound (valid_start P)
  -- there is no text in what construction begins with
  have hstart : textSize {} = 0 := rfl
  refine ⟨hvalid.arranged.forest, ?_, fun {x e} he => hvalid.attributes e ?_⟩
  · have htext : b.document.text.length ≤ b.textSize :=
      Nat.le_trans (length_text_le hvalid.arranged.forest) (Nat.le_add_right _ _)
    have hsize' : 0 + b.textSize ≤ m + textSize {} := hsize
    omega
  · have hcontent := element?_eq_some_iff.mp he
    rw [← getElem?_contents] at hcontent
    exact List.mem_of_getElem? hcontent

/-- No attribute has a value as long as the markup that it is read from. -/
theorem length_value_lt {cs : List Char} {x : Nat} {e : Element} {a : Attribute}
    (he : (Document.ofFragment cs).element? x = some e) (ha : a ∈ e.attributes) :
    a.value.length < cs.length := by
  obtain ⟨b, hb, h⟩ := leads_ofFragment cs cs.length (Nat.le_refl _)
  exact h.fragment.2.2 (hb ▸ he) a ha

/-- **The document of a fragment is a forest** with nothing loose in it. -/
theorem forest_ofFragment (cs : List Char) : Forest (Document.ofFragment cs) [] := by
  obtain ⟨b, hb, h⟩ := leads_ofFragment cs cs.length (Nat.le_refl _)
  exact hb ▸ h.fragment.1

end TidyTable.Html
