import TidyTable.Html.Construction.Basic
import TidyTable.Proofs.Html.Tree

/-!
# What is open in a document

The elements that are open stand in a line, the innermost first. They need not stand below each
other: what a table does not take is put before it, while the table stays open around it. But no
element of the line ever stands below one that is further inside. That is what keeps a document a
forest when a block is moved out of the formatting it stands in: the new place belongs to an element
further outside, so the block never comes to hang below itself.
-/

namespace TidyTable.Html

namespace Document

variable {d d' : Document} {x y q a : Nat} {content : Content} {e : Element}
  {loose loose' line l₁ l₂ : List Nat}

/-! ## What every document has -/

/-- The first nodes are what they are, and the content of a template comes first in it. -/
structure Shaped (d : Document) : Prop where
  /-- The first node is the fragment. -/
  fragment : d.content? fragmentId = some .fragment
  /-- The second one is the root element. -/
  root : ∃ e, d.content? rootId = some (.element e) ∧ e.space = .html ∧ e.name = "html"
  /-- A template has a fragment of its own before all else. -/
  template : ∀ {t : Nat} {e}, d.element? t = some e → e.isTemplate = true →
    ∃ f rest, d.children t = f :: rest ∧ d.content? f = some .fragment

/-- Whether a node is an element depends on its content only. -/
theorem element?_congr (h : d'.content? x = d.content? x) : d'.element? x = d.element? x := by
  rw [element?_eq_content?, element?_eq_content?, h]

/-- The fragment of a template stays where it is, whatever else is moved. -/
theorem Shaped.moved (h : Shaped d) (hforest : Forest d loose) (hmoved : Moved d d' x q)
    (hx : ∀ {t e}, d.content? x = some .fragment → d.parent? x = some t →
      d.element? t = some e → e.isTemplate = false) : Shaped d' where
  fragment := by rw [hmoved.content, h.fragment]
  root := by
    obtain ⟨e, he⟩ := h.root
    exact ⟨e, by rwa [hmoved.content]⟩
  template {t e} ht htemplate := by
    rw [element?_congr (hmoved.content t)] at ht
    obtain ⟨f, rest, hchildren, hf⟩ := h.template ht htemplate
    -- the fragment is the child of a template, so it is not what is moved
    have hne : f ≠ x := by
      rintro rfl
      have hparent := hforest.mem_children_iff.mp (hchildren ▸ List.mem_cons_self)
      rw [hx hf hparent ht] at htemplate
      exact absurd htemplate Bool.false_ne_true
    obtain ⟨rest', hrest⟩ := hmoved.head hchildren hne hf
    exact ⟨f, rest', hrest, by rw [hmoved.content, hf]⟩

/-- Detaching a node that is no fragment keeps the shape. -/
theorem Shaped.detach (h : Shaped d) (hforest : Forest d loose)
    (hx : d.content? x ≠ some .fragment) : Shaped (d.detach x) where
  fragment := by simpa using h.fragment
  root := by
    obtain ⟨e, he⟩ := h.root
    exact ⟨e, by simpa using he⟩
  template {t e} ht htemplate := by
    rw [element?_congr (content?_detach d x t)] at ht
    obtain ⟨f, rest, hchildren, hf⟩ := h.template ht htemplate
    have hne : f ≠ x := by
      rintro rfl
      exact hx hf
    refine ⟨f, rest.filter (· != x), ?_, by simpa using hf⟩
    rw [hforest.children_detach, hchildren, List.filter_cons, if_pos (bne_iff_ne.mpr hne)]

/-- So does a new node, unless it is a template without its fragment. -/
theorem Shaped.add (h : Shaped d) (hforest : Forest d loose)
    (hcontent : ∀ e, content = .element e → e.isTemplate = false) :
    Shaped (d.add content).2 where
  fragment := by rw [content?_add_of_lt (lt_size_of_content? h.fragment), h.fragment]
  root := by
    obtain ⟨e, he, hname⟩ := h.root
    exact ⟨e, by rw [content?_add_of_lt hforest.root_lt_size, he], hname⟩
  template {t e} ht htemplate := by
    rw [element?_eq_some_iff, content?_add] at ht
    split_ifs at ht with hsize
    · rw [hcontent e (Option.some.inj ht)] at htemplate
      exact absurd htemplate Bool.false_ne_true
    · obtain ⟨f, rest, hchildren, hf⟩ := h.template (element?_eq_some_iff.mpr ht) htemplate
      refine ⟨f, rest, by simpa using hchildren, ?_⟩
      rw [content?_add_of_lt (lt_size_of_content? hf), hf]

/-- A new element comes with its fragment if it is a template. -/
theorem Shaped.addElement (h : Shaped d) (hforest : Forest d loose) (e : Element) :
    Shaped (d.addElement e).2 where
  fragment := by rw [content?_addElement_of_lt (lt_size_of_content? h.fragment), h.fragment]
  root := by
    obtain ⟨e', he, hname⟩ := h.root
    exact ⟨e', by rw [content?_addElement_of_lt hforest.root_lt_size, he], hname⟩
  template {t e'} ht htemplate := by
    rw [element?_eq_some_iff] at ht
    rcases Nat.lt_trichotomy t d.nodes.size with hlt | rfl | hgt
    · rw [content?_addElement_of_lt hlt] at ht
      obtain ⟨f, rest, hchildren, hf⟩ := h.template (element?_eq_some_iff.mpr ht) htemplate
      refine ⟨f, rest, by rw [hforest.children_addElement hlt, hchildren], ?_⟩
      rw [content?_addElement_of_lt (lt_size_of_content? hf), hf]
    · rw [content?_addElement_self] at ht
      obtain rfl := Content.element.inj (Option.some.inj ht)
      refine ⟨_, _, hforest.children_addElement_template htemplate, ?_⟩
      rw [← getElem?_contents, contents_addElement, if_pos htemplate,
        List.getElem?_append_right (by simp), length_contents]
      simp
    · -- behind the new element stands its fragment, or nothing
      rw [← getElem?_contents, contents_addElement,
        List.getElem?_append_right (by simp; omega), length_contents] at ht
      obtain ⟨k, hk⟩ := Nat.exists_eq_add_of_lt hgt
      rw [hk, show d.nodes.size + k + 1 - d.nodes.size = k + 1 by omega,
        List.getElem?_cons_succ] at ht
      split_ifs at ht
      · cases k <;> simp at ht
      · simp at ht

/-- The content of an element goes into the element, or into the fragment in it. -/
theorem Shaped.contentOf_cases (h : Shaped d) (hforest : Forest d loose) (x : Nat) :
    d.contentOf x = x ∨
      (d.parent? (d.contentOf x) = some x ∧ d.content? (d.contentOf x) = some .fragment) := by
  unfold contentOf
  cases hx : d.element? x with
  | none => exact Or.inl rfl
  | some e =>
    dsimp only
    split_ifs with htemplate
    · obtain ⟨f, rest, hchildren, hf⟩ := h.template hx htemplate
      have hmem : f ∈ d.children x := by
        rw [hchildren]
        exact List.mem_cons_self
      rw [hchildren]
      exact Or.inr ⟨hforest.mem_children_iff.mp hmem, hf⟩
    · exact Or.inl rfl

/-! ## The line of open elements -/

/-- A document, the nodes in it that are loose, and a line of elements, the innermost first, none of
which stands below one before it. -/
structure Arranged (d : Document) (loose line : List Nat) : Prop where
  /-- Everything hangs somewhere, but for what is loose. -/
  forest : Forest d loose
  /-- The first nodes and the fragments of templates are in their places. -/
  shaped : Shaped d
  /-- Nothing further outside stands below what is further inside. -/
  ordered : line.Pairwise fun i o => ¬ d.Under o i
  /-- The line is one of elements. -/
  elements : ∀ x ∈ line, ∃ e, d.element? x = some e

namespace Arranged

/-- What stands in line is in the document. -/
theorem lt_size (h : Arranged d loose line) (hx : x ∈ line) : x < d.nodes.size := by
  obtain ⟨e, he⟩ := h.elements x hx
  exact lt_size_of_element? he

/-- No fragment stands in line. -/
theorem content_ne_fragment (h : Arranged d loose line) (hx : x ∈ line) :
    d.content? x ≠ some .fragment := by
  obtain ⟨e, he⟩ := h.elements x hx
  rw [element?_eq_some_iff.mp he]
  exact nofun

theorem ne_fragment (h : Arranged d loose line) (hx : x ∈ line) : x ≠ fragmentId := by
  rintro rfl
  exact h.content_ne_fragment hx h.shaped.fragment

/-- Closing elements keeps the line. -/
theorem sublist (h : Arranged d loose line) (hsub : l₁.Sublist line) : Arranged d loose l₁ where
  forest := h.forest
  shaped := h.shaped
  ordered := h.ordered.sublist hsub
  elements x hx := h.elements x (hsub.subset hx)

/-- More nodes may be loose than are. -/
theorem mono (h : Arranged d loose line) (hsub : loose ⊆ loose') : Arranged d loose' line where
  forest := h.forest.mono hsub
  shaped := h.shaped
  ordered := h.ordered
  elements := h.elements

/-- A new element can stand anywhere in the line: nothing is below it, and it is below nothing. -/
theorem addElement (h : Arranged d loose (l₁ ++ l₂)) (e : Element) :
    Arranged (d.addElement e).2 (d.nodes.size :: loose) (l₁ ++ d.nodes.size :: l₂) where
  forest := h.forest.addElement e
  shaped := h.shaped.addElement h.forest e
  ordered := by
    have hlt : ∀ x ∈ l₁ ++ l₂, x < d.nodes.size := fun x hx => h.lt_size hx
    have hunder : ∀ {x}, x < d.nodes.size → ∀ a, (d.addElement e).2.Under x a ↔ d.Under x a := by
      intro x hx a
      exact h.forest.under_iff_of_lt (fun z hz => parent?_addElement_of_le (Nat.le_of_lt hz) e) hx
    have hold : ∀ i ∈ l₁ ++ l₂, ∀ o ∈ l₁ ++ l₂,
        ¬ d.Under o i → ¬ (d.addElement e).2.Under o i := by
      intro i _ o ho hnot hup
      exact hnot ((hunder (hlt o ho) i).mp hup)
    have hnone : (d.addElement e).2.parent? d.nodes.size = none := parent?_addElement_self d e
    -- the new element is loose, so the only node above it is itself
    have hinner : ∀ i ∈ l₁ ++ l₂, ¬ (d.addElement e).2.Under d.nodes.size i := by
      intro i hi hup
      have heq := hup.eq_of_loose hnone
      have := hlt i hi
      omega
    -- and it is no parent yet
    have houter : ∀ o ∈ l₁ ++ l₂, ¬ (d.addElement e).2.Under o d.nodes.size := by
      intro o ho hup
      rw [hunder (hlt o ho)] at hup
      rcases Relation.ReflTransGen.cases_tail hup with heq | ⟨c, -, hc⟩
      · have := hlt o ho
        omega
      · have := h.forest.parent_lt_size hc
        omega
    obtain ⟨h₁, h₂, h₁₂⟩ := List.pairwise_append.mp h.ordered
    refine List.pairwise_append.mpr ⟨?_, List.pairwise_cons.mpr ⟨?_, ?_⟩, ?_⟩
    · refine h₁.imp_of_mem fun hi ho hnot => ?_
      exact hold _ (List.mem_append_left _ hi) _ (List.mem_append_left _ ho) hnot
    · intro o ho
      exact houter o (List.mem_append_right _ ho)
    · refine h₂.imp_of_mem fun hi ho hnot => ?_
      exact hold _ (List.mem_append_right _ hi) _ (List.mem_append_right _ ho) hnot
    · intro i hi o ho
      rcases List.mem_cons.mp ho with rfl | ho
      · exact hinner i (List.mem_append_left _ hi)
      · exact hold i (List.mem_append_left _ hi) o (List.mem_append_right _ ho) (h₁₂ i hi o ho)
  elements x hx := by
    rcases List.mem_append.mp hx with hx | hx
    · obtain ⟨e', he⟩ := h.elements x (List.mem_append_left _ hx)
      exact ⟨e', by rwa [element?_congr (content?_addElement_of_lt (lt_size_of_element? he) e)]⟩
    · rcases List.mem_cons.mp hx with rfl | hx
      · exact ⟨e, element?_eq_some_iff.mpr (content?_addElement_self d e)⟩
      · obtain ⟨e', he⟩ := h.elements x (List.mem_append_right _ hx)
        exact ⟨e', by rwa [element?_congr (content?_addElement_of_lt (lt_size_of_element? he) e)]⟩

/-- Moving a node keeps the line if, of two of its elements, the outer one does not come to stand
below the inner one. -/
theorem moved (h : Arranged d loose line) (hmoved : Moved d d' x q) (hx : x < d.nodes.size)
    (hfirst : x ≠ fragmentId) (hroot : x ≠ rootId) (hq : q < d.nodes.size)
    (hfragment : q ≠ fragmentId) (hnot : ¬ d.Under q x)
    (hcontent : ∀ {t e}, d.content? x = some .fragment → d.parent? x = some t →
      d.element? t = some e → e.isTemplate = false)
    (hloose : ∀ f ∈ loose, f = x ∨ f ∈ loose')
    (hline : line.Pairwise fun i o => ¬ (d.Under o x ∧ d.Under q i)) :
    Arranged d' loose' line where
  forest := h.forest.moved hmoved hx hfirst hroot hq hfragment hnot hloose
  shaped := h.shaped.moved h.forest hmoved hcontent
  ordered := by
    refine h.ordered.imp₂ ?_ hline
    intro i o hold hnew hup
    rcases hmoved.under_cases hnot hup with hkept | hplaced
    · exact hold hkept
    · exact hnew hplaced
  elements y hy := by
    obtain ⟨e, he⟩ := h.elements y hy
    exact ⟨e, by rwa [element?_congr (hmoved.content y)]⟩

/-- An element of the line can be moved below any node that is below neither this element nor one
further inside. -/
theorem moved_out (h : Arranged d loose (l₁ ++ x :: l₂)) (hmoved : Moved d d' x q)
    (hroot : x ≠ rootId) (hq : q < d.nodes.size) (hfragment : q ≠ fragmentId)
    (hnot : ∀ i ∈ l₁ ++ [x], ¬ d.Under q i) (hloose : ∀ f ∈ loose, f = x ∨ f ∈ loose') :
    Arranged d' loose' (l₁ ++ x :: l₂) := by
  have hx : x ∈ l₁ ++ x :: l₂ := List.mem_append_right _ List.mem_cons_self
  refine h.moved hmoved (h.lt_size hx) (h.ne_fragment hx) hroot hq hfragment (hnot x (by simp))
    (fun hcontent => absurd hcontent (h.content_ne_fragment hx)) hloose ?_
  have houter : ∀ o ∈ l₂, ¬ d.Under o x := by
    obtain ⟨-, h₂, -⟩ := List.pairwise_append.mp h.ordered
    exact (List.pairwise_cons.mp h₂).1
  -- the inner element of a pair is not above the new place, or the outer one not below the old one
  have hinner : ∀ i ∈ l₁ ++ [x], ∀ o, ¬ (d.Under o x ∧ d.Under q i) :=
    fun i hi _ hpair => hnot i hi hpair.2
  refine List.pairwise_append.mpr ⟨?_, List.pairwise_cons.mpr ⟨?_, ?_⟩, ?_⟩
  · exact List.pairwise_of_forall_mem_list fun i hi o _ => hinner i (by simp [hi]) o
  · exact fun o _ => hinner x (by simp) o
  · exact List.pairwise_of_forall_mem_list fun _ _ o ho hpair => houter o ho hpair.1
  · exact fun i hi o _ => hinner i (by simp [hi]) o

/-- An element of the line can be taken from its place. -/
theorem detach (h : Arranged d loose line) (hx : x ∈ line) (hroot : x ≠ rootId) :
    Arranged (d.detach x) (x :: loose) line where
  forest := h.forest.detach (h.ne_fragment hx) hroot
  shaped := h.shaped.detach h.forest (h.content_ne_fragment hx)
  ordered := by
    refine h.ordered.imp fun {i o} hnot hup => hnot (Relation.ReflTransGen.mono ?_ o i hup)
    intro y p hp
    rw [parent?_detach] at hp
    split_ifs at hp
    exact hp
  elements y hy := by
    obtain ⟨e, he⟩ := h.elements y hy
    exact ⟨e, by rwa [element?_congr (content?_detach d x y)]⟩

/-- A loose element just inside another one can take over its children one by one. -/
theorem moved_into {copy block : Nat} (h : Arranged d loose (l₁ ++ copy :: block :: l₂))
    (hcopy : d.parent? copy = none) (hblock : d.element? block = some e)
    (hplain : e.isTemplate = false) (hx : d.parent? x = some block) (hmoved : Moved d d' x copy) :
    Arranged d' loose (l₁ ++ copy :: block :: l₂) := by
  have hmem : copy ∈ l₁ ++ copy :: block :: l₂ := by simp
  have hfirst : x ≠ fragmentId := by
    rintro rfl
    rw [h.forest.parent_fragment] at hx
    exact absurd hx nofun
  have hroot : x ≠ rootId := by
    intro heq
    rw [h.forest.parent_eq_fragment_iff.mpr heq] at hx
    exact h.ne_fragment (by simp) (Option.some.inj hx).symm
  have hnot : ¬ d.Under copy x := by
    intro hup
    rw [hup.eq_of_loose hcopy, hcopy] at hx
    exact absurd hx nofun
  refine h.moved hmoved (lt_size_of_parent? hx) hfirst hroot (h.lt_size hmem) (h.ne_fragment hmem)
    hnot ?_ (fun f hf => Or.inr hf) ?_
  · intro t e' _ ht he'
    obtain rfl := Option.some.inj (hx.symm.trans ht)
    obtain rfl := Option.some.inj (hblock.symm.trans he')
    exact hplain
  · -- only the loose element is above the new place, and what is further outside is not below it
    obtain ⟨h₁, h₂, h₁₂⟩ := List.pairwise_append.mp h.ordered
    obtain ⟨hcopyline, hblockline⟩ := List.pairwise_cons.mp h₂
    have hbelow : ∀ o ∈ block :: l₂, ¬ d.Under o x := by
      intro o ho hup
      have hupblock : d.Under o block := hup.tail hx
      rcases List.mem_cons.mp ho with rfl | ho
      · exact h.forest.acyclic hx hup
      · exact (List.pairwise_cons.mp hblockline).1 o ho hupblock
    have hne : ∀ i ∈ l₁ ++ block :: l₂, i ≠ copy := by
      intro i hi heq
      rcases List.mem_append.mp hi with hi | hi
      · exact h₁₂ i hi copy List.mem_cons_self (heq ▸ Under.refl d i)
      · exact hcopyline i hi (heq ▸ Under.refl d i)
    have habove : ∀ i ∈ l₁ ++ block :: l₂, ∀ o, ¬ (d.Under o x ∧ d.Under copy i) :=
      fun i hi o hpair => hne i hi (hpair.2.eq_of_loose hcopy)
    refine List.pairwise_append.mpr ⟨?_, List.pairwise_cons.mpr ⟨?_, ?_⟩, ?_⟩
    · exact List.pairwise_of_forall_mem_list fun i hi o _ => habove i (by simp [hi]) o
    · exact fun o ho hpair => hbelow o ho hpair.1
    · exact List.pairwise_of_forall_mem_list fun i hi o _ => habove i (List.mem_append_right _ hi) o
    · exact fun i hi o _ => habove i (List.mem_append_left _ hi) o

/-- **All children of a block can go to a copy just inside of it**, which stays loose. -/
theorem moveChildren {copy block : Nat} (h : Arranged d loose (l₁ ++ copy :: block :: l₂))
    (hcopy : d.parent? copy = none) (hblock : d.element? block = some e)
    (hplain : e.isTemplate = false) :
    Arranged (d.moveChildren block copy) loose (l₁ ++ copy :: block :: l₂) ∧
      (d.moveChildren block copy).parent? copy = none ∧
      ∀ y, (d.moveChildren block copy).content? y = d.content? y := by
  unfold Document.moveChildren
  have hchildren : ∀ x ∈ d.children block, d.parent? x = some block := fun x hx =>
    h.forest.mem_children_iff.mp hx
  have hnodup := h.forest.nodup_children block
  generalize d.children block = xs at hchildren hnodup
  induction xs generalizing d with
  | nil => exact ⟨h, hcopy, fun _ => rfl⟩
  | cons x xs ih =>
    -- the other children still hang in the block after one has been moved
    have hx := hchildren x List.mem_cons_self
    have hmoved : Moved d (d.append copy x) x copy :=
      h.forest.moved_append (lt_size_of_parent? hx) (h.lt_size (by simp))
    have hne : copy ≠ x := by
      rintro rfl
      rw [hcopy] at hx
      exact absurd hx nofun
    obtain ⟨hnotmem, hrest⟩ := List.nodup_cons.mp hnodup
    obtain ⟨harranged, hparent, hcontent⟩ :=
      ih (h.moved_into hcopy hblock hplain hx hmoved)
        ((hmoved.parent_of_ne copy hne).trans hcopy)
        ((element?_congr (hmoved.content block)).trans hblock)
        (fun y hy => (hmoved.parent_of_ne y (by rintro rfl; exact hnotmem hy)).trans
          (hchildren y (List.mem_cons_of_mem x hy)))
        hrest
    exact ⟨harranged, hparent, fun y => (hcontent y).trans (hmoved.content y)⟩

end Arranged

end Document

/-! ## Places -/

/-- Whether an open element is in a document as what it is taken for. -/
def Open.IsIn (o : Open) (d : Document) : Prop :=
  ∃ e, d.element? o.id = some e ∧ e.space = o.space ∧ e.name = o.name

namespace Construction

open Document

variable {d d' : Document} {x y q a : Nat} {loose loose' line : List Nat} {stack : List Open}
  {place : Place}

/-- The node that a place belongs to. -/
def Place.holder? (d : Document) : Place → Option NodeId
  | .lastIn p => some p
  | .before s => d.parent? s

/-- The places that content can be put in while some elements are open. -/
inductive Place.Near (d : Document) (stack : List Open) : Place → Prop where
  /-- The root element, if nothing is open. -/
  | root : Near d stack (.lastIn rootId)
  /-- An open element. -/
  | last {o : Open} : o ∈ stack → Near d stack (.lastIn o.id)
  /-- The fragment of an open template. -/
  | content {o : Open} : o ∈ stack → Near d stack (.lastIn (d.contentOf o.id))
  /-- The place before an open table. -/
  | before {o : Open} : o ∈ stack → o.named ["table"] = true → (d.parent? o.id).isSome →
      Near d stack (.before o.id)

/-- With more open, there are more places. -/
theorem Place.Near.mono {stack' : List Open} (h : Place.Near d stack place)
    (hsub : stack ⊆ stack') : Place.Near d stack' place := by
  cases h with
  | root => exact .root
  | last ho => exact .last (hsub ho)
  | content ho => exact .content (hsub ho)
  | before ho hname hparent => exact .before (hsub ho) hname hparent

/-- What a table does not take is put near what is open. -/
theorem near_fosterPlace (d : Document) : ∀ stack, Place.Near d stack (fosterPlace d stack)
  | [] => .root
  | o :: rest => by
      unfold fosterPlace
      split_ifs with htemplate htable hparent
      · exact .content List.mem_cons_self
      · exact .before List.mem_cons_self htable hparent
      · cases rest with
        | nil => exact .root
        | cons next rest => exact .last (by simp)
      · exact (near_fosterPlace d rest).mono (List.subset_cons_self o rest)

/-- So is all other content. -/
theorem near_placeIn (b : Construction) {target : Open} (htarget : target ∈ b.stack) :
    Place.Near b.document b.stack (b.placeIn target) := by
  unfold placeIn
  split_ifs
  · exact near_fosterPlace b.document b.stack
  · exact .content htarget

/-- What rules of general scope look past is neither a template nor a table. -/
theorem named_of_border {o : Open} (h : endsGeneralScope o = false) :
    o.named ["template"] = false ∧ o.named ["table"] = false := by
  simp only [endsGeneralScope, Open.named, Bool.or_eq_false_iff, Bool.and_eq_false_iff] at h ⊢
  rcases h.1.1 with hspace | hname
  · exact ⟨Or.inl hspace, Or.inl hspace⟩
  · simp only [List.contains_cons, List.contains_nil, Bool.or_eq_false_iff] at hname ⊢
    simp [hname]

/-- What rules of general scope look past does not change where a table puts what it does not take.
-/
theorem fosterPlace_append {inner : List Open} (outer : List Open)
    (h : ∀ o ∈ inner, endsGeneralScope o = false) :
    fosterPlace d (inner ++ outer) = fosterPlace d outer := by
  induction inner with
  | nil => rfl
  | cons o inner ih =>
    obtain ⟨htemplate, htable⟩ := named_of_border (h o List.mem_cons_self)
    rw [List.cons_append, fosterPlace, htemplate, htable, if_neg Bool.false_ne_true,
      if_neg Bool.false_ne_true, ih fun o' ho' => h o' (List.mem_cons_of_mem o ho')]

/-- The content of the root element goes into it. -/
theorem contentOf_root (h : Shaped d) : d.contentOf rootId = rootId := by
  obtain ⟨e, he, -, hname⟩ := h.root
  unfold contentOf
  rw [element?_eq_some_iff.mpr he]
  simp [hname]

/-- The place for the next content is near the open elements, or it is the root element. -/
theorem near_current (b : Construction) (h : Shaped b.document) :
    Place.Near b.document b.stack (b.placeIn b.current) := by
  cases hstack : b.stack with
  | nil =>
    have hcurrent : b.current = { id := rootId, name := "html" } := by rw [current, hstack]; rfl
    rw [placeIn, hcurrent, hstack]
    split_ifs
    · exact near_fosterPlace b.document []
    · show Place.Near _ _ (.lastIn (b.document.contentOf rootId))
      rw [contentOf_root h]
      exact .root
  | cons o rest =>
    have hcurrent : b.current = o := by rw [current, hstack]; rfl
    rw [hcurrent, ← hstack]
    exact near_placeIn b (by simp [hstack])

/-- The node that a place near the open elements belongs to is there, and whatever it is below some
open element is below too, or it is the root element. -/
theorem Place.Near.exists_holder (h : Place.Near d stack place) (hforest : Forest d loose)
    (hshaped : Shaped d) (hin : ∀ o ∈ stack, o.IsIn d) :
    ∃ q : Nat, place.holder? d = some q ∧ q < d.nodes.size ∧ q ≠ fragmentId ∧
      ∀ x, d.content? x ≠ some .fragment → d.Under q x →
        d.Under rootId x ∨ ∃ o ∈ stack, d.Under o.id x := by
  have hmem : ∀ o ∈ stack, o.id < d.nodes.size ∧ o.id ≠ fragmentId := by
    intro o ho
    obtain ⟨e, he, -⟩ := hin o ho
    refine ⟨lt_size_of_element? he, fun heq => ?_⟩
    rw [element?_eq_some_iff, heq, hshaped.fragment] at he
    exact absurd he nofun
  cases h with
  | root => exact ⟨_, rfl, hforest.root_lt_size, nofun, fun x _ hup => Or.inl hup⟩
  | @last o ho => exact ⟨_, rfl, (hmem o ho).1, (hmem o ho).2, fun x _ hup => Or.inr ⟨o, ho, hup⟩⟩
  | @content o ho =>
    -- what is above the fragment of a template is above the template, or the fragment itself
    rcases hshaped.contentOf_cases hforest o.id with hself | ⟨hparent, hfragment⟩
    · rw [hself]
      exact ⟨_, rfl, (hmem o ho).1, (hmem o ho).2, fun x _ hup => Or.inr ⟨o, ho, hup⟩⟩
    · refine ⟨_, rfl, lt_size_of_parent? hparent, ?_, fun x hx hup => ?_⟩
      · intro heq
        rw [heq, hforest.parent_fragment] at hparent
        exact absurd hparent nofun
      · rcases hup.cases_head with rfl | ⟨p, hp, hup⟩
        · exact absurd hfragment hx
        · obtain rfl := Option.some.inj (hparent.symm.trans hp)
          exact Or.inr ⟨o, ho, hup⟩
  | @before o ho hname hsome =>
    obtain ⟨q, hq⟩ := Option.isSome_iff_exists.mp hsome
    refine ⟨q, hq, hforest.parent_lt_size hq, ?_, fun x _ hup => Or.inr ⟨o, ho, .of_parent hq hup⟩⟩
    rintro rfl
    -- only the root element stands there, which is no table
    obtain ⟨e, he, -, heq⟩ := hin o ho
    obtain ⟨e', he', -, hhtml⟩ := hshaped.root
    rw [hforest.parent_eq_fragment_iff.mp hq, element?_eq_some_iff, he'] at he
    obtain rfl := Content.element.inj (Option.some.inj he)
    rw [hhtml] at heq
    rw [Open.named, ← heq] at hname
    simp at hname

/-- Putting a node in its place is a change of place. -/
theorem moved_put (h : Forest d loose) (hx : x < d.nodes.size) (hq : q < d.nodes.size)
    (hholder : place.holder? d = some q)
    (hbefore : ∀ s, place = .before s → s ≠ x ∧ d.content? s ≠ some .fragment) :
    Moved d (put d x place) x q := by
  cases place with
  | lastIn p =>
    obtain rfl := Option.some.inj hholder
    exact h.moved_append hx hq
  | before s =>
    obtain ⟨hne, hcontent⟩ := hbefore s rfl
    exact h.moved_insertBefore hx hholder hne hcontent

end Construction

end TidyTable.Html
