import TidyTable.Proofs.Html.Steps

/-!
# Formatting that is split around a block

The block and the formatting around it change places: the block leaves the formatting, in as many
copies of what stands between them as there are, and its content goes into a copy of the formatting
of its own. All of this moves elements of the line of open elements to places that belong to
elements further outside, so the document stays a tree and the line stays in order. Apart from the
copies nothing comes in.
-/

namespace TidyTable.Html

namespace Document

variable {Q : Content → Prop} {d d' d'' : Document} {x : Nat} {content : Content} {e : Element}

/-- A loose element is put into a new element just outside of it, which is then loose instead. -/
theorem Arranged.wrap {l₁ l₂ : List Nat} (h : Arranged d [x] (l₁ ++ x :: l₂)) (hroot : x ≠ rootId)
    (e : Element) :
    Arranged (((d.addElement e).2.detach x).append d.nodes.size x) [d.nodes.size]
      (l₁ ++ x :: d.nodes.size :: l₂) := by
  have hx : x < d.nodes.size := h.lt_size (by simp)
  have hadded : Arranged (d.addElement e).2 [d.nodes.size, x]
      ((l₁ ++ [x]) ++ d.nodes.size :: l₂) := by
    refine Arranged.addElement ?_ e
    rw [List.append_assoc]
    exact h
  rw [List.append_assoc] at hadded
  have hdetached := hadded.detach (x := x) (by simp) hroot
  have hcopy : ((d.addElement e).2.detach x).parent? d.nodes.size = none := by
    rw [parent?_detach, parent?_addElement_self]
    split_ifs <;> rfl
  have hmoved := hdetached.forest.moved_append (hdetached.lt_size (x := x) (by simp))
    (hdetached.lt_size (x := d.nodes.size) (by simp))
  refine hdetached.moved_out hmoved hroot (hdetached.lt_size (by simp))
    (hdetached.ne_fragment (by simp)) ?_ ?_
  · intro i hi hup
    have hlt : i < d.nodes.size := h.lt_size (by
      rcases List.mem_append.mp hi with hi | hi
      · exact List.mem_append_left _ hi
      · simp [List.mem_singleton.mp hi])
    have heq := hup.eq_of_loose hcopy
    omega
  · intro f hf
    simp only [List.mem_cons, List.not_mem_nil, or_false] at hf ⊢
    omega

/-- A document has all nodes of another one, and more that are of some kind. -/
def Extends (Q : Content → Prop) (d d' : Document) : Prop :=
  ∃ new, d'.contents = d.contents ++ new ∧ ∀ c ∈ new, Q c

namespace Extends

theorem of_content (h : ∀ x, d'.content? x = d.content? x) : Extends Q d d' :=
  ⟨[], by rw [contents_eq h, List.append_nil], fun _ hc => absurd hc List.not_mem_nil⟩

theorem refl (d : Document) : Extends Q d d := of_content fun _ => rfl

theorem trans (h : Extends Q d d') (h' : Extends Q d' d'') : Extends Q d d'' := by
  obtain ⟨new, hcontents, hnew⟩ := h
  obtain ⟨new', hcontents', hnew'⟩ := h'
  refine ⟨new ++ new', by rw [hcontents', hcontents, List.append_assoc], fun c hc => ?_⟩
  rcases List.mem_append.mp hc with hc | hc
  · exact hnew c hc
  · exact hnew' c hc

theorem addElement (d : Document) (he : Q (.element e)) (hfragment : Q .fragment) :
    Extends Q d (d.addElement e).2 := by
  refine ⟨_, contents_addElement d e, fun c hc => ?_⟩
  rcases List.mem_cons.mp hc with rfl | hc
  · exact he
  · split_ifs at hc
    · rw [List.mem_singleton.mp hc]
      exact hfragment
    · exact absurd hc List.not_mem_nil

theorem content? (h : Extends Q d d') (hx : d.content? x = some content) :
    d'.content? x = some content := by
  obtain ⟨new, hcontents, -⟩ := h
  have hlt : x < d.contents.length := by
    rw [length_contents]
    exact lt_size_of_content? hx
  rw [← getElem?_contents, hcontents, List.getElem?_append_left hlt, getElem?_contents, hx]

theorem element? (h : Extends Q d d') (hx : d.element? x = some e) : d'.element? x = some e :=
  element?_eq_some_iff.mpr (h.content? (element?_eq_some_iff.mp hx))

theorem isIn (h : Extends Q d d') {o : Open} (ho : o.IsIn d) : o.IsIn d' := by
  obtain ⟨e, he, hname⟩ := ho
  exact ⟨e, h.element? he, hname⟩

end Extends

end Document

namespace Construction

open Document

variable {b : Construction} {tag : Tag} {inner outer : List Nat} {block : Nat} {s : Split}

/-- What a split can add: copies of formatting in force, with the fragments that go with them. -/
def Copied (b : Construction) (c : Content) : Prop :=
  c = .fragment ∨ ∃ tag, b.InForce tag ∧ c = .element tag.element

/-- What a split is while the elements between the block and the formatting are gone through. -/
structure Splitting (b : Construction) (inner : List Nat) (block : Nat) (outer : List Nat)
    (s : Split) : Prop where
  arranged : Arranged s.document [s.last] (inner ++ (block :: s.between.map Open.id ++ outer))
  last : ∃ front, block :: s.between.map Open.id = front ++ [s.last]
  last_ne_root : s.last ≠ rootId
  between : ∀ o ∈ s.between, o.IsIn s.document
  extends' : Extends b.Copied b.document s.document
  formatting : ∀ id tag, Formatting.element id tag ∈ s.formatting → b.InForce tag

/-- Replacing an entry brings in only the new one. -/
theorem mem_replace {id : NodeId} {f entry : Formatting} {entries : List Formatting}
    (h : f ∈ Formatting.replace id entry entries) : f = entry ∨ f ∈ entries := by
  obtain ⟨g, hg, rfl⟩ := List.mem_map.mp h
  split_ifs
  · exact Or.inl rfl
  · exact Or.inr hg

/-- So does inserting one. -/
theorem mem_insertAfter {id : NodeId} {f entry : Formatting} {entries : List Formatting}
    (h : f ∈ Formatting.insertAfter id entry entries) : f = entry ∨ f ∈ entries := by
  induction entries with
  | nil => exact absurd h List.not_mem_nil
  | cons g entries ih =>
    unfold Formatting.insertAfter at h
    split_ifs at h
    · exact List.mem_cons.mp h
    · rcases List.mem_cons.mp h with rfl | h
      · exact Or.inr List.mem_cons_self
      · exact (ih h).imp_right (List.mem_cons_of_mem g)

/-- One element is copied, and what was there before goes into the copy. -/
theorem Splitting.step (h : Splitting b inner block outer s) (o : Open) (count : Nat) :
    Splitting b inner block outer (s.step block o count) := by
  unfold Split.step
  dsimp only
  split
  · rename_i i tag hfind
    have hforce : b.InForce tag := h.formatting i tag (List.mem_of_find?_eq_some hfind)
    split
    · exact { h with formatting := fun i tag hf => h.formatting i tag (List.mem_of_mem_filter hf) }
    · obtain ⟨front, hfront⟩ := h.last
      have hadded : Extends b.Copied s.document (s.document.addElement tag.element).2 :=
        Extends.addElement s.document (Or.inr ⟨tag, hforce, rfl⟩) (Or.inl rfl)
      have hmoved : Extends b.Copied (s.document.addElement tag.element).2
          (((s.document.addElement tag.element).2.detach s.last).append s.document.nodes.size
            s.last) :=
        Extends.of_content fun x => by simp
      rw [show ({ name := tag.name, attributes := tag.attributes } : Element) = tag.element
        from rfl, addElement_fst]
      refine
        { arranged := ?_
          last := ?_
          last_ne_root := ?_
          between := ?_
          extends' := h.extends'.trans (hadded.trans hmoved)
          formatting := ?_ }
      · have hline := h.arranged
        rw [hfront, List.append_assoc, ← List.append_assoc, List.singleton_append] at hline
        have hwrapped := hline.wrap h.last_ne_root tag.element
        rw [List.map_append, ← List.cons_append, hfront]
        simpa using hwrapped
      · exact ⟨block :: s.between.map Open.id, by simp⟩
      · exact Nat.ne_of_gt h.arranged.forest.root_lt_size
      · intro o' ho'
        rcases List.mem_append.mp ho' with ho' | ho'
        · exact (hadded.trans hmoved).isIn (h.between o' ho')
        · rw [List.mem_singleton.mp ho']
          exact ⟨tag.element, hmoved.element? (element?_eq_some_iff.mpr
            (content?_addElement_self s.document tag.element)), rfl, rfl⟩
      · intro i' tag' hf
        rcases mem_replace hf with heq | hf
        · rw [(Formatting.element.inj heq).2]
          exact hforce
        · exact h.formatting i' tag' hf
  · exact h

/-- **The whole way up is split**, one element after another. -/
theorem Splitting.foldl (between : List (Open × Nat)) (h : Splitting b inner block outer s) :
    Splitting b inner block outer
      (between.foldl (fun s (o, count) => s.step block o count) s) := by
  induction between generalizing s with
  | nil => exact h
  | cons o between ih => exact ih (h.step o.1 o.2)

/-- The place that a block is moved to is below nothing of what is open inside the formatting. -/
theorem near_placeIn_around {inside around : List Open} {ancestor : Open}
    (hstack : b.stack = inside ++ around) (hborder : ∀ o ∈ inside, endsGeneralScope o = false)
    (hancestor : ancestor ∈ around) :
    Place.Near b.document around (b.placeIn ancestor) := by
  unfold placeIn
  split_ifs
  · rw [hstack, fosterPlace_append around hborder]
    exact near_fosterPlace b.document around
  · exact .content hancestor

section Moving

variable {d : Document} {x : Nat} {loose line : List Nat} {around : List Open} {place : Place}
  {e e' : Element}

/-- Of two elements of the line the outer one is not below the inner one. -/
theorem not_under_of_append (h : Arranged d loose (inner ++ outer)) {i o : Nat} (hi : i ∈ inner)
    (ho : o ∈ outer) : ¬ d.Under o i :=
  (List.pairwise_append.mp h.ordered).2.2 i hi o ho

/-- If only one node is loose, what is not below it is below the root element. -/
theorem under_root_of_not (h : Arranged d loose line) (hloose : ∀ f ∈ loose, f = x) {o : Nat}
    (ho : o ∈ line) (hnot : ¬ d.Under o x) : d.Under o rootId := by
  obtain ⟨a, ha, -, hmem⟩ := h.forest.grounded o (h.lt_size ho)
  have htop : a = fragmentId := by
    rcases hmem with htop | hmem
    · exact htop
    · exact absurd (hloose a hmem ▸ ha) hnot
  subst htop
  rcases Relation.ReflTransGen.cases_tail ha with heq | ⟨c, hc, hparent⟩
  · exact absurd heq.symm (h.ne_fragment ho)
  · rw [h.forest.parent_eq_fragment_iff.mp hparent] at hc
    exact hc

/-- What stands before another element of the line is not the root element. -/
theorem ne_root_of_append (h : Arranged d loose (inner ++ outer)) (hloose : ∀ f ∈ loose, f = x)
    (hx : x ∈ inner) {i o : Nat} (hi : i ∈ inner) (ho : o ∈ outer) : ¬ d.Under rootId i := by
  intro hup
  have hroot := under_root_of_not h hloose (List.mem_append_right _ ho)
    (not_under_of_append h hx ho)
  exact not_under_of_append h hi ho (hroot.trans hup)

/-- A loose element can be put into any place near the elements outside of it. -/
theorem arranged_put (h : Arranged d loose ((inner ++ [x]) ++ around.map Open.id))
    (hloose : ∀ f ∈ loose, f = x) (hroot : x ≠ rootId) (hnear : Place.Near d around place)
    (hin : ∀ o ∈ around, o.IsIn d) (hne : around ≠ []) :
    Arranged (put d x place) [] ((inner ++ [x]) ++ around.map Open.id) := by
  have hx : x ∈ inner ++ [x] := by simp
  obtain ⟨q, hholder, hq, hfragment, hbelow⟩ := hnear.exists_holder h.forest h.shaped hin
  obtain ⟨first, hfirst⟩ := List.exists_mem_of_ne_nil around hne
  have hmem : ∀ o ∈ around, o.id ∈ around.map Open.id := fun o ho => List.mem_map_of_mem ho
  have hnot : ∀ i ∈ inner ++ [x], ¬ d.Under q i := by
    intro i hi hup
    rcases hbelow i (h.content_ne_fragment (List.mem_append_left _ hi)) hup with hup | ⟨o, ho, hup⟩
    · exact ne_root_of_append h hloose hx hi (hmem first hfirst) hup
    · exact not_under_of_append h hi (hmem o ho) hup
  have hbefore : ∀ s, place = .before s → s ≠ x ∧ d.content? s ≠ some .fragment := by
    rintro s rfl
    cases hnear with
    | @before o ho =>
      refine ⟨fun heq => ?_, h.content_ne_fragment (List.mem_append_right _ (hmem o ho))⟩
      exact not_under_of_append h hx (hmem o ho) (heq ▸ Under.refl d _)
  have hmoved := moved_put h.forest (h.lt_size (List.mem_append_left _ hx)) hq hholder hbefore
  rw [List.append_assoc] at h ⊢
  exact h.moved_out hmoved hroot hq hfragment hnot fun f hf => Or.inl (hloose f hf)

/-- The content of an element goes into a new element in it. -/
theorem arranged_moveChildren {block : Nat} (h : Arranged d [] (inner ++ block :: outer))
    (hblock : d.element? block = some e') (hplain : e'.isTemplate = false) (e : Element) :
    Arranged (((d.addElement e).2.moveChildren block d.nodes.size).append block d.nodes.size) []
        (inner ++ d.nodes.size :: block :: outer) ∧
      ∀ y, (((d.addElement e).2.moveChildren block d.nodes.size).append block
        d.nodes.size).content? y = (d.addElement e).2.content? y := by
  have hadded := h.addElement e
  have hcopy := parent?_addElement_self d e
  have hblock' : (d.addElement e).2.element? block = some e' := by
    rw [element?_congr (content?_addElement_of_lt (lt_size_of_element? hblock) e), hblock]
  obtain ⟨hmoved, hparent, hcontent⟩ := hadded.moveChildren hcopy hblock' hplain
  have hroot : d.nodes.size ≠ rootId := Nat.ne_of_gt h.forest.root_lt_size
  refine ⟨?_, fun y => (content?_append _ _ _ _).trans (hcontent y)⟩
  refine hmoved.moved_out (hmoved.forest.moved_append (hmoved.lt_size (x := d.nodes.size) (by simp))
    (hmoved.lt_size (x := block) (by simp))) hroot (hmoved.lt_size (by simp))
    (hmoved.ne_fragment (by simp)) ?_ fun f hf => Or.inl (List.mem_singleton.mp hf)
  intro i hi
  rw [List.append_cons] at hmoved
  exact not_under_of_append hmoved hi (by simp)

end Moving

/-- What rules of general scope look past is no template. -/
theorem plain_of_border {o : Open} {e : Element} (he : e.space = o.space)
    (hname : e.name = o.name) (h : endsGeneralScope o = false) : e.isTemplate = false := by
  have htemplate := (named_of_border h).1
  rw [Open.named, ← he, ← hname] at htemplate
  simpa [Element.isTemplate] using htemplate

/-! ## The whole split -/

/-- What the copies around a block lead to. -/
def copies (b : Construction) (block : Open) (between : List Open) : Split :=
  (between.zipIdx 1).foldl (fun s (o, count) => s.step block.id o count)
    { document := b.document, formatting := b.formatting, last := block.id }

/-- The document in which the block, with its copies, is where it belongs. -/
def relocated (b : Construction) (block ancestor : Open) (between : List Open) : Document :=
  let s := b.copies block between
  put (s.document.detach s.last) s.last
    ({ b with document := s.document.detach s.last }.placeIn ancestor)

section Split

variable {inside between around : List Open} {block ancestor : Open} {id : NodeId}

theorem splitAround_document (b : Construction) (id : NodeId) (tag : Tag) (block : Open)
    (inside between : List Open) (ancestor : Open) (outer : List Open) :
    (b.splitAround id tag block inside between ancestor outer).document =
      (((b.relocated block ancestor between).addElement tag.element).2.moveChildren block.id
        (b.relocated block ancestor between).nodes.size).append block.id
          (b.relocated block ancestor between).nodes.size := by
  rw [← addElement_fst (b.relocated block ancestor between) tag.element]
  rfl

theorem splitAround_stack (b : Construction) (id : NodeId) (tag : Tag) (block : Open)
    (inside between : List Open) (ancestor : Open) (outer : List Open) :
    (b.splitAround id tag block inside between ancestor outer).stack =
      inside ++ { id := (b.relocated block ancestor between).nodes.size, name := tag.name }
        :: block :: (b.copies block between).between ++ ancestor :: outer := by
  rw [← addElement_fst (b.relocated block ancestor between) tag.element]
  rfl

theorem splitAround_pending (b : Construction) (id : NodeId) (tag : Tag) (block : Open)
    (inside between : List Open) (ancestor : Open) (outer : List Open) :
    (b.splitAround id tag block inside between ancestor outer).pending = b.pending := by
  unfold splitAround
  dsimp only

theorem splitting_copies
    (hopen : Arranged b.document [] (inside.map Open.id ++ block.id
      :: (between.map Open.id ++ around.map Open.id))) (hne : around ≠ []) :
    Splitting b (inside.map Open.id) block.id (around.map Open.id) (b.copies block between) := by
  refine Splitting.foldl _
    { arranged := ?_
      last := ⟨[], rfl⟩
      last_ne_root := ?_
      between := fun o ho => absurd ho List.not_mem_nil
      extends' := Extends.refl _
      formatting := fun id tag hf => ⟨id, hf⟩ }
  · refine (hopen.mono (List.nil_subset _)).sublist ?_
    exact (List.Sublist.refl _).append ((List.sublist_append_right _ _).cons_cons _)
  · intro heq
    obtain ⟨o, ho⟩ := List.exists_mem_of_ne_nil around hne
    rw [List.append_cons] at hopen
    have hbelow := ne_root_of_append (x := block.id) hopen (fun f hf => absurd hf List.not_mem_nil)
      (by simp) (i := block.id) (o := o.id) (by simp)
      (List.mem_append_right _ (List.mem_map_of_mem ho))
    exact hbelow (heq ▸ Under.refl _ _)

/-- The block is where it belongs, and everything is still in line. -/
theorem arranged_relocated (hopen : Arranged b.document [] (b.stack.map Open.id))
    (hin : ∀ o ∈ b.stack, o.IsIn b.document)
    (hstack : b.stack = inside ++ block :: (between ++ around))
    (hborder : ∀ o ∈ inside ++ block :: between, endsGeneralScope o = false)
    (hancestor : ancestor ∈ around) :
    Arranged (b.relocated block ancestor between) [] (inside.map Open.id ++ block.id
        :: ((b.copies block between).between.map Open.id ++ around.map Open.id)) ∧
      (∀ o ∈ (b.copies block between).between, o.IsIn (b.relocated block ancestor between)) ∧
      Extends b.Copied b.document (b.relocated block ancestor between) ∧
      ∀ id tag, Formatting.element id tag ∈ (b.copies block between).formatting →
        b.InForce tag := by
  have hids : b.stack.map Open.id
      = inside.map Open.id ++ block.id :: (between.map Open.id ++ around.map Open.id) := by
    rw [hstack]
    simp
  rw [hids] at hopen
  have hsplitting := splitting_copies hopen (List.ne_nil_of_mem hancestor)
  unfold relocated
  dsimp only
  generalize b.copies block between = s at hsplitting ⊢
  have hdetach : Extends b.Copied s.document (s.document.detach s.last) :=
    Extends.of_content (content?_detach _ _)
  have hput : ∀ place, Extends b.Copied s.document
      (put (s.document.detach s.last) s.last place) := fun place =>
    hdetach.trans (Extends.of_content (content?_put _ _ place))
  refine ⟨?_, fun o ho => (hput _).isIn (hsplitting.between o ho),
    hsplitting.extends'.trans (hput _), hsplitting.formatting⟩
  obtain ⟨front, hfront⟩ := hsplitting.last
  have hline : inside.map Open.id ++ block.id :: (s.between.map Open.id ++ around.map Open.id)
      = ((inside.map Open.id ++ front) ++ [s.last]) ++ around.map Open.id := by
    rw [← List.cons_append, hfront]
    simp
  have harranged := hsplitting.arranged
  rw [List.cons_append, hline] at harranged
  rw [hline]
  refine arranged_put (harranged.detach (by simp) hsplitting.last_ne_root) (by simp)
    hsplitting.last_ne_root ?_ ?_ (List.ne_nil_of_mem hancestor)
  · refine near_placeIn_around (b := { b with document := s.document.detach s.last }) ?_
      hborder hancestor
    show b.stack = _
    rw [hstack, List.append_assoc, List.cons_append]
  · intro o ho
    exact (hsplitting.extends'.trans hdetach).isIn (hin o (by rw [hstack]; simp [ho]))

/-- **Splitting formatting keeps the document a tree and the open elements in line**, and adds
nothing but copies of formatting in force. -/
theorem splitAround_spec {outer : List Open} {formatted : Open}
    (hopen : Arranged b.document [] (b.stack.map Open.id)) (hin : ∀ o ∈ b.stack, o.IsIn b.document)
    (hstack : b.stack = inside ++ block :: (between ++ formatted :: ancestor :: outer))
    (hentry : Formatting.element formatted.id tag ∈ b.formatting)
    (hborder : ∀ o ∈ inside ++ block :: between, endsGeneralScope o = false) :
    let b' := b.splitAround formatted.id tag block inside between ancestor outer
    Arranged b'.document [] (b'.stack.map Open.id) ∧ (∀ o ∈ b'.stack, o.IsIn b'.document) ∧
      Extends b.Copied b.document b'.document ∧
      ∀ id tag, Formatting.element id tag ∈ b'.formatting → b.InForce tag := by
  intro b'
  have hforce : b.InForce tag := ⟨_, hentry⟩
  obtain ⟨hmoved, hcopies, hextends, hformatting⟩ :=
    arranged_relocated hopen hin hstack hborder
      (show ancestor ∈ formatted :: ancestor :: outer by simp)
  have hblock : block ∈ b.stack := by
    rw [hstack]
    simp
  obtain ⟨e, he, hspace, hname⟩ := hin block hblock
  have hplain := plain_of_border hspace hname (hborder block (by simp))
  obtain ⟨harranged, hcontent⟩ :=
    arranged_moveChildren hmoved (hextends.element? he) hplain tag.element
  have hdocument : b'.document = _ :=
    splitAround_document b _ tag block inside between ancestor outer
  have hstack' : b'.stack = _ := splitAround_stack b _ tag block inside between ancestor outer
  have hlast : Extends b.Copied (b.relocated block ancestor between) b'.document := by
    rw [hdocument]
    exact (Extends.addElement _ (Or.inr ⟨tag, hforce, rfl⟩) (Or.inl rfl)).trans
      (Extends.of_content hcontent)
  refine ⟨?_, ?_, hextends.trans hlast, ?_⟩
  · rw [hdocument, hstack']
    refine harranged.sublist ?_
    simp
  · have hold : ∀ o ∈ b.stack, o.IsIn b'.document := fun o ho =>
      (hextends.trans hlast).isIn (hin o ho)
    intro o ho
    rw [hstack'] at ho
    simp only [List.mem_append, List.mem_cons, or_assoc] at ho
    rcases ho with ho | rfl | rfl | ho | rfl | ho
    · exact hold o (by simp [hstack, ho])
    · refine ⟨tag.element, ?_, rfl, rfl⟩
      rw [hdocument, element?_eq_some_iff, hcontent, content?_addElement_self]
    · exact hold o hblock
    · exact hlast.isIn (hcopies o ho)
    · exact hold o (by simp [hstack])
    · exact hold o (by simp [hstack, ho])
  · intro i t hf
    have hcases : ∃ copy, Formatting.element i t = Formatting.element copy tag ∨
        Formatting.element i t ∈ (b.copies block between).formatting := by
      have hf' := hf
      unfold b' splitAround at hf'
      dsimp only at hf'
      split at hf'
      · exact ⟨_, mem_replace hf'⟩
      · exact ⟨_, mem_insertAfter (List.mem_of_mem_filter hf')⟩
    obtain ⟨copy, heq | hmem⟩ := hcases
    · rw [(Formatting.element.inj heq).2]
      exact hforce
    · exact hformatting i t hmem

end Split

end Construction

end TidyTable.Html
