import TidyTable.Proofs.Html.Walk

/-!
# Documents whose two orders are one

A new node has the largest number. If it comes last in the text too, the order of the text and the
order of making stay the same. It does come last as long as the node it is put into is the last one
on every level, and construction puts new nodes there unless it fosters content of a table or splits
formatting. `InPlace` is a property of documents that excludes both.
-/

namespace TidyTable.Html

namespace Document

variable {d d' : Document} {x y z p q c : Nat} {loose : List Nat}

/-! ## Orders -/

/-- Every node is made after its parent, and after all that is below the siblings before it. -/
structure InOrder (d : Document) : Prop where
  parent_lt : ∀ {x p : Nat}, d.parent? x = some p → p < x
  children_lt : ∀ p : Nat, (d.children p).Pairwise (· < ·)
  below_lt : ∀ {c c' p y : Nat}, d.parent? c = some p → d.parent? c' = some p → c < c' →
    d.Under y c → y < c'

theorem InOrder.le_of_under (h : InOrder d) (hup : d.Under x y) : y ≤ x := by
  induction hup with
  | refl => exact Nat.le_refl _
  | tail _ hp ih => exact Nat.le_trans (Nat.le_of_lt (h.parent_lt hp)) ih

theorem InOrder.pairwise_walk (h : InOrder d) (hforest : Forest d loose) : ∀ n a : Nat,
    (d.walk n a).Pairwise (· < ·)
  | 0, _ => List.Pairwise.nil
  | n + 1, a => by
      have hparent : ∀ c ∈ d.children a, d.parent? c = some a := fun c hc =>
        hforest.mem_children_iff.mp hc
      rw [walk, List.pairwise_cons]
      constructor
      · intro y hy
        obtain ⟨c, hc, hy⟩ := List.mem_flatMap.mp hy
        exact Nat.lt_of_lt_of_le (h.parent_lt (hparent c hc))
          (h.le_of_under (under_of_mem_walk hforest hy))
      · refine List.pairwise_flatMap.mpr ⟨fun c _ => h.pairwise_walk hforest n c, ?_⟩
        refine (h.children_lt a).imp_of_mem fun {c c'} hc hc' hlt => ?_
        intro y hy y' hy'
        exact Nat.lt_of_lt_of_le
          (h.below_lt (hparent c hc) (hparent c' hc') hlt (under_of_mem_walk hforest hy))
          (h.le_of_under (under_of_mem_walk hforest hy'))

/-- **If every node is made in its place, the order of the text is that of making.** -/
theorem InOrder.inTextOrder_eq (h : InOrder d) (hforest : Forest d []) :
    d.inTextOrder = d.inMakingOrder :=
  (inTextOrder_perm hforest).eq_of_pairwise (fun _ _ _ _ hlt hlt' => absurd hlt' (Nat.lt_asymm hlt))
    (h.pairwise_walk hforest _ _) ((List.pairwise_lt_range).filter _)

/-! ## Growing at the end -/

/-- Whether a node is the last one on every level from the root element down to it. -/
def IsLast (d : Document) (q : Nat) : Prop :=
  ∀ ⦃y p z : Nat⦄, d.Under q y → d.parent? y = some p → d.parent? z = some p → z ≤ y

/-- A document has grown by a node that comes last among the children of another, and possibly by
one more in the new one. -/
structure Grown (d d' : Document) (q : Nat) : Prop where
  parent_of_lt : ∀ x : Nat, x < d.nodes.size → d'.parent? x = d.parent? x
  parent_size : d'.parent? d.nodes.size = some q
  parent_of_gt : ∀ x p : Nat, d.nodes.size < x → d'.parent? x = some p →
    d.nodes.size ≤ p ∧ p + 1 = x
  children : ∀ y : Nat, y < d.nodes.size →
    d'.children y = if y = q then d.children y ++ [d.nodes.size] else d.children y

/-- What hangs loose at the end of a document becomes the last child. -/
theorem grown_append (hsize : d.nodes.size < d'.nodes.size)
    (hq : q < d.nodes.size) (hlt : ∀ x : Nat, x < d.nodes.size → d'.parent? x = d.parent? x)
    (hloose : d'.parent? d.nodes.size = none)
    (hgt : ∀ x p : Nat, d.nodes.size < x → d'.parent? x = some p → d.nodes.size ≤ p ∧ p + 1 = x)
    (hchildren : ∀ y : Nat, y < d.nodes.size → d'.children y = d.children y) :
    Grown d (d'.append q d.nodes.size) q where
  parent_of_lt x hx := by rw [parent?_append hsize, if_neg (Nat.ne_of_lt hx), hlt x hx]
  parent_size := by rw [parent?_append hsize, if_pos rfl]
  parent_of_gt x p hx hp := by
    rw [parent?_append hsize, if_neg (Nat.ne_of_gt hx)] at hp
    exact hgt x p hx hp
  children y hy := by
    have hdetach : (d'.detach d.nodes.size).children y = d.children y := by
      rw [children_detach, hloose, if_neg nofun, hchildren y hy]
    rw [append_eq_hang, children_hang (Nat.lt_trans hq hsize), hdetach]

theorem grown_add (content : Content) (hq : q < d.nodes.size) :
    Grown d ((d.add content).2.append q d.nodes.size) q := by
  refine grown_append (by simp) hq (fun x _ => parent?_add _ _ x)
    (by simp) ?_ fun y _ => children_add _ _ y
  intro x p hx hp
  rw [parent?_add] at hp
  have hlt := lt_size_of_parent? hp
  omega

theorem grown_addElement (hforest : Forest d []) (e : Element) (hq : q < d.nodes.size) :
    Grown d ((d.addElement e).2.append q d.nodes.size) q := by
  refine grown_append (by rw [size_addElement]; split_ifs <;> omega) hq
    (fun x hx => parent?_addElement_of_le (Nat.le_of_lt hx) e)
    (parent?_addElement_self d e) ?_
    fun y hy => hforest.children_addElement hy e
  intro x p hx hp
  rw [addElement_snd] at hp
  split_ifs at hp
  · rw [parent?_append (by simp)] at hp
    split_ifs at hp with hlast
    · obtain rfl := Option.some.inj hp
      omega
    · rw [parent?_add, parent?_add] at hp
      have hlt := lt_size_of_parent? hp
      omega
  · rw [parent?_add] at hp
    have hlt := lt_size_of_parent? hp
    omega

namespace Grown

/-- The way up from a new node goes through the place where the document has grown. -/
theorem under_place (h : Grown d d' q) (hforest : Forest d []) (hq : q < d.nodes.size) :
    ∀ {y : Nat}, d.nodes.size ≤ y → d'.Under y c → c < d.nodes.size → d.Under q c := by
  intro y hy hup hc
  induction hup using Relation.ReflTransGen.head_induction_on with
  | refl => omega
  | @head y p hp hup ih =>
    rcases Nat.lt_or_eq_of_le hy with hgt | rfl
    · exact ih (h.parent_of_gt y p hgt hp).1
    · obtain rfl := Option.some.inj (h.parent_size.symm.trans hp)
      exact (hforest.under_iff_of_lt h.parent_of_lt hq).mp hup

theorem under_iff (h : Grown d d' q) (hforest : Forest d []) (hy : y < d.nodes.size) :
    d'.Under y c ↔ d.Under y c :=
  hforest.under_iff_of_lt h.parent_of_lt hy

/-- A child of an old node is old, or it is the new one. -/
theorem lt_or_eq_of_parent (h : Grown d d' q) (hp : d'.parent? x = some p)
    (hlt : p < d.nodes.size) : (x < d.nodes.size ∧ d.parent? x = some p) ∨
      (x = d.nodes.size ∧ p = q) := by
  rcases Nat.lt_trichotomy x d.nodes.size with hx | rfl | hx
  · exact Or.inl ⟨hx, (h.parent_of_lt x hx).symm.trans hp⟩
  · exact Or.inr ⟨rfl, Option.some.inj (hp.symm.trans h.parent_size)⟩
  · have := (h.parent_of_gt x p hx hp).1
    omega

/-- **A document that grows at its end stays in order.** -/
theorem inOrder (h : Grown d d' q) (horder : InOrder d) (hforest : Forest d [])
    (hforest' : Forest d' []) (hq : q < d.nodes.size) (hlast : d.IsLast q) : InOrder d' := by
  have hparent : ∀ {x p : Nat}, d'.parent? x = some p → p < x := by
    intro x p hp
    rcases Nat.lt_trichotomy x d.nodes.size with hx | rfl | hx
    · exact horder.parent_lt ((h.parent_of_lt x hx).symm.trans hp)
    · obtain rfl := Option.some.inj (h.parent_size.symm.trans hp)
      exact hq
    · have := (h.parent_of_gt x p hx hp).2
      omega
  refine ⟨hparent, fun p => ?_, fun {c c' p y} hc hc' hlt hup => ?_⟩
  · rcases Nat.lt_or_ge p d.nodes.size with hp | hp
    · rw [h.children p hp]
      split_ifs
      · refine List.pairwise_append.mpr ⟨horder.children_lt p, List.pairwise_singleton _ _, ?_⟩
        intro z hz w hw
        rw [List.mem_singleton.mp hw]
        exact lt_size_of_parent? (hforest.mem_children_iff.mp hz)
      · exact horder.children_lt p
    · -- a new node has one child at most
      refine (hforest'.nodup_children p).imp_of_mem fun {z w} hz hw hne => absurd ?_ hne
      have hz' := hforest'.mem_children_iff.mp hz
      have hw' := hforest'.mem_children_iff.mp hw
      have hz'' := (h.parent_of_gt z p (Nat.lt_of_le_of_lt hp (hparent hz')) hz').2
      have hw'' := (h.parent_of_gt w p (Nat.lt_of_le_of_lt hp (hparent hw')) hw').2
      exact hz''.symm.trans hw''
  · rcases Nat.lt_trichotomy c' d.nodes.size with hsize | rfl | hsize
    · have hp : d.parent? c' = some p := (h.parent_of_lt c' hsize).symm.trans hc'
      have hpc : d.parent? c = some p := (h.parent_of_lt c (by omega)).symm.trans hc
      rcases Nat.lt_or_ge y d.nodes.size with hy | hy
      · exact horder.below_lt hpc hp hlt ((h.under_iff hforest hy).mp hup)
      · -- the new node is below the last of the siblings only
        have hle := hlast (h.under_place hforest hq hy hup (by omega)) hpc hp
        omega
    · obtain rfl := Option.some.inj (h.parent_size.symm.trans hc')
      have hpc : d.parent? c = some q := (h.parent_of_lt c hlt).symm.trans hc
      rcases Nat.lt_or_ge y d.nodes.size with hy | hy
      · exact hy
      · exact absurd (h.under_place hforest hq hy hup hlt) (hforest.acyclic hpc)
    · have hnext := h.parent_of_gt c' p hsize hc'
      have hpc := hparent hc
      omega

/-- What was last above the place is last still. -/
theorem isLast_of_under (h : Grown d d' q) (hforest : Forest d []) (hq : q < d.nodes.size)
    (hlast : d.IsLast q) (hx : x < d.nodes.size) (hup : d.Under q x) : d'.IsLast x := by
  intro y p z hy hp hz
  have hy' : d.Under x y := (h.under_iff hforest hx).mp hy
  have hylt : y < d.nodes.size := hforest.under_lt_size hx hy'
  have hp' : d.parent? y = some p := (h.parent_of_lt y hylt).symm.trans hp
  rcases h.lt_or_eq_of_parent hz (hforest.parent_lt_size hp') with ⟨-, hz'⟩ | ⟨rfl, rfl⟩
  · exact hlast (hup.trans hy') hp' hz'
  · exact absurd (hup.trans hy') (hforest.acyclic hp')

/-- What is new is last. -/
theorem isLast_size (h : Grown d d' q) (hforest : Forest d []) (hq : q < d.nodes.size)
    (hlast : d.IsLast q) : d'.IsLast d.nodes.size := by
  intro y p z hy hp hz
  rcases hy.cases_head with rfl | ⟨p', hp', hy⟩
  · obtain rfl := Option.some.inj (h.parent_size.symm.trans hp)
    rcases h.lt_or_eq_of_parent hz hq with ⟨hlt, -⟩ | ⟨rfl, -⟩
    · exact Nat.le_of_lt hlt
    · exact Nat.le_refl _
  · obtain rfl := Option.some.inj (h.parent_size.symm.trans hp')
    exact h.isLast_of_under hforest hq hlast hq (Under.refl d q) hy hp hz

theorem isLast_of_parent (h : Grown d d' q) (hforest : Forest d []) (hq : q < d.nodes.size)
    (hlast : d.IsLast q) (hx : d'.parent? x = some d.nodes.size) : d'.IsLast x := by
  intro y p z hy hp hz
  rcases hy.cases_head with rfl | ⟨p', hp', hy⟩
  · obtain rfl := Option.some.inj (hx.symm.trans hp)
    have hgt : ∀ {w : Nat}, d'.parent? w = some d.nodes.size → d.nodes.size < w := by
      intro w hw
      rcases Nat.lt_trichotomy w d.nodes.size with hlt | rfl | hgt
      · have := lt_size_of_parent? (h.parent_of_lt w hlt ▸ hw)
        have := hforest.parent_lt_size ((h.parent_of_lt w hlt).symm.trans hw)
        omega
      · have := Option.some.inj (h.parent_size.symm.trans hw)
        omega
      · exact hgt
    have hy' := (h.parent_of_gt _ _ (hgt hp) hp).2
    have hz' := (h.parent_of_gt _ _ (hgt hz) hz).2
    omega
  · obtain rfl := Option.some.inj (hx.symm.trans hp')
    exact h.isLast_size hforest hq hlast hy hp hz

end Grown

theorem Grown.contentOf (h : Grown d d' q) (hshaped : Shaped d)
    (hcontent : ∀ x : Nat, x < d.nodes.size → d'.content? x = d.content? x)
    (hx : x < d.nodes.size) : d'.contentOf x = d.contentOf x := by
  have helement := element?_congr (hcontent x hx)
  unfold Document.contentOf
  rw [helement]
  cases he : d.element? x with
  | none => rfl
  | some e =>
    dsimp only
    split_ifs with htemplate
    · obtain ⟨f, rest, hchildren, -⟩ := hshaped.template he htemplate
      rw [h.children x hx, hchildren]
      split_ifs <;> rfl
    · rfl

theorem isLast_root (h : Forest d loose) : d.IsLast rootId := by
  intro y p z hy hp hz
  have hroot := h.parent_eq_fragment_iff.mpr rfl
  have hfragment : y = rootId ∨ y = fragmentId := by
    rcases hy.cases_head with rfl | ⟨q, hq, hy⟩
    · exact Or.inl rfl
    · obtain rfl := Option.some.inj (hroot.symm.trans hq)
      exact Or.inr (hy.eq_of_loose h.parent_fragment)
  rcases hfragment with rfl | rfl
  · obtain rfl := Option.some.inj (hroot.symm.trans hp)
    exact Nat.le_of_eq (h.parent_eq_fragment_iff.mp hz)
  · rw [h.parent_fragment] at hp
    exact absurd hp nofun

/-! ## What the elements of a document show -/

/-- The vocabulary and the name of an element. -/
def kind? (d : Document) (x : NodeId) : Option (Space × String) :=
  (d.element? x).map fun e => (e.space, e.name)

/-- Whether a node is an `html` element with one of these names. -/
def isNamed (d : Document) (x : NodeId) (names : List String) : Bool :=
  (d.kind? x).any fun k => k.1 == .html && names.contains k.2

/-- Whether there is formatting before a node that has the name of another node. -/
def isFormattedBefore (d : Document) (y z : NodeId) : Bool :=
  (List.range y).any fun x => d.isNamed x formattingTags && d.kind? x == d.kind? z

/-- Nothing in a document can have been put anywhere but where it was written: no element is part of
a table, and no block begins between two formattings of one name. -/
def InPlace (d : Document) : Prop :=
  (∀ x < d.nodes.size, d.isNamed x tableParts = false) ∧
    ∀ z < d.nodes.size, ∀ y < z, d.isNamed y special = true → d.isFormattedBefore y z = false

instance (d : Document) : Decidable d.InPlace :=
  inferInstanceAs (Decidable (_ ∧ _))

/-- What is an element stays one of its name. -/
def Keeps (d d' : Document) : Prop :=
  d.nodes.size ≤ d'.nodes.size ∧ ∀ x < d.nodes.size, d'.kind? x = d.kind? x

theorem Keeps.isNamed (h : Keeps d d') (hx : x < d.nodes.size) (names : List String) :
    d'.isNamed x names = d.isNamed x names := by
  rw [Document.isNamed, h.2 x hx]
  rfl

theorem Keeps.isFormattedBefore (h : Keeps d d') (hy : y < d.nodes.size) (hz : z < d.nodes.size) :
    d'.isFormattedBefore y z = d.isFormattedBefore y z := by
  unfold Document.isFormattedBefore
  rw [Bool.eq_iff_iff, List.any_eq_true, List.any_eq_true]
  refine exists_congr fun x => and_congr_right fun hx => ?_
  have hx' := Nat.lt_trans (List.mem_range.mp hx) hy
  rw [h.isNamed hx', h.2 x hx', h.2 z hz]

theorem InPlace.of_keeps (h : InPlace d') (hkeeps : Keeps d d') : InPlace d := by
  refine ⟨fun x hx => ?_, fun z hz y hy hspecial => ?_⟩
  · rw [← hkeeps.isNamed hx]
    exact h.1 x (Nat.lt_of_lt_of_le hx hkeeps.1)
  · have hy' := Nat.lt_trans hy hz
    rw [← hkeeps.isFormattedBefore hy' hz]
    rw [← hkeeps.isNamed hy'] at hspecial
    exact h.2 z (Nat.lt_of_lt_of_le hz hkeeps.1) y hy hspecial

theorem keeps_of_content (hcontent : ∀ x : Nat, x < d.nodes.size → d'.content? x = d.content? x) :
    Keeps d d' := by
  refine ⟨Nat.not_lt.mp fun hlt => ?_, fun x hx => ?_⟩
  · -- the last node of the smaller document would be missing
    have hlast := hcontent d'.nodes.size hlt
    have hsome := content?_isSome_iff.mpr hlt
    rw [← hlast, content?_isSome_iff] at hsome
    exact absurd hsome (Nat.lt_irrefl _)
  · unfold kind?
    rw [element?_congr (hcontent x hx)]

theorem kind?_addMissing (d : Document) (x : Nat) (as : List Attribute) (y : Nat) :
    (d.addMissing x as).kind? y = d.kind? y := by
  unfold kind?
  rcases content?_addMissing d x as y with hsame | ⟨e, e', he, he', hspace, hname, -⟩
  · rw [element?_congr hsame]
  · rw [element?_eq_some_iff.mpr he, element?_eq_some_iff.mpr he', Option.map_some, Option.map_some,
      hspace, hname]

theorem contentOf_congr (hkind : d'.kind? x = d.kind? x)
    (hchildren : d'.children x = d.children x) : d'.contentOf x = d.contentOf x := by
  unfold kind? at hkind
  unfold contentOf
  rw [hchildren]
  cases he : d.element? x with
  | none =>
    rw [he, Option.map_none, Option.map_eq_none_iff] at hkind
    rw [hkind]
  | some e =>
    rw [he] at hkind
    obtain ⟨e', he', heq⟩ := Option.map_eq_some_iff.mp hkind
    obtain ⟨hspace, hname⟩ := Prod.mk.inj heq
    rw [he']
    dsimp only
    rw [hspace, hname]

theorem kind?_of_isIn {o : Open} (h : o.IsIn d) : d.kind? o.id = some (o.space, o.name) := by
  obtain ⟨e, he, hspace, hname⟩ := h
  rw [kind?, he, ← hspace, ← hname]
  rfl

theorem isNamed_of_isIn {o : Open} (h : o.IsIn d) (names : List String) :
    d.isNamed o.id names = o.named names := by
  rw [isNamed, kind?_of_isIn h]
  rfl

end Document

namespace Construction

open Document

variable {P : String → Prop} {b b' : Construction} {d' : Document} {n n' : Nat}

/-! ## One step -/

/-- The open elements are last on every level, those further inside are newer, and what formatting
is noted for is formatting. -/
structure Lined (b : Construction) : Prop where
  inOrder : InOrder b.document
  last : ∀ o ∈ b.stack, b.document.IsLast (b.document.contentOf o.id)
  above : b.stack.Pairwise fun i o => b.document.Under i.id (b.document.contentOf o.id)
  newer : b.stack.Pairwise fun i o => o.id < i.id
  noted : ∀ id tag, Formatting.element id tag ∈ b.formatting →
    tag.name ∈ formattingTags ∧ b.document.kind? id = some (.html, tag.name)

theorem lined_start : Lined {} where
  inOrder :=
    { parent_lt {x p} hp := by
        rw [show ({} : Construction).document = Document.empty from rfl, parent?_empty] at hp
        split_ifs at hp with hx
        obtain rfl := Option.some.inj hp
        rw [hx]
        exact Nat.zero_lt_one
      children_lt p := by
        rw [show ({} : Construction).document = Document.empty from rfl, children_empty]
        split_ifs <;> simp
      below_lt {c c' p y} hc hc' hlt _ := by
        rw [show ({} : Construction).document = Document.empty from rfl, parent?_empty] at hc hc'
        split_ifs at hc hc' with hx hx'
        omega }
  last o ho := by
    rw [List.mem_singleton.mp ho]
    exact isLast_root forest_empty
  above := List.pairwise_singleton _ _
  newer := List.pairwise_singleton _ _
  noted _ _ hf := absurd hf List.not_mem_nil

/-- Without tables, content goes into the innermost element. -/
theorem placeIn_current (hvalid : Valid P b)
    (htables : ∀ x < b.document.nodes.size, b.document.isNamed x tableParts = false) :
    b.placeIn b.current = .lastIn (b.document.contentOf b.current.id) := by
  have hnamed : b.current.named tableParts = false := by
    unfold current
    cases hstack : b.stack with
    | nil => rfl
    | cons o rest =>
      have hin : o.IsIn b.document := hvalid.isIn o (by rw [hstack]; exact List.mem_cons_self)
      obtain ⟨e, he, -⟩ := hin
      rw [List.headD_cons, ← isNamed_of_isIn (hvalid.isIn o (by rw [hstack]; simp))]
      exact htables o.id (lt_size_of_element? he)
  rw [placeIn, hnamed, Bool.and_false, if_neg Bool.false_ne_true]

/-- The innermost element is there, it is last, and it is in all that is open. -/
theorem Lined.current (h : Lined b) (hvalid : Valid P b) :
    b.document.contentOf b.current.id < b.document.nodes.size ∧
      b.document.IsLast (b.document.contentOf b.current.id) ∧
      ∀ o ∈ b.stack, b.document.Under (b.document.contentOf b.current.id)
        (b.document.contentOf o.id) := by
  have hforest := hvalid.arranged.forest
  have hshaped := hvalid.arranged.shaped
  unfold Construction.current
  cases hstack : b.stack with
  | nil =>
    rw [List.headD_nil, contentOf_root hshaped]
    exact ⟨hforest.root_lt_size, isLast_root hforest, fun o ho => absurd ho List.not_mem_nil⟩
  | cons i rest =>
    have hi : i ∈ b.stack := by
      rw [hstack]
      exact List.mem_cons_self
    obtain ⟨e, he, -⟩ := hvalid.isIn i hi
    have habove := h.above
    rw [hstack, List.pairwise_cons] at habove
    rw [List.headD_cons]
    refine ⟨?_, h.last i hi, fun o ho => ?_⟩
    · rcases hshaped.contentOf_cases hforest i.id with heq | ⟨hp, -⟩
      · rw [heq]
        exact lt_size_of_element? he
      · exact lt_size_of_parent? hp
    · rcases List.mem_cons.mp ho with rfl | ho
      · exact Under.refl _ _
      · rcases hshaped.contentOf_cases hforest i.id with heq | ⟨hp, -⟩
        · rw [heq]
          exact habove.1 o ho
        · exact Under.of_parent hp (habove.1 o ho)

/-- A document that grows in the innermost element keeps the open elements last. -/
theorem Lined.grown (h : Lined b) (hvalid : Valid P b)
    (hgrown : Grown b.document d' (b.document.contentOf b.current.id)) (hforest' : Forest d' [])
    (hcontent : ∀ x : Nat, x < b.document.nodes.size → d'.content? x = b.document.content? x) :
    Lined { b with document := d' } := by
  have hforest := hvalid.arranged.forest
  obtain ⟨hq, hlast, hup⟩ := h.current hvalid
  have hopen : ∀ o ∈ b.stack, o.id < b.document.nodes.size := fun o ho =>
    hvalid.stack_lt o.id (List.mem_map_of_mem ho)
  have hsame : ∀ o ∈ b.stack, d'.contentOf o.id = b.document.contentOf o.id := fun o ho =>
    hgrown.contentOf hvalid.arranged.shaped hcontent (hopen o ho)
  refine
    { inOrder := hgrown.inOrder h.inOrder hforest hforest' hq hlast
      last := fun o ho => ?_
      above := h.above.imp_of_mem fun {i o} hi ho habove => ?_
      newer := h.newer
      noted := fun id tag hf => ?_ }
  · show d'.IsLast (d'.contentOf o.id)
    rw [hsame o ho]
    exact hgrown.isLast_of_under hforest hq hlast (hforest.under_lt_size hq (hup o ho)) (hup o ho)
  · show d'.Under i.id (d'.contentOf o.id)
    rw [hsame o ho]
    exact (hgrown.under_iff hforest (hopen i hi)).mpr habove
  · obtain ⟨hname, hkind⟩ := h.noted id tag hf
    obtain ⟨e, he, -⟩ := Option.map_eq_some_iff.mp hkind
    exact ⟨hname, ((keeps_of_content hcontent).2 id (lt_size_of_element? he)).trans hkind⟩

/-- A new element that is last can be opened. -/
theorem Lined.push (h : Lined b) (o : Open)
    (hlast : b.document.IsLast (b.document.contentOf o.id))
    (habove : ∀ o' ∈ b.stack, b.document.Under o.id (b.document.contentOf o'.id))
    (hnewer : ∀ o' ∈ b.stack, o'.id < o.id) : Lined { b with stack := o :: b.stack } where
  inOrder := h.inOrder
  last o' ho' := by
    rcases List.mem_cons.mp ho' with rfl | ho'
    · exact hlast
    · exact h.last o' ho'
  above := List.pairwise_cons.mpr ⟨habove, h.above⟩
  newer := List.pairwise_cons.mpr ⟨hnewer, h.newer⟩
  noted := h.noted

/-- What the document has grown by can be opened. -/
theorem Lined.grown_push (h : Lined b) (hvalid : Valid P b)
    (hgrown : Grown b.document d' (b.document.contentOf b.current.id)) (hforest' : Forest d' [])
    (hshaped' : Shaped d')
    (hcontent : ∀ x : Nat, x < b.document.nodes.size → d'.content? x = b.document.content? x)
    (o : Open) (ho : o.id = b.document.nodes.size) :
    Lined { b with document := d', stack := o :: b.stack } := by
  have hforest := hvalid.arranged.forest
  obtain ⟨hq, hlast, hup⟩ := h.current hvalid
  have hopen : ∀ o ∈ b.stack, o.id < b.document.nodes.size := fun o ho =>
    hvalid.stack_lt o.id (List.mem_map_of_mem ho)
  refine (h.grown hvalid hgrown hforest' hcontent).push o ?_ (fun o' ho' => ?_) fun o' ho' => ?_
  · show d'.IsLast (d'.contentOf o.id)
    rw [ho]
    rcases hshaped'.contentOf_cases hforest' b.document.nodes.size with heq | ⟨hp, -⟩
    · rw [heq]
      exact hgrown.isLast_size hforest hq hlast
    · exact hgrown.isLast_of_parent hforest hq hlast hp
  · show d'.Under o.id (d'.contentOf o'.id)
    rw [ho, hgrown.contentOf hvalid.arranged.shaped hcontent (hopen o' ho')]
    exact Under.of_parent hgrown.parent_size ((hgrown.under_iff hforest hq).mpr (hup o' ho'))
  · exact ho ▸ hopen o' ho'

theorem Lined.insertText (h : Lined b) (hvalid : Valid P b)
    (htables : ∀ x < b.document.nodes.size, b.document.isNamed x tableParts = false)
    (cs : List Char) : Lined (b.insertText cs) := by
  have hforest' := (hvalid.insertText cs).arranged.forest
  rw [insertText_eq, placeIn_current hvalid htables] at hforest' ⊢
  refine h.grown hvalid (grown_add _ (h.current hvalid).1) hforest' fun x hx => ?_
  rw [content?_put, content?_add_of_lt hx]

theorem Lined.insertElement {e : Element} (h : Lined b) (hvalid : Valid P b)
    (hvalid' : Valid P (b.insertElement e))
    (htables : ∀ x < b.document.nodes.size, b.document.isNamed x tableParts = false) :
    Lined (b.insertElement e) := by
  have hforest' := hvalid'.arranged.forest
  have hshaped' := hvalid'.arranged.shaped
  rw [insertElement_eq, placeIn_current hvalid htables] at hforest' hshaped' ⊢
  refine h.grown_push hvalid (grown_addElement hvalid.arranged.forest e (h.current hvalid).1)
    hforest' hshaped' (fun x hx => ?_) _ rfl
  rw [content?_append, content?_addElement_of_lt hx]

theorem Lined.attributes (h : Lined b) (as : List Attribute) :
    Lined { b with document := b.document.addMissing rootId as } := by
  have hparent := parent?_addMissing b.document rootId as
  have hchildren := children_addMissing b.document rootId as
  have hcontentOf : ∀ x : Nat,
      (b.document.addMissing rootId as).contentOf x = b.document.contentOf x := fun x =>
    contentOf_congr (kind?_addMissing _ _ _ x) (hchildren x)
  have hunder : ∀ {x y : Nat},
      (b.document.addMissing rootId as).Under x y ↔ b.document.Under x y :=
    ⟨fun hup => hup.congr fun z _ => (hparent z).symm, fun hup => hup.congr fun z _ => hparent z⟩
  refine
    { inOrder :=
        { parent_lt {x p} hp := h.inOrder.parent_lt (hparent x ▸ hp)
          children_lt p := by
            rw [hchildren]
            exact h.inOrder.children_lt p
          below_lt {c c' p y} hc hc' hlt hup :=
            h.inOrder.below_lt (hparent c ▸ hc) (hparent c' ▸ hc') hlt (hunder.mp hup) }
      last := fun o ho y p z hup hp hz => ?_
      above := h.above.imp fun {i o} habove => ?_
      newer := h.newer
      noted := fun id tag hf => ?_ }
  · rw [hcontentOf] at hup
    exact h.last o ho (hunder.mp hup) (hparent y ▸ hp) (hparent z ▸ hz)
  · rw [hcontentOf]
    exact hunder.mpr habove
  · rw [kind?_addMissing]
    exact h.noted id tag hf

/-- **Every step keeps what an element is.** -/
theorem Step.keeps (h : Step P (n, b) (n', b')) (hvalid : Valid P b) :
    Keeps b.document b'.document := by
  cases h with
  | keep hn hdocument hpending hstack hformatting =>
    rw [hdocument]
    exact keeps_of_content fun x _ => rfl
  | text n b cs =>
    refine keeps_of_content fun x hx => ?_
    rw [content?_insertText, content?_add_of_lt hx]
  | wait n b cs => exact keeps_of_content fun x _ => rfl
  | settle n b => exact keeps_of_content fun x _ => rfl
  | element n b he =>
    refine keeps_of_content fun x hx => ?_
    rw [insertElement_eq]
    exact (content?_put _ _ _ x).trans (content?_addElement_of_lt hx _)
  | attributes n b has =>
    exact ⟨Nat.le_of_eq (size_addMissing _ _ _).symm, fun x _ => kind?_addMissing _ _ _ x⟩
  | split n b hstack hentry hblock hborder =>
    obtain ⟨-, -, hextends, -⟩ :=
      splitAround_spec hvalid.arranged hvalid.isIn hstack hentry hborder
    refine keeps_of_content fun x hx => ?_
    obtain ⟨content, hcontent⟩ := Option.isSome_iff_exists.mp (content?_isSome_iff.mpr hx)
    rw [hextends.content? hcontent, hcontent]

/-- A split leaves a block between two formattings of one name. -/
theorem Lined.not_inPlace_splitAround (h : Lined b) (hvalid : Valid P b)
    {inner between outer : List Open} {block formatted ancestor : Open} {tag : Tag}
    (hstack : b.stack = inner ++ block :: (between ++ formatted :: ancestor :: outer))
    (hentry : Formatting.element formatted.id tag ∈ b.formatting)
    (hblock : block.named special = true)
    (hborder : ∀ o ∈ inner ++ block :: between, endsGeneralScope o = false) :
    ¬ (b.splitAround formatted.id tag block inner between ancestor outer).document.InPlace := by
  intro hplace
  obtain ⟨-, hin, hextends, -⟩ :=
    splitAround_spec hvalid.arranged hvalid.isIn hstack hentry hborder
  obtain ⟨-, -, hrelocated, -⟩ :=
    arranged_relocated hvalid.arranged hvalid.isIn hstack hborder
      (show ancestor ∈ formatted :: ancestor :: outer by simp)
  have hcopy := hin { id := (b.relocated block ancestor between).nodes.size, name := tag.name }
    (by rw [splitAround_stack]; simp)
  have hblock' : block.IsIn b.document := hvalid.isIn block (by rw [hstack]; simp)
  have hlt : block.id < (b.relocated block ancestor between).nodes.size := by
    obtain ⟨e, he, -⟩ := hrelocated.isIn hblock'
    exact lt_size_of_element? he
  have hnewer : formatted.id < block.id := by
    have hpairwise := h.newer
    rw [hstack] at hpairwise
    exact (List.pairwise_cons.mp (List.pairwise_append.mp hpairwise).2.1).1 formatted (by simp)
  obtain ⟨hname, hkind⟩ := h.noted formatted.id tag hentry
  have hkind' : (b.splitAround formatted.id tag block inner between ancestor outer).document.kind?
      formatted.id = some (.html, tag.name) := by
    obtain ⟨e, he, heq⟩ := Option.map_eq_some_iff.mp hkind
    rw [kind?, hextends.element? he, Option.map_some, heq]
  have hspecial := isNamed_of_isIn (hextends.isIn hblock') special
  rw [hblock] at hspecial
  obtain ⟨e, he, -⟩ := id hcopy
  have hnone := hplace.2 _ (lt_size_of_element? he) block.id hlt hspecial
  -- the formatting that is split is before the block, and its copy is behind
  rw [isFormattedBefore, List.any_eq_false] at hnone
  refine hnone formatted.id (List.mem_range.mpr hnewer) ?_
  rw [isNamed, hkind', kind?_of_isIn hcopy]
  simpa using hname

/-- **A step that leaves everything in place keeps the open elements last.** -/
theorem Step.lined (h : Step P (n, b) (n', b')) (hvalid : Valid P b) (hlined : Lined b)
    (hplace : b'.document.InPlace) : Lined b' := by
  have hvalid' := h.valid hvalid
  have htables := (hplace.of_keeps (h.keeps hvalid)).1
  cases h with
  | keep hn hdocument hpending hstack hformatting =>
    refine
      { inOrder := hdocument ▸ hlined.inOrder
        last := fun o ho => hdocument ▸ hlined.last o (hstack.subset ho)
        above := hdocument ▸ hlined.above.sublist hstack
        newer := hlined.newer.sublist hstack
        noted := fun id tag hf => ?_ }
    rw [hdocument]
    rcases hformatting _ hf with hf | hmarker | ⟨id', tag', heq, hname, e, he, hspace, hhas⟩
    · exact hlined.noted id tag hf
    · exact absurd hmarker nofun
    · obtain ⟨rfl, rfl⟩ := Formatting.element.inj heq
      refine ⟨?_, by rw [kind?, he, Option.map_some, hspace, hhas]⟩
      rcases hname with ⟨-, hname⟩ | ⟨id', hforce⟩
      · exact hname
      · exact (hlined.noted id' tag hforce).1
  | text n b cs => exact hlined.insertText hvalid htables cs
  | wait n b cs => exact { hlined with }
  | settle n b => exact { hlined with }
  | element n b he => exact hlined.insertElement hvalid hvalid' htables
  | attributes n b has => exact hlined.attributes _
  | split n b hstack hentry hblock hborder =>
    exact absurd hplace (hlined.not_inPlace_splitAround hvalid hstack hentry hblock hborder)

/-- **So does all of construction.** -/
theorem Leads.lined {s s' : Nat × Construction} (h : Leads P s s') (hvalid : Valid P s.2)
    (hlined : Lined s.2) (hplace : s'.2.document.InPlace) : Lined s'.2 := by
  induction h with
  | refl => exact hlined
  | tail hleads hstep ih =>
    have hvalid' := (Leads.sound hleads hvalid).1
    exact hstep.lined hvalid' (ih (hplace.of_keeps (hstep.keeps hvalid'))) hplace

end Construction

open Construction Document in
/-- **If everything in a fragment is in place, its two orders are one.** -/
theorem inTextOrder_ofFragment {cs : List Char} (h : (Document.ofFragment cs).InPlace) :
    (Document.ofFragment cs).inTextOrder = (Document.ofFragment cs).inMakingOrder := by
  obtain ⟨b, hb, hleads⟩ := leads_ofFragment cs cs.length (Nat.le_refl _)
  have hlined : Lined b := hleads.lined (valid_start _) lined_start (hb ▸ h)
  exact hb ▸ hlined.inOrder.inTextOrder_eq hleads.fragment.1

end TidyTable.Html
