import Mathlib.Data.List.Nodup
import Mathlib.Logic.Relation
import Mathlib.Tactic.SplitIfs
import TidyTable.Html.Document

/-!
# Documents are trees

A node says which node it hangs below, and a node says what hangs below it. Making, detaching and
moving nodes keeps the two in step: `Forest` is what every document is while it is put together, a
tree below the fragment that everything belongs to, beside the trees of the nodes that are not in
their place yet.

Every change of place is a `Moved`: one node, with all that is below it, hangs somewhere else. It
stays a forest as long as the node does not come to hang below itself.
-/

namespace TidyTable.Html

/-- The element of a content that is one. -/
def Content.element? : Content → Option Element
  | .element e => some e
  | _ => none

/-- Whether the content of an element goes into a fragment of its own. -/
def Element.isTemplate (e : Element) : Bool := e.space == .html && e.name == "template"

namespace Document

variable {d d' : Document} {x y z p q a : Nat} {content : Content} {e : Element}

/-- What the node of a number is. -/
def content? (d : Document) (x : NodeId) : Option Content := (d.node? x).map Node.content

/-- What the nodes are, by number. -/
def contents (d : Document) : List Content := d.nodes.toList.map Node.content

/-- The contents list what the nodes are. -/
theorem getElem?_contents (d : Document) (x : Nat) : d.contents[x]? = d.content? x := by
  rw [contents, List.getElem?_map, Array.getElem?_toList]
  rfl

@[simp] theorem length_contents (d : Document) : d.contents.length = d.nodes.size := by
  rw [contents, List.length_map, Array.length_toList]

/-- Two documents whose nodes are the same have the same contents. -/
theorem contents_eq (h : ∀ x, d'.content? x = d.content? x) : d'.contents = d.contents :=
  List.ext_getElem? fun x => by rw [getElem?_contents, getElem?_contents, h x]

theorem size_eq (h : ∀ x, d'.content? x = d.content? x) : d'.nodes.size = d.nodes.size := by
  rw [← length_contents, ← length_contents, contents_eq h]

/-- Whether a node is an element can be told from its content. -/
theorem element?_eq_content? (d : Document) (x : Nat) :
    d.element? x = (d.content? x).bind Content.element? := by
  unfold element? content?
  cases d.node? x with
  | none => rfl
  | some n => cases hn : n.content <;> simp [Node.element?, Content.element?, hn]

theorem element?_eq_some_iff : d.element? x = some e ↔ d.content? x = some (.element e) := by
  rw [element?_eq_content?]
  cases d.content? x with
  | none => simp
  | some c => cases c <;> simp [Content.element?]

theorem node?_isSome_iff : (d.node? x).isSome ↔ x < d.nodes.size := by
  rw [node?]
  simp

theorem content?_isSome_iff : (d.content? x).isSome ↔ x < d.nodes.size := by
  rw [content?, Option.isSome_map, node?_isSome_iff]

/-- A node that is something is one of the document. -/
theorem lt_size_of_content? (h : d.content? x = some content) : x < d.nodes.size :=
  content?_isSome_iff.mp (by rw [h]; rfl)

theorem lt_size_of_element? (h : d.element? x = some e) : x < d.nodes.size :=
  lt_size_of_content? (element?_eq_some_iff.mp h)

theorem lt_size_of_parent? (h : d.parent? x = some p) : x < d.nodes.size := by
  rw [← node?_isSome_iff, Option.isSome_iff_ne_none]
  intro hnone
  rw [parent?, hnone] at h
  exact absurd h nofun

/-- Only a node of the document has children. -/
theorem lt_size_of_mem_children (h : x ∈ d.children p) : p < d.nodes.size := by
  rw [← node?_isSome_iff, Option.isSome_iff_ne_none]
  intro hnone
  rw [children, hnone] at h
  exact absurd h List.not_mem_nil

theorem children_eq (d : Document) (x : Nat) :
    d.children x = ((d.node? x).map Node.children).getD [] := by
  unfold children
  cases d.node? x <;> rfl

/-! ## What the operations do to one node -/

/-- Changing a node changes no other. -/
theorem node?_modify (d : Document) (x : Nat) (f : Node → Node) (y : Nat) :
    (d.modify x f).node? y = if x = y then (d.node? y).map f else d.node? y :=
  Array.getElem?_modify

/-- A new node takes the next number. -/
theorem node?_add (d : Document) (content : Content) (y : Nat) :
    (d.add content).2.node? y = if y = d.nodes.size then some { content } else d.node? y :=
  Array.getElem?_push

/-- All other nodes are what they were. -/
theorem content?_add (d : Document) (content : Content) (y : Nat) :
    (d.add content).2.content? y = if y = d.nodes.size then some content else d.content? y := by
  unfold content?
  rw [node?_add]
  split_ifs <;> rfl

/-- A new node hangs nowhere. -/
@[simp] theorem parent?_add (d : Document) (content : Content) (y : Nat) :
    (d.add content).2.parent? y = d.parent? y := by
  unfold parent?
  rw [node?_add]
  split_ifs with h
  · rw [h, node?, Array.getElem?_eq_none (Nat.le_refl _)]
    rfl
  · rfl

/-- Nor does anything hang below it. -/
@[simp] theorem children_add (d : Document) (content : Content) (y : Nat) :
    (d.add content).2.children y = d.children y := by
  rw [children_eq, children_eq, node?_add]
  split_ifs with h
  · rw [h, node?, Array.getElem?_eq_none (Nat.le_refl _)]
    rfl
  · rfl

@[simp] theorem size_add (d : Document) (content : Content) :
    (d.add content).2.nodes.size = d.nodes.size + 1 :=
  Array.size_push _

/-- A node that is detached loses its parent, and its parent loses a child. This holds of a node
without a parent too, which stays as it is. -/
theorem node?_detach (d : Document) (x y : Nat) :
    (d.detach x).node? y = (d.node? y).map fun n =>
      { n with
        parent := if y = x then none else n.parent
        children := if d.parent? x = some y then n.children.filter (· != x) else n.children } := by
  unfold detach
  cases hx : d.parent? x with
  | none =>
    -- nothing is changed, and the node had no parent to lose
    simp only [reduceCtorEq, if_false]
    cases hy : d.node? y with
    | none => rfl
    | some n =>
      by_cases h : y = x
      · subst h
        have hn : n.parent = none := by rwa [parent?, hy] at hx
        rw [Option.map_some, if_pos rfl, ← hn]
      · rw [Option.map_some, if_neg h]
  | some p =>
    -- two nodes are changed, which may be one and the same
    dsimp only
    rw [node?_modify, node?_modify]
    simp only [Option.some.injEq, @eq_comm _ y]
    cases d.node? y with
    | none => split_ifs <;> rfl
    | some n =>
      simp only [Option.map_some]
      split_ifs <;> rfl

@[simp] theorem content?_detach (d : Document) (x y : Nat) :
    (d.detach x).content? y = d.content? y := by
  rw [content?, node?_detach, Option.map_map]
  rfl

/-- Only the node itself has another parent. -/
theorem parent?_detach (d : Document) (x y : Nat) :
    (d.detach x).parent? y = if y = x then none else d.parent? y := by
  unfold parent?
  rw [node?_detach]
  cases d.node? y with
  | none => split_ifs <;> rfl
  | some n => rfl

/-- Only its parent has other children. -/
theorem children_detach (d : Document) (x y : Nat) :
    (d.detach x).children y
      = if d.parent? x = some y then (d.children y).filter (· != x) else d.children y := by
  rw [children_eq, node?_detach, children_eq]
  cases d.node? y with
  | none => split_ifs <;> rfl
  | some n => rfl

@[simp] theorem size_detach (d : Document) (x : Nat) : (d.detach x).nodes.size = d.nodes.size :=
  size_eq (content?_detach d x)

/-! ## Changes of place -/

/-- Puts a node among the children of another. -/
def hang (d : Document) (p x : NodeId) (among : List NodeId → List NodeId) : Document :=
  ((d.detach x).modify p fun n => { n with children := among n.children }).modify x fun n =>
    { n with parent := some p }

/-- Appending puts the node behind the children. -/
theorem append_eq_hang (d : Document) (p x : Nat) : d.append p x = d.hang p x (· ++ [x]) := rfl

/-- Inserting puts it before one of them. -/
theorem insertBefore_eq_hang {mark : Nat} (h : (d.detach x).parent? mark = some p) :
    d.insertBefore mark x = d.hang p x (insertedBefore mark x) := by
  unfold insertBefore
  dsimp only
  rw [h]
  rfl

section Hang

variable {among : List NodeId → List NodeId}

/-- A node is detached before it is hung, so its new parent may be the one it had. -/
theorem node?_hang (d : Document) (p x : Nat) (among : List NodeId → List NodeId) (y : Nat) :
    (d.hang p x among).node? y = ((d.detach x).node? y).map fun n =>
      { n with
        parent := if y = x then some p else n.parent
        children := if y = p then among n.children else n.children } := by
  unfold hang
  rw [node?_modify, node?_modify]
  simp only [@eq_comm _ y]
  cases (d.detach x).node? y with
  | none => split_ifs <;> rfl
  | some n =>
    simp only [Option.map_some]
    split_ifs <;> rfl

/-- Where a node hangs does not change what it is. -/
@[simp] theorem content?_hang (y : Nat) : (d.hang p x among).content? y = d.content? y := by
  rw [content?, node?_hang, Option.map_map, ← content?_detach d x]
  rfl

theorem parent?_hang (hx : x < d.nodes.size) (y : Nat) :
    (d.hang p x among).parent? y = if y = x then some p else d.parent? y := by
  have hdetach := parent?_detach d x y
  have hsome : y = x → ((d.detach x).node? y).isSome := by
    rintro rfl
    rwa [node?_isSome_iff, size_detach]
  unfold parent? at hdetach ⊢
  rw [node?_hang]
  by_cases h : y = x
  · obtain ⟨n, hn⟩ := Option.isSome_iff_exists.mp (hsome h)
    rw [hn, if_pos h, Option.map_some, Option.bind_some, if_pos h]
  · rw [if_neg h] at hdetach ⊢
    rw [← hdetach]
    simp only [if_neg h]
    cases (d.detach x).node? y <;> rfl

@[simp] theorem content?_append (d : Document) (p x y : Nat) :
    (d.append p x).content? y = d.content? y := by
  rw [append_eq_hang, content?_hang]

theorem parent?_append (hx : x < d.nodes.size) (p y : Nat) :
    (d.append p x).parent? y = if y = x then some p else d.parent? y := by
  rw [append_eq_hang, parent?_hang hx]

theorem children_hang (hp : p < d.nodes.size) (y : Nat) :
    (d.hang p x among).children y
      = if y = p then among ((d.detach x).children y) else (d.detach x).children y := by
  have hsome : y = p → ((d.detach x).node? y).isSome := by
    rintro rfl
    rwa [node?_isSome_iff, size_detach]
  rw [children_eq, node?_hang, children_eq]
  by_cases h : y = p
  · obtain ⟨n, hn⟩ := Option.isSome_iff_exists.mp (hsome h)
    rw [hn, if_pos h, Option.map_some, Option.map_some, if_pos h]
    rfl
  · simp only [if_neg h]
    cases (d.detach x).node? y <;> rfl

end Hang

/-- Inserting before a member adds one member. -/
theorem insertedBefore_perm {mark : Nat} : ∀ {l : List NodeId}, mark ∈ l →
    (insertedBefore mark x l).Perm (x :: l)
  | y :: l, h => by
      unfold insertedBefore
      by_cases hy : y = mark
      · rw [if_pos (beq_iff_eq.mpr hy)]
      · rw [if_neg fun heq => hy (beq_iff_eq.mp heq)]
        have hmem := (List.mem_cons.mp h).resolve_left (Ne.symm hy)
        exact ((insertedBefore_perm hmem).cons y).trans (List.Perm.swap x y l)

/-! ## Forests -/

/-- A node is another one or stands below it. -/
def Under (d : Document) : Nat → Nat → Prop :=
  Relation.ReflTransGen fun x p => d.parent? x = some p

/-- A document whose nodes are in trees: all below the fragment that everything belongs to, or below
a node that is loose. -/
structure Forest (d : Document) (loose : List NodeId) : Prop where
  mem_children_iff : ∀ {x p : Nat}, x ∈ d.children p ↔ d.parent? x = some p
  nodup_children : ∀ p : Nat, (d.children p).Nodup
  parent_eq_fragment_iff : ∀ {x : Nat}, d.parent? x = some fragmentId ↔ x = rootId
  parent_fragment : d.parent? fragmentId = none
  grounded : ∀ x : Nat, x < d.nodes.size →
    ∃ a : Nat, d.Under x a ∧ d.parent? a = none ∧ (a = fragmentId ∨ a ∈ loose)

namespace Under

theorem refl (d : Document) (x : Nat) : d.Under x x := Relation.ReflTransGen.refl

theorem trans (h : d.Under x y) (h' : d.Under y z) : d.Under x z := Relation.ReflTransGen.trans h h'

/-- The way up from the parent goes on from the child. -/
theorem of_parent (h : d.parent? x = some p) (h' : d.Under p a) : d.Under x a :=
  Relation.ReflTransGen.head h h'

/-- The way up from a node begins at its parent. -/
theorem cases_head (h : d.Under x a) : x = a ∨ ∃ p, d.parent? x = some p ∧ d.Under p a :=
  Relation.ReflTransGen.cases_head h

/-- A way up ends where there is no parent. -/
theorem eq_of_loose (h : d.Under x a) (hx : d.parent? x = none) : a = x := by
  rcases h.cases_head with rfl | ⟨p, hp, -⟩
  · rfl
  · rw [hx] at hp
    exact absurd hp nofun

/-- There is only one way up. -/
theorem of_under (h : d.Under x y) (h' : d.Under x z) : d.Under y z ∨ d.Under z y :=
  Relation.ReflTransGen.total_of_right_unique
    (fun _ _ _ hb hc => Option.some.inj (hb.symm.trans hc)) h h'

/-- What stands below a node depends only on the parents on the way up. -/
theorem congr (h : d.Under x a) (hsame : ∀ y, d.Under x y → d'.parent? y = d.parent? y) :
    d'.Under x a := by
  induction h using Relation.ReflTransGen.head_induction_on with
  | refl => exact refl d' a
  | head hp _ ih =>
    refine of_parent ((hsame _ (refl d _)).trans hp) (ih fun y hy => hsame y (of_parent hp hy))

/-- The way up to a node does not depend on where this node hangs. -/
theorem congr_below (h : d.Under y x) (hsame : ∀ z : Nat, z ≠ x → d'.parent? z = d.parent? z) :
    d'.Under y x := by
  induction h using Relation.ReflTransGen.head_induction_on with
  | refl => exact refl d' x
  | @head y p hp _ ih =>
    -- the way may meet the node before its end, and can then stop there
    by_cases hy : y = x
    · rw [hy]
      exact refl d' x
    · exact of_parent ((hsame y hy).trans hp) ih

/-- Nor does a way up that does not meet it. -/
theorem congr_beside (h : d.Under y a) (hnot : ¬ d.Under y x)
    (hsame : ∀ z : Nat, z ≠ x → d'.parent? z = d.parent? z) : d'.Under y a :=
  h.congr fun z hz => hsame z (by rintro rfl; exact hnot hz)

end Under

namespace Forest

variable {loose loose' : List NodeId}

/-- More nodes may be loose than are. -/
theorem mono (h : Forest d loose) (hsub : loose ⊆ loose') : Forest d loose' where
  mem_children_iff := h.mem_children_iff
  nodup_children := h.nodup_children
  parent_eq_fragment_iff := h.parent_eq_fragment_iff
  parent_fragment := h.parent_fragment
  grounded x hx := by
    obtain ⟨a, ha, hnone, hloose⟩ := h.grounded x hx
    exact ⟨a, ha, hnone, hloose.imp_right fun hmem => hsub hmem⟩

/-- A parent is a node of the document. -/
theorem parent_lt_size (h : Forest d loose) (hp : d.parent? x = some p) : p < d.nodes.size :=
  lt_size_of_mem_children (h.mem_children_iff.mpr hp)

/-- A way up from a node of the document meets nodes of the document. -/
theorem under_lt_size (h : Forest d loose) (hx : x < d.nodes.size) (hup : d.Under x a) :
    a < d.nodes.size := by
  rcases Relation.ReflTransGen.cases_tail hup with rfl | ⟨c, -, hc⟩
  · exact hx
  · exact h.parent_lt_size hc

/-- **No node stands below itself.** -/
theorem acyclic (h : Forest d loose) (hp : d.parent? x = some p) : ¬ d.Under p x := by
  intro hcycle
  obtain ⟨a, ha, hnone, -⟩ := h.grounded x (lt_size_of_parent? hp)
  -- from a node on a cycle every way up leads back to it
  have hback : ∀ {b}, d.Under x b → d.Under b x := by
    intro b hb
    induction hb with
    | refl => exact Under.refl d x
    | @tail b c _ hbc ih =>
      rcases ih.cases_head with rfl | ⟨c', hc', hup⟩
      · obtain rfl := Option.some.inj (hp.symm.trans hbc)
        exact hcycle
      · obtain rfl := Option.some.inj (hc'.symm.trans hbc)
        exact hup
  obtain rfl := (hback ha).eq_of_loose hnone
  rw [hnone] at hp
  exact absurd hp nofun

/-- If nothing is loose, all nodes but the first stand below the root element. -/
theorem under_root (h : Forest d []) (hx : x < d.nodes.size) (hne : x ≠ fragmentId) :
    d.Under x rootId := by
  obtain ⟨a, ha, -, hloose⟩ := h.grounded x hx
  obtain rfl := hloose.resolve_right List.not_mem_nil
  rcases Relation.ReflTransGen.cases_tail ha with heq | ⟨c, hc, htop⟩
  · exact absurd heq.symm hne
  · obtain rfl := h.parent_eq_fragment_iff.mp htop
    exact hc

end Forest

/-! ## Moving a node -/

/-- A node, with all that is below it, hangs below another one now. Where among its children does
not matter, but the fragment of a template stays in front. -/
structure Moved (d d' : Document) (x q : NodeId) : Prop where
  content : ∀ y : Nat, d'.content? y = d.content? y
  parent : ∀ y : Nat, d'.parent? y = if y = x then some q else d.parent? y
  children : ∀ y : Nat, (d'.children y).Perm
    (if y = q then x :: (d.children y).filter (· != x) else (d.children y).filter (· != x))
  head : ∀ {y f : Nat} {rest : List NodeId}, d.children y = f :: rest → f ≠ x →
    d.content? f = some .fragment → ∃ rest', d'.children y = f :: rest'

section Moved

variable {loose loose' : List NodeId}

/-- In a forest only a parent has the node among its children. -/
theorem Forest.children_detach (h : Forest d loose) (x y : Nat) :
    (d.detach x).children y = (d.children y).filter (· != x) := by
  rw [Document.children_detach]
  split_ifs with hp
  · rfl
  · rw [List.filter_eq_self.mpr fun z hz => ?_]
    rw [bne_iff_ne]
    rintro rfl
    exact hp (h.mem_children_iff.mp hz)

/-- Hanging a node is a change of place, if it joins the children and nothing is put before a
fragment. -/
theorem Forest.moved_hang {among : List NodeId → List NodeId} (h : Forest d loose)
    (hx : x < d.nodes.size) (hq : q < d.nodes.size)
    (hperm : (among ((d.detach x).children q)).Perm (x :: (d.detach x).children q))
    (hhead : ∀ f rest, d.content? f = some .fragment → ∃ rest', among (f :: rest) = f :: rest') :
    Moved d (d.hang q x among) x q where
  content _ := content?_hang _
  parent y := parent?_hang hx y
  children y := by
    rw [children_hang hq, ← h.children_detach]
    split_ifs with hy
    · rw [hy]
      exact hperm
    · rfl
  head {y f rest} hy hne hf := by
    have hdetach : (d.detach x).children y = f :: rest.filter (· != x) := by
      rw [h.children_detach, hy, List.filter_cons, if_pos (bne_iff_ne.mpr hne)]
    rw [children_hang hq, hdetach]
    split_ifs
    · exact hhead f _ hf
    · exact ⟨_, rfl⟩

/-- Appending is a change of place. -/
theorem Forest.moved_append (h : Forest d loose) (hx : x < d.nodes.size) (hq : q < d.nodes.size) :
    Moved d (d.append q x) x q := by
  rw [append_eq_hang]
  exact h.moved_hang hx hq (List.perm_append_singleton x _) fun _ _ _ => ⟨_, rfl⟩

/-- So is inserting before a node that is no fragment. -/
theorem Forest.moved_insertBefore {mark : Nat} (h : Forest d loose) (hx : x < d.nodes.size)
    (hmark : d.parent? mark = some q) (hne : mark ≠ x)
    (hcontent : d.content? mark ≠ some .fragment) : Moved d (d.insertBefore mark x) x q := by
  have hparent : (d.detach x).parent? mark = some q := by
    rw [parent?_detach, if_neg hne, hmark]
  have hmem : mark ∈ (d.detach x).children q := by
    rw [h.children_detach, List.mem_filter, h.mem_children_iff]
    exact ⟨hmark, bne_iff_ne.mpr hne⟩
  rw [insertBefore_eq_hang hparent]
  refine h.moved_hang hx (h.parent_lt_size hmark) (insertedBefore_perm hmem) fun f rest hf => ?_
  have hother : (f == mark) = false := by
    rw [beq_eq_false_iff_ne]
    rintro rfl
    exact hcontent hf
  exact ⟨_, by rw [insertedBefore, hother, if_neg Bool.false_ne_true]⟩

/-- No other node has another parent. -/
theorem Moved.parent_of_ne (h : Moved d d' x q) (y : Nat) (hy : y ≠ x) :
    d'.parent? y = d.parent? y := by
  rw [h.parent, if_neg hy]

/-- What the new place stands below has not changed. -/
theorem Moved.under_place (h : Moved d d' x q) (hnot : ¬ d.Under q x) (hup : d'.Under q a) :
    d.Under q a := by
  induction hup with
  | refl => exact Under.refl d q
  | @tail b c _ hbc ih =>
    rw [h.parent_of_ne b (by rintro rfl; exact hnot ih)] at hbc
    exact ih.tail hbc

/-- After a move a node stands below what it stood below before, or below the new place. -/
theorem Moved.under_cases (h : Moved d d' x q) (hnot : ¬ d.Under q x) (hup : d'.Under y a) :
    d.Under y a ∨ (d.Under y x ∧ d.Under q a) := by
  induction hup using Relation.ReflTransGen.head_induction_on with
  | refl => exact Or.inl (Under.refl d a)
  | @head y p hp hup ih =>
    rw [h.parent] at hp
    split_ifs at hp with hy
    · obtain rfl := Option.some.inj hp
      obtain rfl := hy
      exact Or.inr ⟨Under.refl d y, h.under_place hnot hup⟩
    · exact ih.imp (Under.of_parent hp) fun ⟨hx, hq⟩ => ⟨Under.of_parent hp hx, hq⟩

/-- **A change of place keeps the forest** if the node does not come to hang below itself. Every way
up either avoids the node and is as it was, or goes through it and on from the new place. -/
theorem Forest.moved (h : Forest d loose) (hmoved : Moved d d' x q) (hx : x < d.nodes.size)
    (hfirst : x ≠ fragmentId) (hroot : x ≠ rootId) (hq : q < d.nodes.size)
    (hfragment : q ≠ fragmentId) (hnot : ¬ d.Under q x)
    (hloose : ∀ f ∈ loose, f = x ∨ f ∈ loose') : Forest d' loose' where
  mem_children_iff {y p} := by
    rw [(hmoved.children p).mem_iff, hmoved.parent]
    by_cases hy : y = x
    · by_cases hp : p = q
      · simp [hy, hp]
      · simp [hy, hp, Ne.symm hp]
    · by_cases hp : p = q
      · simp [hy, hp, h.mem_children_iff]
      · simp [hy, hp, h.mem_children_iff]
  nodup_children p := by
    rw [(hmoved.children p).nodup_iff]
    have hrest := (h.nodup_children p).filter (· != x)
    split_ifs
    · exact List.nodup_cons.mpr ⟨by simp, hrest⟩
    · exact hrest
  parent_eq_fragment_iff {y} := by
    rw [hmoved.parent]
    split_ifs with hy
    · simp [hy, hroot, hfragment]
    · exact h.parent_eq_fragment_iff
  parent_fragment := by rw [hmoved.parent, if_neg (Ne.symm hfirst), h.parent_fragment]
  grounded y hy := by
    rw [size_eq hmoved.content] at hy
    -- a way up that does not meet the node is as it was
    have hkept : ∀ z < d.nodes.size, ¬ d.Under z x →
        ∃ a, d'.Under z a ∧ d'.parent? a = none ∧ (a = fragmentId ∨ a ∈ loose') := by
      intro z hz hzx
      obtain ⟨a, ha, hnone, hmem⟩ := h.grounded z hz
      have hne : a ≠ x := by
        rintro rfl
        exact hzx ha
      exact ⟨a, ha.congr_beside hzx hmoved.parent_of_ne, (hmoved.parent_of_ne a hne).trans hnone,
        hmem.imp_right fun hf => (hloose a hf).resolve_left hne⟩
    -- the new place does not stand below the node, so its own way up is as it was
    by_cases hyx : d.Under y x
    · obtain ⟨a, ha, htop⟩ := hkept q hq hnot
      have hup : d'.Under x a := Under.of_parent (by rw [hmoved.parent, if_pos rfl]) ha
      exact ⟨a, (hyx.congr_below hmoved.parent_of_ne).trans hup, htop⟩
    · exact hkept y hy hyx

/-- **A node that is detached is loose.** The ways up through it end at it. -/
theorem Forest.detach (h : Forest d loose) (hfirst : x ≠ fragmentId) (hroot : x ≠ rootId) :
    Forest (d.detach x) (x :: loose) where
  mem_children_iff {y p} := by
    rw [h.children_detach, parent?_detach, List.mem_filter, h.mem_children_iff, bne_iff_ne]
    split_ifs with hy
    · simp [hy]
    · simp [hy]
  nodup_children p := by
    rw [h.children_detach]
    exact (h.nodup_children p).filter _
  parent_eq_fragment_iff {y} := by
    rw [parent?_detach]
    split_ifs with hy
    · simp [hy, hroot]
    · exact h.parent_eq_fragment_iff
  parent_fragment := by rw [parent?_detach, if_neg (Ne.symm hfirst), h.parent_fragment]
  grounded y hy := by
    rw [size_detach] at hy
    have hsame : ∀ z : Nat, z ≠ x → (d.detach x).parent? z = d.parent? z := fun z hz => by
      rw [parent?_detach, if_neg hz]
    by_cases hyx : d.Under y x
    · exact ⟨x, hyx.congr_below hsame, by rw [parent?_detach, if_pos rfl],
        Or.inr List.mem_cons_self⟩
    · obtain ⟨a, ha, hnone, hmem⟩ := h.grounded y hy
      refine ⟨a, ha.congr_beside hyx hsame, ?_, hmem.imp_right (List.mem_cons_of_mem x)⟩
      rw [parent?_detach]
      split_ifs
      · rfl
      · exact hnone

end Moved

/-! ## Making a node -/

section Added

variable {loose : List NodeId}

/-- The nodes that were there are what they were. -/
theorem content?_add_of_lt (h : y < d.nodes.size) :
    (d.add content).2.content? y = d.content? y := by
  rw [content?_add, if_neg (Nat.ne_of_lt h)]

/-- The next number has no parent yet. -/
@[simp] theorem parent?_size (d : Document) : d.parent? d.nodes.size = none := by
  rw [parent?, node?, Array.getElem?_eq_none (Nat.le_refl _)]
  rfl

/-- What is made later has no part in what stands below what. -/
theorem Forest.under_iff_of_lt (h : Forest d loose)
    (hsame : ∀ z < d.nodes.size, d'.parent? z = d.parent? z) (hy : y < d.nodes.size) :
    d'.Under y a ↔ d.Under y a := by
  have hlt : ∀ {z}, d.Under y z → z < d.nodes.size := h.under_lt_size hy
  constructor
  · intro hup
    induction hup with
    | refl => exact Under.refl d y
    | tail _ hbc ih => exact ih.tail ((hsame _ (hlt ih)).symm.trans hbc)
  · exact fun hup => hup.congr fun z hz => hsame z (hlt hz)

/-- The root element is there. -/
theorem Forest.root_lt_size (h : Forest d loose) : rootId < d.nodes.size :=
  lt_size_of_parent? (h.parent_eq_fragment_iff.mpr rfl)

/-- **A new node is loose.** -/
theorem Forest.add (h : Forest d loose) (content : Content) :
    Forest (d.add content).2 (d.nodes.size :: loose) where
  mem_children_iff {x p} := by simpa using h.mem_children_iff
  nodup_children p := by simpa using h.nodup_children p
  parent_eq_fragment_iff {x} := by simpa using h.parent_eq_fragment_iff
  parent_fragment := by simpa using h.parent_fragment
  grounded y hy := by
    rw [size_add] at hy
    have hsame := fun (z : Nat) (_ : z < d.nodes.size) => parent?_add d content z
    -- a node that was there goes up as it did, and the new one is at the top already
    rcases Nat.lt_succ_iff_lt_or_eq.mp hy with hlt | rfl
    · obtain ⟨a, ha, hnone, hmem⟩ := h.grounded y hlt
      exact ⟨a, (h.under_iff_of_lt hsame hlt).mpr ha, by simpa using hnone,
        hmem.imp_right (List.mem_cons_of_mem _)⟩
    · exact ⟨_, Under.refl _ _, by simp, Or.inr List.mem_cons_self⟩

/-- An element has the number of the first node that is made for it. -/
@[simp] theorem addElement_fst (d : Document) (e : Element) :
    (d.addElement e).1 = d.nodes.size := by
  unfold addElement
  dsimp only
  split_ifs <;> rfl

/-- A template is an element with a fragment that is appended to it. -/
theorem addElement_snd (d : Document) (e : Element) :
    (d.addElement e).2 = if e.isTemplate then
      ((d.add (.element e)).2.add .fragment).2.append d.nodes.size (d.nodes.size + 1)
    else (d.add (.element e)).2 := by
  rw [← size_add d (.element e)]
  unfold addElement Element.isTemplate
  dsimp only
  split_ifs <;> rfl

theorem contents_add (d : Document) (content : Content) :
    (d.add content).2.contents = d.contents ++ [content] := by
  show (d.nodes.push { content }).toList.map _ = _
  rw [Array.toList_push, List.map_append]
  rfl

/-- What is made for an element stands behind all that was there. -/
theorem contents_addElement (d : Document) (e : Element) :
    (d.addElement e).2.contents
      = d.contents ++ .element e :: if e.isTemplate then [.fragment] else [] := by
  rw [addElement_snd]
  split_ifs with h
  · rw [contents_eq (content?_append _ _ _), contents_add, contents_add, List.append_assoc]
    rfl
  · rw [contents_add]

theorem size_addElement (d : Document) (e : Element) :
    (d.addElement e).2.nodes.size = d.nodes.size + if e.isTemplate then 2 else 1 := by
  rw [← length_contents, contents_addElement, List.length_append, length_contents]
  split_ifs <;> rfl

/-- So the nodes that were there are what they were. -/
theorem content?_addElement_of_lt (h : y < d.nodes.size) (e : Element) :
    (d.addElement e).2.content? y = d.content? y := by
  rw [← getElem?_contents, contents_addElement,
    List.getElem?_append_left (by rwa [length_contents]), getElem?_contents]

/-- The first node that is made is the element. -/
@[simp] theorem content?_addElement_self (d : Document) (e : Element) :
    (d.addElement e).2.content? d.nodes.size = some (.element e) := by
  rw [← getElem?_contents, contents_addElement, ← length_contents,
    List.getElem?_append_right (Nat.le_refl _), Nat.sub_self]
  rfl

/-- The nodes that were there hang where they did, and the next one nowhere. -/
theorem parent?_addElement_of_le (h : y ≤ d.nodes.size) (e : Element) :
    (d.addElement e).2.parent? y = d.parent? y := by
  rw [addElement_snd]
  split_ifs
  · rw [parent?_append (by simp), if_neg (by omega), parent?_add,
      parent?_add]
  · rw [parent?_add]

/-- The element hangs nowhere. -/
@[simp] theorem parent?_addElement_self (d : Document) (e : Element) :
    (d.addElement e).2.parent? d.nodes.size = none := by
  rw [parent?_addElement_of_le (Nat.le_refl _), parent?_size]

/-- The fragment of a template is no child of a node that was there. -/
theorem Forest.children_addElement (h : Forest d loose) (hy : y < d.nodes.size) (e : Element) :
    (d.addElement e).2.children y = d.children y := by
  rw [addElement_snd]
  split_ifs
  · have hforest := (h.add (.element e)).add .fragment
    rw [append_eq_hang, children_hang (by simp only [size_add]; omega),
      if_neg (Nat.ne_of_lt hy), hforest.children_detach, children_add, children_add,
      List.filter_eq_self.mpr fun z hz => ?_]
    have hlt := lt_size_of_parent? (h.mem_children_iff.mp hz)
    rw [bne_iff_ne]
    omega
  · rw [children_add]

/-- It is the only child of the template. -/
theorem Forest.children_addElement_template (h : Forest d loose) (he : e.isTemplate = true) :
    (d.addElement e).2.children d.nodes.size = [d.nodes.size + 1] := by
  have hforest := (h.add (.element e)).add .fragment
  rw [addElement_snd, if_pos he, append_eq_hang, children_hang (by simp only [size_add]; omega),
    if_pos rfl, hforest.children_detach, children_add, children_add, children, node?,
    Array.getElem?_eq_none (Nat.le_refl _)]
  rfl

/-- **An element is loose, with the fragment of a template below it.** -/
theorem Forest.addElement (h : Forest d loose) (e : Element) :
    Forest (d.addElement e).2 (d.nodes.size :: loose) := by
  rw [addElement_snd]
  split_ifs
  · have hforest := (h.add (.element e)).add .fragment
    have hfragment : (d.add (.element e)).2.nodes.size = d.nodes.size + 1 := size_add _ _
    have hsize : ((d.add (.element e)).2.add .fragment).2.nodes.size = d.nodes.size + 2 := by simp
    have hroot : 1 < d.nodes.size := h.root_lt_size
    rw [hfragment] at hforest
    refine hforest.moved (hforest.moved_append (by omega) (by omega)) (by omega)
      (show d.nodes.size + 1 ≠ 0 by omega) (show d.nodes.size + 1 ≠ 1 by omega) (by omega)
      (show d.nodes.size ≠ 0 by omega) (fun hup => ?_) fun f hf => List.mem_cons.mp hf
    have hnone : ((d.add (.element e)).2.add .fragment).2.parent? d.nodes.size = none := by simp
    have := hup.eq_of_loose hnone
    omega
  · exact h.add _

end Added

end Document

end TidyTable.Html
