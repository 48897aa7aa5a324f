import TidyTable.Proofs.Html.Splitting

/-!
# What every step of construction keeps

`Valid` says what holds of a document and what is open in it from the first token to the last. The
document is a tree and the open elements stand in it in line; and no value of an attribute comes
from anywhere but the tags. No step makes text either: the texts of the document, those that wait
and those that are still to come are never more than they were.
-/

namespace TidyTable.Html

/-- How many characters of text a content holds. -/
def Content.size : Content → Nat
  | .text s => s.length
  | _ => 0

namespace Document

variable {d d' : Document} {x y q : Nat} {content : Content} {e : Element}
  {loose line : List Nat}

/-- Whether a document is a forest depends on who hangs where only. -/
theorem Forest.congr (h : Forest d loose) (hparent : ∀ y, d'.parent? y = d.parent? y)
    (hchildren : ∀ y, d'.children y = d.children y) (hsize : d'.nodes.size = d.nodes.size) :
    Forest d' loose where
  mem_children_iff {x p} := by rw [hchildren, hparent, h.mem_children_iff]
  nodup_children p := by
    rw [hchildren]
    exact h.nodup_children p
  parent_eq_fragment_iff {x} := by rw [hparent, h.parent_eq_fragment_iff]
  parent_fragment := by rw [hparent, h.parent_fragment]
  grounded x hx := by
    obtain ⟨a, ha, hnone, hmem⟩ := h.grounded x (hsize ▸ hx)
    exact ⟨a, ha.congr fun y _ => hparent y, by rw [hparent, hnone], hmem⟩

/-- A new node that is no element changes nothing about the line. -/
theorem Arranged.add (h : Arranged d loose line)
    (hcontent : ∀ e, content = .element e → e.isTemplate = false) :
    Arranged (d.add content).2 (d.nodes.size :: loose) line where
  forest := h.forest.add content
  shaped := h.shaped.add h.forest hcontent
  ordered := by
    refine h.ordered.imp_of_mem fun {i o} _ ho hnot hup => hnot ?_
    exact (h.forest.under_iff_of_lt (fun z _ => parent?_add d content z) (h.lt_size ho)).mp hup
  elements y hy := by
    obtain ⟨e, he⟩ := h.elements y hy
    exact ⟨e, by rwa [element?_congr (content?_add_of_lt (lt_size_of_element? he))]⟩

/-! ## Attributes of the root element -/

/-- Attributes move no node. -/
@[simp] theorem parent?_addMissing (d : Document) (x : Nat) (as : List Attribute) (y : Nat) :
    (d.addMissing x as).parent? y = d.parent? y := by
  unfold parent? addMissing
  rw [node?_modify]
  split_ifs
  · cases d.node? y with
    | none => rfl
    | some n => cases hn : n.content <;> simp [hn]
  · rfl

@[simp] theorem children_addMissing (d : Document) (x : Nat) (as : List Attribute) (y : Nat) :
    (d.addMissing x as).children y = d.children y := by
  rw [children_eq, children_eq, addMissing, node?_modify]
  split_ifs
  · cases d.node? y with
    | none => rfl
    | some n => cases hn : n.content <;> simp [hn]
  · rfl

/-- An element keeps what it is and gets some of the attributes. -/
theorem content?_addMissing (d : Document) (x : Nat) (as : List Attribute) (y : Nat) :
    (d.addMissing x as).content? y = d.content? y ∨ ∃ e e', d.content? y = some (.element e) ∧
      (d.addMissing x as).content? y = some (.element e') ∧ e'.space = e.space ∧
        e'.name = e.name ∧ ∀ a ∈ e'.attributes, a ∈ e.attributes ∨ a ∈ as := by
  unfold content? addMissing
  rw [node?_modify]
  split_ifs
  · cases d.node? y with
    | none => exact Or.inl rfl
    | some n =>
      cases hn : n.content with
      | fragment => exact Or.inl (by simp [hn])
      | text s => exact Or.inl (by simp [hn])
      | element e =>
        refine Or.inr ⟨e, { e with attributes :=
          e.attributes ++ as.filter fun a => (e.attribute? a.name).isNone },
          by simp [hn], by simp [hn], rfl, rfl, fun a ha => ?_⟩
        rcases List.mem_append.mp ha with ha | ha
        · exact Or.inl ha
        · exact Or.inr (List.mem_of_mem_filter ha)
  · exact Or.inl rfl

/-- They add no text. -/
theorem sizes_addMissing (d : Document) (x : Nat) (as : List Attribute) :
    (d.addMissing x as).contents.map Content.size = d.contents.map Content.size := by
  refine List.ext_getElem? fun y => ?_
  rw [List.getElem?_map, List.getElem?_map, getElem?_contents, getElem?_contents]
  rcases content?_addMissing d x as y with hsame | ⟨e, e', he, he', -⟩
  · rw [hsame]
  · rw [he, he']
    rfl

@[simp] theorem size_addMissing (d : Document) (x : Nat) (as : List Attribute) :
    (d.addMissing x as).nodes.size = d.nodes.size :=
  Array.size_modify

/-- They leave space and name of an element as they are. -/
theorem element?_addMissing (x : Nat) (as : List Attribute) (h : d.element? y = some e) :
    ∃ e', (d.addMissing x as).element? y = some e' ∧ e'.space = e.space ∧ e'.name = e.name := by
  rw [element?_eq_some_iff] at h
  rcases content?_addMissing d x as y with hsame | ⟨e₁, e₂, he₁, he₂, hspace, hname, -⟩
  · exact ⟨e, by rw [element?_eq_some_iff, hsame, h], rfl, rfl⟩
  · rw [h] at he₁
    obtain rfl := Content.element.inj (Option.some.inj he₁)
    exact ⟨e₂, element?_eq_some_iff.mpr he₂, hspace, hname⟩

theorem Arranged.addMissing (h : Arranged d loose line) (x : Nat) (as : List Attribute) :
    Arranged (d.addMissing x as) loose line where
  forest := h.forest.congr (parent?_addMissing d x as) (children_addMissing d x as)
    (size_addMissing d x as)
  shaped :=
    { fragment := by
        rcases content?_addMissing d x as fragmentId with hsame | ⟨e, _, he, -⟩
        · rw [hsame, h.shaped.fragment]
        · rw [h.shaped.fragment] at he
          exact absurd he nofun
      root := by
        obtain ⟨e, he, hspace, hname⟩ := h.shaped.root
        obtain ⟨e', he', hspace', hname'⟩ := element?_addMissing x as (element?_eq_some_iff.mpr he)
        exact ⟨e', element?_eq_some_iff.mp he', hspace'.trans hspace, hname'.trans hname⟩
      template := by
        intro t e ht htemplate
        rw [element?_eq_some_iff] at ht
        have hold : ∃ e', d.element? t = some e' ∧ e'.isTemplate = true := by
          rcases content?_addMissing d x as t with hsame | ⟨e₁, e₂, he₁, he₂, hspace, hname, -⟩
          · exact ⟨e, element?_eq_some_iff.mpr (hsame ▸ ht), htemplate⟩
          · rw [ht] at he₂
            obtain rfl := Content.element.inj (Option.some.inj he₂)
            rw [Element.isTemplate, hspace, hname] at htemplate
            exact ⟨e₁, element?_eq_some_iff.mpr he₁, htemplate⟩
        obtain ⟨e', he', htemplate'⟩ := hold
        obtain ⟨f, rest, hchildren, hf⟩ := h.shaped.template he' htemplate'
        refine ⟨f, rest, by rw [children_addMissing, hchildren], ?_⟩
        rcases content?_addMissing d x as f with hsame | ⟨e₁, _, he₁, -⟩
        · rw [hsame, hf]
        · rw [hf] at he₁
          exact absurd he₁ nofun }
  ordered := by
    refine h.ordered.imp fun {i o} hnot hup => hnot ?_
    exact hup.congr fun y _ => (parent?_addMissing d x as y).symm
  elements y hy := by
    obtain ⟨e, he⟩ := h.elements y hy
    obtain ⟨e', he', -⟩ := element?_addMissing x as he
    exact ⟨e', he'⟩

end Document

namespace Construction

open Document

variable {P : String → Prop} {n n' : Nat} {b b' : Construction} {cs : List Char} {e : Element}
  {d d' : Document} {stack : List Open} {place : Place} {line : List Nat}

/-- A document under construction whose parts fit together, with nothing in its attributes that is
not allowed. -/
structure Valid (P : String → Prop) (b : Construction) : Prop where
  /-- The document is a forest, nothing in it is loose, and what is open stands in line. -/
  arranged : Arranged b.document [] (b.stack.map Open.id)
  /-- What is open is in the document as what it is taken for. -/
  isIn : ∀ o ∈ b.stack, o.IsIn b.document
  /-- Formatting that may be opened again has allowed attributes. -/
  tags : ∀ id tag, Formatting.element id tag ∈ b.formatting → tag.Fits P
  /-- So has every element. -/
  attributes : ∀ e, Content.element e ∈ b.document.contents → ∀ a ∈ e.attributes, P a.value

/-- Formatting in force has allowed attributes. -/
theorem Valid.inForce (h : Valid P b) {tag : Tag} (hforce : b.InForce tag) : tag.Fits P := by
  obtain ⟨id, hid⟩ := hforce
  exact h.tags id tag hid

/-! ## Putting a new node in its place -/

/-- A node that was just made can be put into any place near the open elements. -/
theorem arranged_put_new (hnear : Place.Near d stack place) (hforest : Forest d [])
    (hshaped : Shaped d) (hin : ∀ o ∈ stack, o.IsIn d)
    (hnew : Arranged d' [d.nodes.size] line) (hsize : d.nodes.size < d'.nodes.size)
    (hparent : ∀ y, y ≤ d.nodes.size → d'.parent? y = d.parent? y)
    (hcontent : ∀ y, y < d.nodes.size → d'.content? y = d.content? y)
    (hplain : d'.content? d.nodes.size ≠ some .fragment)
    (hline : line.Pairwise fun _ o => o < d.nodes.size) :
    Arranged (put d' d.nodes.size place) [] line := by
  obtain ⟨q, hholder, hq, hfragment, -⟩ := hnear.exists_holder hforest hshaped hin
  -- nothing that was there before stands below what is new
  have hunder : ∀ y, y < d.nodes.size → ¬ d'.Under y d.nodes.size := by
    intro y hy hup
    rw [hforest.under_iff_of_lt (fun z hz => hparent z (Nat.le_of_lt hz)) hy] at hup
    rcases Relation.ReflTransGen.cases_tail hup with heq | ⟨c, -, hc⟩
    · omega
    · have := hforest.parent_lt_size hc
      omega
  have hmark : ∀ s, place = .before s → s < d.nodes.size ∧ d.content? s ≠ some .fragment := by
    rintro s rfl
    cases hnear with
    | @before o ho =>
      obtain ⟨e, he, -⟩ := hin o ho
      refine ⟨lt_size_of_element? he, ?_⟩
      rw [element?_eq_some_iff.mp he]
      exact nofun
  have hholder' : place.holder? d' = some q := by
    cases place with
    | lastIn p => exact hholder
    | before s => exact (hparent s (Nat.le_of_lt (hmark s rfl).1)).trans hholder
  have hmoved : Moved d' (put d' d.nodes.size place) d.nodes.size q := by
    refine moved_put hnew.forest hsize (by omega) hholder' fun s hs => ?_
    obtain ⟨hlt, hs'⟩ := hmark s hs
    exact ⟨Nat.ne_of_lt hlt, by rwa [hcontent s hlt]⟩
  have hroot := hforest.root_lt_size
  refine hnew.moved hmoved hsize (Nat.ne_of_gt (Nat.zero_lt_of_lt hroot)) (Nat.ne_of_gt hroot)
    (by omega) hfragment (hunder q hq) (fun hcontent => absurd hcontent hplain)
    (fun f hf => Or.inl (List.mem_singleton.mp hf)) ?_
  refine hline.imp fun {i o} ho => ?_
  rintro ⟨hup, -⟩
  exact hunder o ho hup

/-- The place for content is near what is open. -/
theorem Valid.near (h : Valid P b) :
    Place.Near b.document b.stack (b.placeIn b.current) :=
  near_current b h.arranged.shaped

theorem Valid.stack_lt (h : Valid P b) : ∀ o ∈ b.stack.map Open.id, o < b.document.nodes.size :=
  fun _ ho => h.arranged.lt_size ho

/-- A text is added and put in the place for content. -/
theorem insertText_eq (b : Construction) (cs : List Char) :
    b.insertText cs = { b with
      document := put (b.document.add (.text (String.ofList cs))).2 b.document.nodes.size
        (b.placeIn b.current) } :=
  rfl

theorem content?_insertText (b : Construction) (cs : List Char) (y : Nat) :
    (b.insertText cs).document.content? y
      = (b.document.add (.text (String.ofList cs))).2.content? y :=
  content?_put _ _ _ y

/-- A text adds itself to the contents. -/
theorem contents_insertText (b : Construction) (cs : List Char) :
    (b.insertText cs).document.contents
      = b.document.contents ++ [.text (String.ofList cs)] := by
  rw [contents_eq (content?_insertText b cs), contents_add]

/-- An element adds itself, and a template its fragment too. -/
theorem contents_insertElement (b : Construction) (e : Element) :
    (b.insertElement e).document.contents
      = b.document.contents ++ .element e :: if e.isTemplate then [.fragment] else [] := by
  rw [← contents_addElement]
  exact contents_eq (content?_put _ _ _)

/-- A text keeps a construction valid: it hangs near what is open, and nothing hangs below it. -/
theorem Valid.insertText (h : Valid P b) (cs : List Char) : Valid P (b.insertText cs) where
  arranged := by
    have hnew : Arranged (b.document.add (.text (String.ofList cs))).2 [b.document.nodes.size]
        (b.stack.map Open.id) := h.arranged.add nofun
    rw [insertText_eq]
    refine arranged_put_new h.near h.arranged.forest h.arranged.shaped h.isIn hnew
      (by simp) (fun y _ => parent?_add _ _ y) (fun y hy => content?_add_of_lt hy)
      ?_ (List.pairwise_of_forall_mem_list fun _ _ o ho => h.stack_lt o ho)
    rw [content?_add, if_pos rfl]
    exact nofun
  isIn o ho := by
    obtain ⟨e, he, hname⟩ := h.isIn o ho
    refine ⟨e, ?_, hname⟩
    rw [element?_congr (content?_insertText b cs o.id),
      element?_congr (content?_add_of_lt (lt_size_of_element? he)), he]
  tags := h.tags
  attributes e he := by
    rw [contents_insertText] at he
    rcases List.mem_append.mp he with he | he
    · exact h.attributes e he
    · exact absurd (List.mem_singleton.mp he) nofun

/-- So does an element, which becomes the innermost one of the line. -/
theorem Valid.insertElement (h : Valid P b) (he : ∀ a ∈ e.attributes, P a.value) :
    Valid P (b.insertElement e) where
  arranged := by
    have hnew : Arranged (b.document.addElement e).2 [b.document.nodes.size]
        ([] ++ b.document.nodes.size :: b.stack.map Open.id) :=
      Arranged.addElement h.arranged e
    have hline : (b.document.nodes.size :: b.stack.map Open.id).Pairwise
        fun _ o => o < b.document.nodes.size :=
      List.pairwise_cons.mpr ⟨h.stack_lt,
        List.pairwise_of_forall_mem_list fun _ _ o ho => h.stack_lt o ho⟩
    rw [insertElement_eq]
    refine arranged_put_new h.near h.arranged.forest h.arranged.shaped h.isIn hnew ?_
      (fun y hy => parent?_addElement_of_le hy e) (fun y hy => content?_addElement_of_lt hy e) ?_
      hline
    · rw [size_addElement]
      split_ifs <;> omega
    · rw [content?_addElement_self]
      exact nofun
  isIn o ho := by
    rw [insertElement_eq] at ho
    rcases List.mem_cons.mp ho with rfl | ho
    · refine ⟨e, ?_, rfl, rfl⟩
      have hcurrent := element?_current_insertElement b e
      rw [insertElement_eq] at hcurrent ⊢
      exact hcurrent
    · obtain ⟨e', he', hname⟩ := h.isIn o ho
      exact ⟨e', element?_insertElement b e he', hname⟩
  tags := h.tags
  attributes e' he' := by
    rw [contents_insertElement] at he'
    rcases List.mem_append.mp he' with he' | he'
    · exact h.attributes e' he'
    · rcases List.mem_cons.mp he' with heq | he'
      · rw [Content.element.inj heq]
        exact he
      · split_ifs at he'
        · exact absurd (List.mem_singleton.mp he') nofun
        · exact absurd he' List.not_mem_nil

/-! ## One step -/

/-- **Every step keeps a construction valid.** -/
theorem Step.valid (h : Step P (n, b) (n', b')) (hb : Valid P b) : Valid P b' := by
  cases h with
  | keep hn hdocument hpending hstack hformatting =>
    refine ⟨?_, ?_, ?_, ?_⟩
    · rw [hdocument]
      exact hb.arranged.sublist (hstack.map Open.id)
    · intro o ho
      rw [hdocument]
      exact hb.isIn o (hstack.subset ho)
    · intro id tag hf
      rcases hformatting _ hf with hf | hf | ⟨id', tag', heq, ⟨hfits, -⟩ | hforce, -⟩
      · exact hb.tags id tag hf
      · exact absurd hf nofun
      · rw [(Formatting.element.inj heq).2]
        exact hfits
      · rw [(Formatting.element.inj heq).2]
        exact hb.inForce hforce
    · rw [hdocument]
      exact hb.attributes
  | text n b cs => exact hb.insertText cs
  | wait n b cs => exact ⟨hb.arranged, hb.isIn, hb.tags, hb.attributes⟩
  | settle n b => exact ⟨hb.arranged, hb.isIn, hb.tags, hb.attributes⟩
  | element n b he =>
    refine hb.insertElement ?_
    rcases he with he | ⟨tag, hforce, rfl⟩
    · exact he
    · exact hb.inForce hforce
  | attributes n b has =>
    refine ⟨hb.arranged.addMissing _ _, ?_, hb.tags, ?_⟩
    · intro o ho
      obtain ⟨e, he, hspace, hname⟩ := hb.isIn o ho
      obtain ⟨e', he', hspace', hname'⟩ := element?_addMissing rootId _ he
      exact ⟨e', he', hspace'.trans hspace, hname'.trans hname⟩
    · intro e he
      obtain ⟨x, hx⟩ := List.getElem?_of_mem he
      rw [getElem?_contents] at hx
      -- every value of the new attributes was there, or comes from the tag
      have hold : ∀ e, b.document.content? x = some (.element e) →
          ∀ a ∈ e.attributes, P a.value := by
        intro e he
        rw [← getElem?_contents] at he
        exact hb.attributes e (List.mem_of_getElem? he)
      rcases content?_addMissing b.document rootId _ x with hsame | ⟨e₁, e₂, he₁, he₂, -, -, hall⟩
      · exact hold e (hsame ▸ hx)
      · rw [hx] at he₂
        obtain rfl := Content.element.inj (Option.some.inj he₂)
        intro a ha
        rcases hall a ha with ha | ha
        · exact hold e₁ he₁ a ha
        · exact has a ha
  | split n b hstack hentry hblock hborder =>
    obtain ⟨harranged, hin, ⟨new, hcontents, hnew⟩, hformatting⟩ :=
      splitAround_spec hb.arranged hb.isIn hstack hentry hborder
    refine ⟨harranged, hin, fun id tag hf => hb.inForce (hformatting id tag hf), fun e he => ?_⟩
    rw [hcontents] at he
    rcases List.mem_append.mp he with he | he
    · exact hb.attributes e he
    · rcases hnew _ he with heq | ⟨tag, hforce, heq⟩
      · exact absurd heq nofun
      · rw [Content.element.inj heq]
        exact hb.inForce hforce

/-- How many characters of text there are in a construction: those of the document and those that
wait. -/
def textSize (b : Construction) : Nat :=
  (b.document.contents.map Content.size).sum + (b.pending.map List.length).sum

/-- **No step makes text.** -/
theorem Step.textSize_le (h : Step P (n, b) (n', b')) (hb : Valid P b) :
    n' + b'.textSize ≤ n + b.textSize := by
  unfold textSize
  cases h with
  | keep hn hdocument hpending hstack hformatting =>
    rw [hdocument, hpending]
    omega
  | text n b cs =>
    rw [contents_insertText]
    have hpending : (b.insertText cs).pending = b.pending := rfl
    simp only [hpending, List.map_append, List.sum_append, List.map_cons, List.map_nil,
      List.sum_cons, List.sum_nil, Content.size, String.length_ofList]
    omega
  | wait n b cs =>
    simp only [List.map_cons, List.sum_cons]
    omega
  | settle n b =>
    simp only [List.map_nil, List.sum_nil]
    omega
  | element n b he =>
    rw [contents_insertElement]
    have hpending : ∀ e, (b.insertElement e).pending = b.pending := fun _ => rfl
    simp only [hpending, List.map_append, List.sum_append]
    split_ifs <;> simp [Content.size]
  | attributes n b has =>
    rw [sizes_addMissing]
  | split n b hstack hentry hblock hborder =>
    obtain ⟨-, -, ⟨new, hcontents, hnew⟩, -⟩ :=
      splitAround_spec hb.arranged hb.isIn hstack hentry hborder
    -- a split makes elements and fragments, but no text
    have hzero : (new.map Content.size).sum = 0 := by
      rw [List.sum_eq_zero_iff_forall_eq_nat]
      intro k hk
      obtain ⟨c, hc, rfl⟩ := List.mem_map.mp hk
      rcases hnew c hc with rfl | ⟨tag, -, rfl⟩ <;> rfl
    rw [hcontents, splitAround_pending, List.map_append, List.sum_append, hzero, Nat.add_zero]

/-- **Whatever construction leads to is valid**, and has no more text than there was to come. -/
theorem Leads.sound {s s' : Nat × Construction} (h : Leads P s s') (hvalid : Valid P s.2) :
    Valid P s'.2 ∧ s'.1 + s'.2.textSize ≤ s.1 + s.2.textSize := by
  induction h with
  | refl => exact ⟨hvalid, Nat.le_refl _⟩
  | tail _ hstep ih => exact ⟨hstep.valid ih.1, (hstep.textSize_le ih.1).trans ih.2⟩

/-- In the document that construction begins with, only the root element hangs somewhere. -/
theorem parent?_empty (x : Nat) :
    Document.empty.parent? x = if x = rootId then some fragmentId else none := by
  match x with
  | 0 => rfl
  | 1 => rfl
  | x + 2 => simp [parent?, node?, Document.empty, rootId]

theorem children_empty (x : Nat) :
    Document.empty.children x = if x = fragmentId then [rootId] else [] := by
  match x with
  | 0 => rfl
  | 1 => rfl
  | x + 2 => simp [children, node?, Document.empty, fragmentId]

/-- This is a forest of one way. -/
theorem forest_empty : Forest Document.empty [] where
  mem_children_iff {x p} := by
    rw [children_empty, parent?_empty]
    by_cases hp : p = fragmentId <;> by_cases hx : x = rootId <;> simp [hp, hx, eq_comm]
  nodup_children p := by
    rw [children_empty]
    split_ifs <;> simp
  parent_eq_fragment_iff {x} := by
    rw [parent?_empty]
    split_ifs with hx <;> simp [hx]
  parent_fragment := rfl
  grounded x hx := by
    refine ⟨fragmentId, ?_, rfl, Or.inl rfl⟩
    match x with
    | 0 => exact Under.refl _ _
    | 1 => exact Under.of_parent (parent?_empty 1) (Under.refl _ _)
    | x + 2 => exact absurd hx (by simp [Document.empty])

theorem shaped_empty : Shaped Document.empty where
  fragment := rfl
  root := ⟨_, rfl, rfl, rfl⟩
  template {t e} ht htemplate := by
    match t with
    | 0 => exact absurd ht nofun
    | 1 =>
      obtain rfl := Option.some.inj ht
      exact absurd htemplate (by decide)
    | t + 2 => exact absurd (lt_size_of_element? ht) (by simp [Document.empty])

/-- What construction begins with is valid. -/
theorem valid_start (P : String → Prop) : Valid P {} where
  arranged :=
    { forest := forest_empty
      shaped := shaped_empty
      ordered := List.pairwise_singleton _ _
      elements := by
        intro x hx
        obtain rfl := List.mem_singleton.mp hx
        exact ⟨_, rfl⟩ }
  isIn o ho := by
    rw [List.mem_singleton.mp ho]
    exact ⟨_, rfl, rfl, rfl⟩
  tags _ _ hf := absurd hf List.not_mem_nil
  attributes e he := by
    have hhtml : e = { name := "html" } := by
      simpa [contents, Document.empty] using he
    rw [hhtml]
    exact fun _ ha => absurd ha List.not_mem_nil

end Construction

end TidyTable.Html
