import Mathlib.Algebra.Ring.Nat
import Mathlib.Data.List.TakeWhile
import Mathlib.Logic.Relation
import TidyTable.Html.Construction.Formatting
import TidyTable.Proofs.Html.Arrangement

/-!
# The steps that construction is made of

The rules of construction are many, but there are few things that they do to a document and to what
is open in it. `Step` lists them: a text is put in its place or has to wait, an element is added and
opened, elements are closed, formatting is taken note of or forgotten, and the formatting around a
block is split. Whatever every step keeps, all of construction keeps.

A step also says how many characters of text there are still to come. No rule makes a text of its
own, so this number and the texts that are there already bound the text of the document.
-/

namespace TidyTable.Html

/-- The names of the elements that are formatting. -/
def formattingTags : List String := "a" :: "nobr" :: formattingNames

/-- The element of a start tag. -/
def Tag.element (tag : Tag) : Element := { name := tag.name, attributes := tag.attributes }

/-- Whether the values of all attributes of a tag are allowed. -/
def Tag.Fits (P : String → Prop) (tag : Tag) : Prop := ∀ a ∈ tag.attributes, P a.value

namespace Construction

/-- Whether formatting is in force for a tag, so that it can be opened again. -/
def InForce (b : Construction) (tag : Tag) : Prop := ∃ id, Formatting.element id tag ∈ b.formatting

/-- An entry of formatting for an element that is in the document. -/
def Notes (P : String → Prop) (b : Construction) (f : Formatting) : Prop :=
  f = .marker ∨ ∃ id tag, f = .element id tag ∧
    ((tag.Fits P ∧ tag.name ∈ formattingTags) ∨ b.InForce tag) ∧
    ∃ e, b.document.element? id = some e ∧ e.space = .html ∧ e.name = tag.name

/-- What construction does at a time, with the number of characters that are to come. -/
inductive Step (P : String → Prop) : Nat × Construction → Nat × Construction → Prop where
  /-- Elements are closed, and formatting is noted or forgotten; nothing is added. -/
  | keep {n n' : Nat} {b b' : Construction} (hn : n' ≤ n)
      (hdocument : b'.document = b.document) (hpending : b'.pending = b.pending)
      (hstack : b'.stack.Sublist b.stack)
      (hformatting : ∀ f ∈ b'.formatting, f ∈ b.formatting ∨ b.Notes P f) :
      Step P (n, b) (n', b')
  /-- A text is put in its place; it was still to come. -/
  | text (n : Nat) (b : Construction) (cs : List Char) :
      Step P (n + cs.length, b) (n, b.insertText cs)
  /-- Text in a table waits until it is known whether it is blank. -/
  | wait (n : Nat) (b : Construction) (cs : List Char) :
      Step P (n + cs.length, b) (n, { b with pending := cs :: b.pending })
  /-- What waited is to come again, since it is put somewhere now. -/
  | settle (n : Nat) (b : Construction) :
      Step P (n, b) (n + (b.pending.map List.length).sum, { b with pending := [] })
  /-- An element is added and opened, with allowed attributes or those of formatting in force. -/
  | element (n : Nat) (b : Construction) {e : Element}
      (he : (∀ a ∈ e.attributes, P a.value) ∨ ∃ tag, b.InForce tag ∧ e = tag.element) :
      Step P (n, b) (n, b.insertElement e)
  /-- The root element gets the attributes that it does not have yet. -/
  | attributes (n : Nat) (b : Construction) {as : List Attribute} (has : ∀ a ∈ as, P a.value) :
      Step P (n, b) (n, { b with document := b.document.addMissing Document.rootId as })
  /-- A block leaves the formatting around it, which is opened again inside of the block. -/
  | split (n : Nat) (b : Construction) {inner between outer : List Open}
      {block formatted ancestor : Open} {tag : Tag}
      (hstack : b.stack = inner ++ block :: (between ++ formatted :: ancestor :: outer))
      (hentry : Formatting.element formatted.id tag ∈ b.formatting)
      (hblock : block.named special = true)
      (hborder : ∀ o ∈ inner ++ block :: between, endsGeneralScope o = false) :
      Step P (n, b) (n, b.splitAround formatted.id tag block inner between ancestor outer)

/-- What steps lead to. -/
def Leads (P : String → Prop) : Nat × Construction → Nat × Construction → Prop :=
  Relation.ReflTransGen (Step P)

variable {P : String → Prop} {n n' : Nat} {b b' : Construction} {tag : Tag}
  {s s' s'' : Nat × Construction}

namespace Leads

/-- No step is needed to stay. -/
theorem refl (s : Nat × Construction) : Leads P s s := Relation.ReflTransGen.refl

/-- Steps can follow steps. -/
theorem trans (h : Leads P s s') (h' : Leads P s' s'') : Leads P s s'' :=
  Relation.ReflTransGen.trans h h'

theorem single (h : Step P s s') : Leads P s s' := Relation.ReflTransGen.single h

/-- Elements are closed, and formatting is forgotten. -/
theorem close (h : Leads P s (n, b)) (hdocument : b'.document = b.document)
    (hpending : b'.pending = b.pending) (hstack : b'.stack.Sublist b.stack)
    (hformatting : b'.formatting ⊆ b.formatting) : Leads P s (n, b') :=
  h.tail (.keep (Nat.le_refl n) hdocument hpending hstack fun _ hf => Or.inl (hformatting hf))

/-- Modes and notes do not count. -/
theorem same (h : Leads P s (n, b)) (hdocument : b'.document = b.document)
    (hpending : b'.pending = b.pending) (hstack : b'.stack = b.stack)
    (hformatting : b'.formatting = b.formatting) : Leads P s (n, b') :=
  h.close hdocument hpending (hstack ▸ List.Sublist.refl _) (hformatting ▸ List.Subset.refl _)

/-- Text that was to come may be dropped. -/
theorem spend (h : Leads P s (n, b)) (hn : n' ≤ n) : Leads P s (n', b) :=
  h.tail (.keep hn rfl rfl (List.Sublist.refl _) fun _ hf => Or.inl hf)

end Leads

/-! ## Closing elements -/

/-- Whatever closes elements, and does nothing else, is a step. -/
theorem leads_stack (b : Construction) {stack : List Open} (h : stack.Sublist b.stack) :
    Leads P (n, b) (n, { b with stack }) :=
  (Leads.refl _).close rfl rfl h (List.Subset.refl _)

theorem leads_pop (b : Construction) : Leads P (n, b) (n, b.pop) :=
  leads_stack b (List.drop_sublist 1 _)

theorem leads_popThrough (b : Construction) (names : List String) :
    Leads P (n, b) (n, b.popThrough names) :=
  leads_stack b ((List.drop_sublist 1 _).trans (List.dropWhile_sublist _))

theorem leads_popTo (b : Construction) (names : List String) :
    Leads P (n, b) (n, b.popTo names) :=
  leads_stack b (List.dropWhile_sublist _)

theorem leads_popImplied (b : Construction) (names : List String) :
    Leads P (n, b) (n, b.popImplied names) :=
  leads_stack b (List.dropWhile_sublist _)

theorem leads_closeImplied (b : Construction) : Leads P (n, b) (n, b.closeImplied) :=
  leads_popImplied b endsImplied

theorem leads_closeImpliedExcept (b : Construction) (names : List String) :
    Leads P (n, b) (n, b.closeImpliedExcept names) :=
  leads_popImplied b _

/-- The end of a paragraph closes what it implies and then the paragraph, if one is open. -/
theorem leads_endParagraph (b : Construction) : Leads P (n, b) (n, b.endParagraph) := by
  unfold endParagraph
  split_ifs
  · exact (leads_closeImpliedExcept b _).trans (leads_popThrough _ _)
  · exact Leads.refl _

theorem leads_forget (b : Construction) (id : NodeId) : Leads P (n, b) (n, b.forget id) :=
  leads_stack b List.filter_sublist

/-- An end tag closes down to the element of its name, if no border stands between. -/
theorem leads_closeNamed (b : Construction) (name : String) :
    Leads P (n, b) (n, b.closeNamed name) := by
  unfold closeNamed
  split
  · split_ifs
    · exact leads_stack b ((List.drop_sublist 1 _).trans (List.dropWhile_sublist _))
    · exact Leads.refl _
  · exact Leads.refl _

/-- The mode is no part of what a step is about. -/
theorem leads_resetMode (b : Construction) : Leads P (n, b) (n, b.resetMode) :=
  (Leads.refl _).same rfl rfl rfl rfl

/-! ## Adding elements -/

/-- The element of a tag is added with the attributes of the tag. -/
theorem leads_insert (b : Construction) (h : tag.Fits P) : Leads P (n, b) (n, b.insert tag) :=
  .single (.element n b (e := tag.element) (Or.inl h))

/-- A tag without attributes has only allowed ones. -/
theorem fits_nil (name : String) (closing : Bool) :
    Tag.Fits P { name, selfClosing := closing } :=
  fun _ ha => absurd ha List.not_mem_nil

theorem leads_insertPhantom (b : Construction) (name : String) :
    Leads P (n, b) (n, b.insertPhantom name) :=
  leads_insert b (fits_nil name false)

/-- An element without content is opened and closed at once. -/
theorem leads_insertVoid (b : Construction) (h : tag.Fits P) :
    Leads P (n, b) (n, b.insertVoid tag) :=
  (leads_insert b h).trans (leads_pop _)

theorem leads_insertRaw (b : Construction) (kind : RawKind) (h : tag.Fits P) :
    Leads P (n, b) (n, b.insertRaw kind tag) :=
  (leads_insert b h).same rfl rfl rfl rfl

/-- An element is added, put in the place for content, and opened; nothing else changes. -/
theorem insertElement_eq (b : Construction) (e : Element) :
    b.insertElement e = { b with
      document := put (b.document.addElement e).2 b.document.nodes.size (b.placeIn b.current)
      stack := { id := b.document.nodes.size, space := e.space, name := e.name } :: b.stack } := by
  rw [← Document.addElement_fst b.document e]
  rfl

/-- Putting a node somewhere does not change what any node is. -/
@[simp] theorem content?_put (d : Document) (x : Nat) (place : Place) (y : Nat) :
    (put d x place).content? y = d.content? y := by
  cases place with
  | lastIn p => exact Document.content?_append d p x y
  | before mark =>
    show (d.insertBefore mark x).content? y = _
    cases hparent : (d.detach x).parent? mark with
    -- nothing is inserted before a node that hangs nowhere
    | none =>
      unfold Document.insertBefore
      dsimp only
      rw [hparent]
      exact Document.content?_detach d x y
    | some p => rw [Document.insertBefore_eq_hang hparent, Document.content?_hang]

/-- The element that was added last is open. -/
theorem element?_current_insertElement (b : Construction) (e : Element) :
    (b.insertElement e).document.element? (b.insertElement e).current.id = some e := by
  rw [insertElement_eq, Document.element?_eq_some_iff]
  show (put _ _ _).content? b.document.nodes.size = _
  rw [content?_put, Document.content?_addElement_self]

/-- An element that is there stays what it is. -/
theorem element?_insertElement {x : Nat} {e' : Element} (b : Construction) (e : Element)
    (h : b.document.element? x = some e') :
    (b.insertElement e).document.element? x = some e' := by
  rw [insertElement_eq, Document.element?_eq_some_iff]
  show (put _ _ _).content? x = _
  rw [content?_put, Document.content?_addElement_of_lt (Document.lt_size_of_element? h),
    Document.element?_eq_some_iff.mp h]

/-! ## Formatting -/

/-- A marker is an entry of its own kind, for no element. -/
theorem leads_pushMarker (b : Construction) : Leads P (n, b) (n, b.pushMarker) := by
  refine .single (.keep (Nat.le_refl n) rfl rfl (List.Sublist.refl _) fun f hf => ?_)
  rcases List.mem_cons.mp hf with rfl | hf
  · exact Or.inr (Or.inl rfl)
  · exact Or.inl hf

/-- Formatting inside of a marker is forgotten with the marker. -/
theorem leads_clearToMarker (b : Construction) : Leads P (n, b) (n, b.clearToMarker) :=
  (Leads.refl _).close rfl rfl (List.Sublist.refl _)
    ((List.drop_sublist 1 _).trans (List.dropWhile_sublist _)).subset

theorem leads_unformat (b : Construction) (id : NodeId) : Leads P (n, b) (n, b.unformat id) :=
  (Leads.refl _).close rfl rfl (List.Sublist.refl _) List.filter_sublist.subset

/-- At most an old entry goes when a new one of the same kind comes. -/
theorem makeRoom_subset (tag : Tag) (entries : List Formatting) :
    Formatting.makeRoom tag entries ⊆ entries := by
  unfold Formatting.makeRoom
  dsimp only
  split
  · split_ifs
    · exact List.erase_subset
    · exact List.Subset.refl _
  · exact List.Subset.refl _

/-- Formatting is opened, and an entry is made for the element. -/
theorem leads_insertFormatting (b : Construction) (h : tag.Fits P)
    (hname : tag.name ∈ formattingTags) : Leads P (n, b) (n, b.insertFormatting tag) := by
  have hroom : Leads P (n, b) (n, { b with formatting := Formatting.makeRoom tag b.formatting }) :=
    (Leads.refl _).close rfl rfl (List.Sublist.refl _) (makeRoom_subset tag _)
  refine (hroom.trans (leads_insert _ h)).tail ?_
  refine .keep (Nat.le_refl n) rfl rfl (List.Sublist.refl _) fun f hf => ?_
  rcases List.mem_cons.mp hf with rfl | hf
  · exact Or.inr (Or.inr ⟨_, tag, rfl, Or.inl ⟨h, hname⟩, tag.element,
      element?_current_insertElement _ tag.element, rfl, rfl⟩)
  · exact Or.inl hf

/-- Formatting that is opened again comes from an entry that is still there. -/
theorem leads_reopen (b : Construction) : ∀ entries : List Formatting, entries ⊆ b.formatting →
    Leads P (n, b) (n, (b.reopen entries).1) ∧ (b.reopen entries).1.formatting = b.formatting ∧
      ∀ f ∈ (b.reopen entries).2, (b.reopen entries).1.Notes P f
  | [], _ => ⟨Leads.refl _, rfl, fun _ hf => absurd hf List.not_mem_nil⟩
  | .marker :: rest, h => leads_reopen b rest fun _ hf => h (List.mem_cons_of_mem _ hf)
  | .element id tag :: rest, h => by
      obtain ⟨hleads, hformatting, hnotes⟩ :=
        leads_reopen b rest fun _ hf => h (List.mem_cons_of_mem _ hf)
      have hforce : ∀ {tag}, b.InForce tag → (b.reopen rest).1.InForce tag := by
        intro tag hforce
        rwa [InForce, hformatting]
      have htag : (b.reopen rest).1.InForce tag := hforce ⟨id, h List.mem_cons_self⟩
      refine ⟨hleads.tail (.element n _ (Or.inr ⟨tag, htag, rfl⟩)), hformatting, fun f hf => ?_⟩
      rcases List.mem_cons.mp hf with rfl | hf
      · exact Or.inr ⟨_, tag, rfl, Or.inr htag, tag.element,
          element?_current_insertElement _ tag.element, rfl, rfl⟩
      · rcases hnotes f hf with rfl | ⟨id', tag', rfl, horigin, e, he, hspace, hname⟩
        · exact Or.inl rfl
        · exact Or.inr ⟨id', tag', rfl, horigin, e, element?_insertElement _ tag.element he, hspace,
            hname⟩

/-- Formatting that is noted but not open is opened again. -/
theorem leads_reconstruct (b : Construction) : Leads P (n, b) (n, b.reconstruct) := by
  obtain ⟨hleads, hformatting, hnotes⟩ := leads_reopen (P := P) (n := n) b
    (b.formatting.takeWhile (!b.isSettled ·)) (List.takeWhile_sublist _).subset
  refine hleads.tail (.keep (Nat.le_refl n) rfl rfl (List.Sublist.refl _) fun f hf => ?_)
  rcases List.mem_append.mp hf with hf | hf
  · exact Or.inr (hnotes f hf)
  · rw [hformatting]
    exact Or.inl ((List.dropWhile_sublist _).subset hf)

/-- What is inside of something that can be seen ends no scope. -/
theorem endsAt_of_sees {scope : Scope} {p : Open → Bool} {inner rest : List Open}
    (hsees : scope.sees p (inner ++ rest) = true) (h : ∀ o ∈ inner, p o = false) :
    ∀ o ∈ inner, scope.endsAt o = false := by
  induction inner with
  | nil => exact fun _ ho => absurd ho List.not_mem_nil
  | cons o inner ih =>
    rw [List.cons_append, Scope.sees, h o List.mem_cons_self, Bool.false_or, Bool.and_eq_true,
      Bool.not_eq_true'] at hsees
    intro o' ho'
    rcases List.mem_cons.mp ho' with rfl | ho'
    · exact hsees.1
    · exact ih hsees.2 (fun o ho => h o (List.mem_cons_of_mem _ ho)) o' ho'

/-- The first element that `dropWhile` leaves does not pass. -/
theorem of_dropWhile_eq_cons {α : Type} {p : α → Bool} {l rest : List α} {x : α}
    (h : l.dropWhile p = x :: rest) : p x = false := by
  have hhead := List.head?_dropWhile_not p l
  rw [h] at hhead
  exact hhead

/-- **The end of formatting is one step.** The cases are those of the standard: the formatting is
not in force, is closed already, cannot be seen, has no block inside of it, or has one, around which
it is split. -/
theorem leads_endFormattingOnce (b : Construction) (name : String) :
    Leads P (n, b) (n, (b.endFormattingOnce name).2) := by
  unfold endFormattingOnce
  split
  · rename_i id tag hfind
    have hentry : Formatting.element id tag ∈ b.formatting :=
      (List.takeWhile_sublist _).subset (List.mem_of_find?_eq_some hfind)
    dsimp only
    split
    -- the element was closed long ago, and only its entry is left
    · exact leads_unformat b id
    · rename_i formatted around hdrop
      have hstack : b.stack = b.stack.takeWhile (·.id != id) ++ formatted :: around := by
        rw [← hdrop, List.takeWhile_append_dropWhile]
      have hid : formatted.id = id := by simpa using of_dropWhile_eq_cons hdrop
      have hinside : ∀ o ∈ b.stack.takeWhile (·.id != id), (o.id == id) = false := by
        intro o ho
        simpa using List.mem_takeWhile_imp ho
      generalize b.stack.takeWhile (·.id != id) = inside at hstack hinside
      split_ifs with hsees
      · exact Leads.refl _
      · split
        -- without a block inside, everything up to the formatting is closed
        · refine (Leads.refl _).close rfl rfl ?_ List.filter_sublist.subset
          rw [hstack]
          exact (List.sublist_cons_self _ _).trans (List.sublist_append_right _ _)
        · exact Leads.refl _
        · rename_i block blocks ancestor outer hblock
          -- from the innermost element on: those inside the block, the block, those around it
          have hreverse := List.takeWhile_append_dropWhile (p := (!Open.named · special))
            (l := inside.reverse)
          rw [hblock] at hreverse
          generalize inside.reverse.takeWhile (!Open.named · special) = front at hreverse ⊢
          have hsplit : inside = blocks.reverse ++ block :: front.reverse := by
            rw [← List.reverse_reverse inside, ← hreverse]
            simp
          have hborder : ∀ o ∈ inside, endsGeneralScope o = false := by
            rw [Bool.not_eq_true', Bool.not_eq_false, hstack] at hsees
            exact endsAt_of_sees hsees hinside
          have hspecial : block.named special = true := by
            simpa using of_dropWhile_eq_cons hblock
          subst hid
          refine .single (.split n b ?_ hentry hspecial ?_)
          · rw [hstack, hsplit, List.append_assoc, List.cons_append]
          · rw [← hsplit]
            exact hborder
  · exact leads_closeNamed b name

/-- It is done again as long as it is asked for. -/
theorem leads_endFormattingTimes (name : String) : ∀ (times : Nat) (b : Construction),
    Leads P (n, b) (n, endFormattingTimes name times b)
  | 0, b => Leads.refl _
  | times + 1, b => by
      have honce := leads_endFormattingOnce (P := P) (n := n) b name
      unfold endFormattingTimes
      split
      · rename_i b' heq
        rw [heq] at honce
        exact honce.trans (leads_endFormattingTimes name times b')
      · rename_i b' heq
        rw [heq] at honce
        exact honce

theorem leads_endFormatting (b : Construction) (name : String) :
    Leads P (n, b) (n, b.endFormatting name) := by
  unfold endFormatting
  dsimp only
  split_ifs
  · exact leads_pop b
  · exact leads_endFormattingTimes name endLimit b

theorem leads_endOuterLink (b : Construction) : Leads P (n, b) (n, b.endOuterLink) := by
  unfold endOuterLink
  split
  · exact ((leads_endFormatting b _).trans (leads_unformat _ _)).trans (leads_forget _ _)
  · exact Leads.refl _

end Construction

end TidyTable.Html
