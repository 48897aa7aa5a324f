import TidyTable.Proofs.Html.Order
import TidyTable.Proofs.Html.Written

/-!
# Well nested markup

Markup in which every element is closed where its content ends says what its document is. Reading it
makes the elements and the texts in the order in which they are written, and closes each element
where it was meant to end. Nothing is opened again and nothing is put elsewhere, because the
elements here are no formatting and no parts of a table. So the text of the document is what was
written as text, and its elements are those that were written, in this order.

The proof is an induction on the markup. A piece of text waits until a tag comes, since two pieces
side by side are read as one.
-/

namespace TidyTable.Html

/-- Pieces of text and elements, one behind the other. -/
inductive Nested where
  | done
  | piece (text : { s : String // IsPlainText s }) (rest : Nested)
  | element (kind : Container) (attributes : Attributes) (content rest : Nested)

namespace Nested

/-- How markup is written. -/
def write : Nested → List Char
  | done => []
  | piece text rest => escape text.val.toList ++ rest.write
  | element kind attributes content rest =>
    kind.writeStart attributes ++ (content.write ++ (kind.writeEnd ++ rest.write))

/-- All text in its order. -/
def text : Nested → String
  | done => ""
  | piece text rest => text.val ++ rest.text
  | element _ _ content rest => content.text ++ rest.text

/-- All elements in their order, each before those in it. -/
def elements : Nested → List (Container × Attributes)
  | done => []
  | piece _ rest => rest.elements
  | element kind attributes content rest =>
    (kind, attributes) :: (content.elements ++ rest.elements)

end Nested

/-! ## What a document is made of -/

/-- The text of a content that is one. -/
def Content.text? : Content → Option String
  | .text s => some s
  | _ => none

namespace Document

variable {d d' d'' : Document} {s s' : String} {es es' : List Element}

/-- All text in the order of making. -/
def madeText (d : Document) : String := String.join (d.contents.filterMap Content.text?)

/-- All elements in the order of making. -/
def madeElements (d : Document) : List Element := d.contents.filterMap Content.element?

/-- What a document has got in addition. -/
structure Gains (d d' : Document) (s : String) (es : List Element) : Prop where
  text : d'.madeText = d.madeText ++ s
  elements : d'.madeElements = d.madeElements ++ es

theorem Gains.refl (d : Document) : Gains d d "" [] where
  text := String.append_empty.symm
  elements := (List.append_nil _).symm

theorem Gains.trans (h : Gains d d' s es) (h' : Gains d' d'' s' es') :
    Gains d d'' (s ++ s') (es ++ es') where
  text := by rw [h'.text, h.text, String.append_assoc]
  elements := by rw [h'.elements, h.elements, List.append_assoc]

theorem gains_text (h : d'.contents = d.contents ++ [.text s]) : Gains d d' s [] where
  text := by
    rw [madeText, madeText, h, List.filterMap_append, String.join_append]
    show _ ++ String.join [s] = _
    rw [String.join_cons, String.join_nil, String.append_empty]
  elements := by
    rw [madeElements, madeElements, h, List.filterMap_append]
    rfl

theorem gains_element {e : Element} (h : d'.contents = d.contents ++ [.element e]) :
    Gains d d' "" [e] where
  text := by
    rw [madeText, madeText, h, List.filterMap_append, String.join_append]
    rfl
  elements := by
    rw [madeElements, madeElements, h, List.filterMap_append]
    rfl

end Document

/-! ## One token -/

/-- The root element, or one of those that well nested markup is made of. -/
def Open.IsContainer (o : Open) : Prop := o.named ["html", "div", "span"] = true

theorem Open.IsContainer.space {o : Open} (h : o.IsContainer) : o.space = .html :=
  eq_of_beq (Bool.and_elim_left h)

/-- No element is one of some names that none of these elements has. -/
theorem Open.IsContainer.named_eq_false {o : Open} (h : o.IsContainer) {names : List String}
    (hnames : ∀ name ∈ ["html", "div", "span"], names.contains name = false) :
    o.named names = false := by
  rw [named, hnames o.name (List.contains_iff_mem.mp (Bool.and_elim_right h)), Bool.and_false]

/-- The element of a start tag. -/
def Container.element (kind : Container) (attributes : Attributes) : Element :=
  { name := kind.name, attributes := attributes.pairs.map .ofPair }

theorem Container.isTemplate_element (kind : Container) (attributes : Attributes) :
    (kind.element attributes).isTemplate = false := by
  cases kind <;> rfl

namespace Construction

open Document

variable {d d' : Document} {o : Open} {stack : List Open}

/-- Running text in which some elements are open. -/
def running (d : Document) (stack : List Open) : Construction := { document := d, stack }

theorem sees_eq_false {scope : Scope} {p : Open → Bool} (h : ∀ o ∈ stack, p o = false) :
    scope.sees p stack = false := by
  induction stack with
  | nil => rfl
  | cons o stack ih =>
    obtain ⟨ho, hstack⟩ := List.forall_mem_cons.mp h
    rw [Scope.sees, ho, ih hstack, Bool.and_false]
    rfl

/-- **A text is added to the document.** -/
theorem feed_running_text (ho : o.space = .html) (d : Document) (stack : List Open)
    (cs : List Char) :
    ∃ d', (running d (o :: stack)).feed (.text cs) = running d' (o :: stack) ∧
      Gains d d' (String.ofList cs) [] := by
  obtain ⟨id, space, name⟩ := o
  obtain rfl : space = .html := ho
  refine ⟨_, insertText_eq (running d _) cs, gains_text ?_⟩
  rw [contents_eq (content?_put _ _ _), contents_add]
  rfl

/-- **So is an element, which is open then.** -/
theorem feed_running_startTag (hstack : ∀ o' ∈ o :: stack, o'.IsContainer) (d : Document)
    (kind : Container) (attributes : Attributes) :
    ∃ d' id, (running d (o :: stack)).feed (.startTag (kind.tag attributes))
        = running d' ({ id, name := kind.name } :: o :: stack) ∧
      Gains d d' "" [kind.element attributes] := by
  have hparagraph : (running d (o :: stack)).endParagraph = running d (o :: stack) := by
    have hnone : (running d (o :: stack)).inScope .button ["p"] = false :=
      sees_eq_false fun o' ho' => (hstack o' ho').named_eq_false (by decide)
    rw [endParagraph, hnone, if_neg Bool.false_ne_true]
  have hfeed : (running d (o :: stack)).feed (.startTag (kind.tag attributes))
      = (running d (o :: stack)).insertElement (kind.element attributes) := by
    have ho := (hstack o List.mem_cons_self).space
    cases kind with
    | span =>
      obtain ⟨id, space, name⟩ := o
      obtain rfl : space = .html := ho
      rfl
    | div =>
      refine Eq.trans ?_ (congrArg (·.insertElement (Container.div.element attributes)) hparagraph)
      obtain ⟨id, space, name⟩ := o
      obtain rfl : space = .html := ho
      rfl
  refine ⟨_, _, hfeed.trans (insertElement_eq _ _), gains_element ?_⟩
  rw [contents_eq (content?_put _ _ _), contents_addElement, Container.isTemplate_element]
  rfl

/-- **An end tag closes the innermost element, which is the one it was written for.** -/
theorem feed_running_endTag (d : Document) (kind : Container) (id : NodeId) (stack : List Open) :
    (running d ({ id, name := kind.name } :: stack)).feed (.endTag kind.name)
      = running d stack := by
  cases kind with
  | div => rfl
  | span =>
    show (running d ({ id, name := "span" } :: stack)).closeNamed "span" = _
    unfold closeNamed
    simp [running, Open.named]

/-! ## Markup -/

/-- What is read for some of the input, of which there is enough left to read on. -/
def Reaches (b : Construction) (cs : List Char) (b' : Construction) (cs' : List Char) : Prop :=
  ∀ n, cs.length ≤ n → ∃ n', cs'.length ≤ n' ∧ b.readOn cs n = b'.readOn cs' n'

variable {b b' b'' : Construction} {cs cs' cs'' : List Char}

theorem Reaches.refl (b : Construction) (cs : List Char) : Reaches b cs b cs :=
  fun n hn => ⟨n, hn, rfl⟩

theorem Reaches.trans (h : Reaches b cs b' cs') (h' : Reaches b' cs' b'' cs'') :
    Reaches b cs b'' cs'' := by
  intro n hn
  obtain ⟨n', hn', hread⟩ := h n hn
  obtain ⟨n'', hn'', hread'⟩ := h' n' hn'
  exact ⟨n'', hn'', hread.trans hread'⟩

/-- One token of the input is taken. -/
theorem reaches_running {token : Token} {written : List Char} (ho : o.space = .html)
    (hne : written ≠ []) (hscan : scan false .markup (written ++ cs) = ([token], cs))
    (hfeed : (running d (o :: stack)).feed token = b') :
    Reaches (running d (o :: stack)) (written ++ cs) b' cs := by
  intro n hn
  obtain ⟨c, r, rfl⟩ := List.exists_cons_of_ne_nil hne
  obtain ⟨k, rfl⟩ : ∃ k, n = k + 1 :=
    Nat.exists_eq_succ_of_ne_zero (Nat.ne_of_gt (Nat.zero_lt_of_lt hn))
  have hliteral : (running d (o :: stack)).takesLiterals = false := by
    show (o.space != .html) = false
    rw [ho]
    rfl
  have hread : scan (running d (o :: stack)).takesLiterals .markup (c :: (r ++ cs))
      = ([token], cs) := by
    rw [hliteral]
    exact hscan
  refine ⟨k, ?_, ?_⟩
  · rw [List.length_append, List.length_cons] at hn
    omega
  · rw [List.cons_append, readOn_cons (running d (o :: stack)) hread, ← hfeed]
    rfl

theorem readOn_nil (b : Construction) (n : Nat) : b.readOn [] n = b := by
  cases n <;> rfl

/-- Text that waits is read before markup comes. -/
theorem reaches_escape (ho : o.space = .html) (d : Document) (stack : List Open)
    {before : List Char} (hnul : '\x00' ∉ before) (hrest : IsMarkup cs) :
    ∃ d', Reaches (running d (o :: stack)) (escape before ++ cs) (running d' (o :: stack)) cs ∧
      Gains d d' (String.ofList before) [] := by
  by_cases hne : before = []
  · subst hne
    exact ⟨d, Reaches.refl _ _, Gains.refl d⟩
  obtain ⟨d', hfeed, hgains⟩ := feed_running_text ho d stack before
  exact ⟨d', reaches_running ho (mt escape_eq_nil_iff.mp hne) (scan_escape hne hnul hrest) hfeed,
    hgains⟩

/-- **Well nested markup is read as what it was written for.** -/
theorem reaches_write (m : Nested) : ∀ {o : Open} {stack : List Open} (d : Document)
    (before rest : List Char),
    (∀ o' ∈ o :: stack, o'.IsContainer) → '\x00' ∉ before → IsMarkup rest →
    ∃ d', Reaches (running d (o :: stack)) (escape before ++ (m.write ++ rest))
        (running d' (o :: stack)) rest ∧
      Gains d d' (String.ofList before ++ m.text)
        (m.elements.map fun e => e.1.element e.2) := by
  induction m with
  | done =>
    intro o stack d before rest hstack hnul hrest
    rw [Nested.text, String.append_empty]
    exact reaches_escape (hstack o List.mem_cons_self).space d stack hnul hrest
  | piece text m ih =>
    -- the text waits with what waits already
    intro o stack d before rest hstack hnul hrest
    obtain ⟨d', hreach, hgains⟩ := ih d (before ++ text.val.toList) rest hstack
      (fun hmem => (List.mem_append.mp hmem).elim hnul text.property.1) hrest
    rw [escape_append, List.append_assoc, ← List.append_assoc (escape text.val.toList)] at hreach
    rw [String.ofList_append, String.ofList_toList, String.append_assoc] at hgains
    exact ⟨d', hreach, hgains⟩
  | element kind attributes content m ihcontent ih =>
    intro o stack d before rest hstack hnul hrest
    have ho := (hstack o List.mem_cons_self).space
    have hmarkup : IsMarkup ((Nested.element kind attributes content m).write ++ rest) :=
      fun _ hc => (Option.mem_some_iff.mp hc).symm
    obtain ⟨d₁, hreach₁, hgains₁⟩ := reaches_escape ho d stack hnul hmarkup
    -- the start tag
    obtain ⟨d₂, id, hfeed, hgains₂⟩ := feed_running_startTag hstack d₁ kind attributes
    have hreach₂ := reaches_running ho (List.cons_ne_nil _ _) (kind.scan_writeStart attributes
      (content.write ++ (kind.writeEnd ++ (m.write ++ rest)))) hfeed
    -- the content, which ends where the end tag begins
    have hkind : Open.IsContainer { id, name := kind.name } := by cases kind <;> rfl
    have hend : IsMarkup (kind.writeEnd ++ (m.write ++ rest)) :=
      fun _ hc => (Option.mem_some_iff.mp hc).symm
    obtain ⟨d₃, hreach₃, hgains₃⟩ := ihcontent d₂ [] _
      (List.forall_mem_cons.mpr ⟨hkind, hstack⟩) List.not_mem_nil hend
    -- the end tag
    have hreach₄ : Reaches (running d₃ ({ id, name := kind.name } :: o :: stack))
        (kind.writeEnd ++ (m.write ++ rest)) (running d₃ (o :: stack)) (m.write ++ rest) :=
      reaches_running rfl (List.cons_ne_nil _ _) (kind.scan_writeEnd (m.write ++ rest))
        (feed_running_endTag d₃ kind id (o :: stack))
    obtain ⟨d₅, hreach₅, hgains₅⟩ := ih d₃ [] rest hstack List.not_mem_nil hrest
    have hwrite : (Nested.element kind attributes content m).write ++ rest
        = kind.writeStart attributes
          ++ (content.write ++ (kind.writeEnd ++ (m.write ++ rest))) := by
      simp [Nested.write]
    rw [hwrite] at hreach₁ ⊢
    refine ⟨d₅, hreach₁.trans (hreach₂.trans (hreach₃.trans (hreach₄.trans hreach₅))), ?_⟩
    have hgains := hgains₁.trans (hgains₂.trans (hgains₃.trans hgains₅))
    simpa [Nested.text, Nested.elements] using hgains

end Construction

/-! ## The document -/

namespace Nested

/-- No carriage return is written. -/
theorem not_mem_write (m : Nested) : '\r' ∉ m.write := by
  have hescape : ∀ {s : String}, IsPlainText s → '\r' ∉ escape s.toList := fun h hmem =>
    (of_mem_escape hmem).2.2.elim h.2 fun hne => hne rfl
  induction m with
  | done => exact List.not_mem_nil
  | piece text m ih =>
    rw [write, List.mem_append, not_or]
    exact ⟨hescape text.property, ih⟩
  | element kind attributes content m ihcontent ih =>
    have hname : '\r' ∉ kind.name.toList := by cases kind <;> decide
    have hattributes : '\r' ∉ attributes.pairs.flatMap writeAttribute := by
      intro hmem
      obtain ⟨pair, hpair, hmem⟩ := List.mem_flatMap.mp hmem
      have hpairname : '\r' ∉ pair.1.toList := fun hr =>
        absurd ((attributes.names pair hpair).letters _ hr) (by decide)
      have hvalue := hescape (attributes.values pair hpair)
      simp [writeAttribute, hpairname, hvalue] at hmem
    simp [write, Container.writeStart, Container.writeEnd, hname, hattributes, ih, ihcontent]

/-- **The document of well nested markup has its text and its elements.** -/
theorem gains_ofFragment (m : Nested) :
    Document.Gains Document.empty (Document.ofFragment m.write) m.text
      (m.elements.map fun e => e.1.element e.2) := by
  have hroot : Open.IsContainer { id := Document.rootId, name := "html" } := by rfl
  obtain ⟨d, hreach, hgains⟩ := Construction.reaches_write m Document.empty [] []
    (List.forall_mem_singleton.mpr hroot) List.not_mem_nil nofun
  obtain ⟨n, -, hread⟩ := hreach m.write.length (by simp [escape])
  rw [Construction.readOn_nil] at hread
  have hfragment : Document.ofFragment m.write = d := by
    show (({} : Construction).readOn (lineFeeds m.write) (lineFeeds m.write).length).finish.document
      = d
    rw [lineFeeds_of_not_mem m.not_mem_write]
    rw [List.append_nil] at hread
    exact congrArg (fun b : Construction => b.finish.document) hread
  rw [hfragment]
  exact (String.empty_append (s := m.text)) ▸ hgains

end Nested

end TidyTable.Html
