import TidyTable.Proofs.Html.Nested
import TidyTable.Proofs.Marker

/-!
# What well nested markup is reduced to

In a fragment without formatting and tables everything is where it was written, so the text of the
document is its texts in the order of making, and the marker is the first element in this order. For
well nested markup these are the texts and the elements that were written. So the marker is the
first `div`, and where it carries no parameter all text is kept as it is, blanks included.
-/

namespace TidyTable

open Html

/-! ## What hangs in a fragment -/

namespace Html

namespace Document

variable {d : Document}

theorem shaped_ofFragment (cs : List Char) : Shaped (ofFragment cs) := by
  obtain ⟨b, hb, h⟩ := Construction.leads_ofFragment cs cs.length (Nat.le_refl _)
  exact hb ▸ (h.sound (Construction.valid_start _)).1.arranged.shaped

theorem contents_eq_range (d : Document) :
    d.contents.map some = (List.range d.nodes.size).map d.content? := by
  refine List.ext_getElem (by simp) fun x hx _ => ?_
  rw [List.length_map] at hx
  rw [List.getElem_map, List.getElem_map, List.getElem_range, ← getElem?_contents,
    List.getElem?_eq_getElem hx]

/-- All nodes but the fragment that everything belongs to hang somewhere. -/
theorem filterMap_inMakingOrder (hforest : Forest d []) (hshaped : Shaped d) {α : Type}
    (f : Content → Option α) (hf : f .fragment = none) :
    d.inMakingOrder.filterMap (fun x => (d.content? x).bind f) = d.contents.filterMap f := by
  have hcontents : d.contents.filterMap f
      = (List.range d.nodes.size).filterMap fun x => (d.content? x).bind f := by
    have hmap := congrArg (List.filterMap fun c => Option.bind c f) (contents_eq_range d)
    rwa [List.filterMap_map, List.filterMap_map] at hmap
  rw [hcontents, inMakingOrder, List.filterMap_filter]
  refine List.filterMap_congr fun x hx => ?_
  split_ifs with hparent
  · rfl
  · -- only the fragment itself hangs nowhere
    have hx' : x = fragmentId := by
      by_contra hne
      have hup := hforest.under_root (List.mem_range.mp hx) hne
      rcases hup.cases_head with rfl | ⟨p, hp, -⟩
      · exact hparent (by rw [hforest.parent_eq_fragment_iff.mpr rfl]; rfl)
      · exact hparent (by rw [hp]; rfl)
    rw [hx', hshaped.fragment, Option.bind_some, hf]

theorem text?_eq_content? (d : Document) (x : NodeId) :
    d.text? x = (d.content? x).bind Content.text? := by
  refine Option.ext fun s => ?_
  rw [text?_eq_some_iff, Option.bind_eq_some_iff]
  refine ⟨fun h => ⟨_, h, rfl⟩, ?_⟩
  rintro ⟨content, hcontent, hs⟩
  cases content with
  | text s' =>
    obtain rfl := Option.some.inj hs
    exact hcontent
  | fragment => exact absurd hs nofun
  | element e => exact absurd hs nofun

/-- **Where nothing was put elsewhere, the text is what was made as text.** -/
theorem text_ofFragment {cs : List Char} (h : (ofFragment cs).InPlace) :
    (ofFragment cs).text = (ofFragment cs).madeText := by
  rw [text, inTextOrder_ofFragment h, madeText,
    ← filterMap_inMakingOrder (forest_ofFragment cs) (shaped_ofFragment cs) _ rfl]
  exact congrArg String.join (List.filterMap_congr fun x _ => text?_eq_content? _ x)

theorem filterMap_element? (hforest : Forest d []) (hshaped : Shaped d) :
    d.inMakingOrder.filterMap d.element? = d.madeElements := by
  rw [madeElements, ← filterMap_inMakingOrder hforest hshaped _ rfl]
  exact List.filterMap_congr fun x _ => element?_eq_content? _ x

theorem mem_madeElements_of_element? {x : NodeId} {e : Element} (h : d.element? x = some e) :
    e ∈ d.madeElements := by
  rw [element?_eq_some_iff, ← getElem?_contents] at h
  exact List.mem_filterMap.mpr ⟨_, List.mem_of_getElem? h, rfl⟩

/-- Where there is neither a part of a table nor formatting, nothing is put elsewhere. -/
theorem inPlace_of_names (names : List String)
    (htables : ∀ name ∈ names, tableParts.contains name = false)
    (hformatting : ∀ name ∈ names, formattingTags.contains name = false)
    (h : ∀ e ∈ d.madeElements, e.name ∈ names) : d.InPlace := by
  have hnamed : ∀ {others : List String}, (∀ name ∈ names, others.contains name = false) →
      ∀ x, d.isNamed x others = false := by
    intro others hothers x
    unfold isNamed kind?
    cases he : d.element? x with
    | none => rfl
    | some e =>
      show (e.space == .html && others.contains e.name) = false
      rw [hothers _ (h e (mem_madeElements_of_element? he)), Bool.and_false]
  refine ⟨fun x _ => hnamed htables x, fun z _ y _ _ => ?_⟩
  rw [isFormattedBefore, List.any_eq_false]
  intro x _
  rw [hnamed hformatting x, Bool.false_and]
  exact Bool.false_ne_true

end Document

end Html

/-! ## The marker -/

namespace Cleaner

/-- The first of the nodes that pass a test, and what it stands for. -/
theorem head?_filter_bind {α β : Type} (f : α → Option β) (q : β → Bool) : ∀ l : List α,
    (l.filter fun x => (f x).any q).head?.bind f = (l.filterMap f).find? q
  | [] => rfl
  | x :: l => by
      have ih := head?_filter_bind f q l
      cases hx : f x with
      | none =>
        rw [List.filter_cons_of_neg (by rw [hx]; exact Bool.false_ne_true),
          List.filterMap_cons_none hx, ih]
      | some y =>
        rw [List.filterMap_cons_some hx]
        cases hy : q y with
        | true =>
          rw [List.filter_cons_of_pos (by rw [hx]; exact hy), List.find?_cons_of_pos hy]
          exact hx
        | false =>
          rw [List.filter_cons_of_neg (by rw [hx, Option.any_some, hy]; exact Bool.false_ne_true),
            List.find?_cons_of_neg (by rw [hy]; exact Bool.false_ne_true), ih]

/-- A marker that is given by a name is the first element of this name that was made. -/
theorem markerElement?_named {c : Cleaner} {name : String} (hc : c.marker = .named name)
    {d : Document} (hforest : Document.Forest d []) (hshaped : Document.Shaped d) :
    c.markerElement? d = d.madeElements.find? (Selector.hasName · name) := by
  rw [markerElement?, found_eq, hc, ← Document.filterMap_element? hforest hshaped,
    ← head?_filter_bind]
  refine congrArg (fun l : List NodeId => l.head?.bind d.element?) (List.filter_congr fun x _ => ?_)
  rw [Selector.holds]
  cases d.element? x <;> simp

end Cleaner

/-! ## Well nested markup -/

namespace Html

/-- The value of the attribute of a name. -/
def Attributes.value? (attributes : Attributes) (name : String) : Option String :=
  attributes.pairs.lookup name

/-- The parameter that the first `div` carries. -/
def Nested.parameter? (m : Nested) : Option String :=
  (m.elements.find? (·.1 == .div)).bind fun (_, attributes) =>
    if attributes.value? "data-info-type" = some "show_params" then attributes.value? "data-info"
    else none

theorem attribute?_element (kind : Container) (attributes : Attributes) (name : String) :
    (kind.element attributes).attribute? name = attributes.value? name := by
  show ((attributes.pairs.map Attribute.ofPair).find? _).map _ = attributes.pairs.lookup name
  induction attributes.pairs with
  | nil => rfl
  | cons pair pairs ih =>
    obtain ⟨key, value⟩ := pair
    by_cases hkey : key = name
    · subst hkey
      simp [Attribute.ofPair]
    · have hkey' : (name == key) = false := beq_eq_false_iff_ne.mpr (Ne.symm hkey)
      rw [List.map_cons, List.find?_cons_of_neg (by simp [Attribute.ofPair, hkey]), ih,
        List.lookup_cons, hkey']

theorem hasName_element (kind : Container) (attributes : Attributes) :
    Selector.hasName (kind.element attributes) "div" = (kind == .div) := by
  have hlower : AttributeTest.lowered "div" = "div" := by decide +kernel
  show (kind.name == AttributeTest.lowered "div") = _
  rw [hlower]
  cases kind <;> decide

/-- The first `div` that is made is the first one that was written. -/
theorem find?_madeElements (m : Nested) :
    (Document.ofFragment m.write).madeElements.find? (Selector.hasName · "div")
      = (m.elements.find? (·.1 == .div)).map fun e => e.1.element e.2 := by
  have hroot : Document.empty.madeElements.find? (Selector.hasName · "div") = none := by
    decide +kernel
  rw [m.gains_ofFragment.elements, List.find?_append, hroot, Option.none_or, List.find?_map]
  simp only [Function.comp_def, hasName_element]

theorem inPlace_ofFragment_write (m : Nested) : (Document.ofFragment m.write).InPlace := by
  refine Document.inPlace_of_names ["html", "div", "span"] (by decide) (by decide) ?_
  intro e he
  rw [m.gains_ofFragment.elements] at he
  rcases List.mem_append.mp he with he | he
  · obtain rfl := List.mem_singleton.mp he
    exact List.mem_cons_self
  · obtain ⟨⟨kind, attributes⟩, -, rfl⟩ := List.mem_map.mp he
    cases kind
    · exact List.mem_cons_of_mem _ List.mem_cons_self
    · exact List.mem_cons_of_mem _ (List.mem_cons_of_mem _ List.mem_cons_self)

end Html

namespace Processor

variable {p : Processor}

/-- **From well nested markup the parameter of the first `div` is taken, otherwise all text.** -/
theorem extract?_write (hp : ofSettings {} = .ok p) (m : Nested)
    (hfirst : m.write.head? = some '<') (hlast : m.write.getLast? = some '>') :
    p.cleaner.extract? (String.ofList m.write) = some (m.parameter?.getD m.text) := by
  obtain rfl : standard = p := Except.ok.inj (ofSettings_standard.symm.trans hp)
  have hmarkup : Cell.looksLikeMarkup (String.ofList m.write) = true := by
    rw [Cell.looksLikeMarkup, String.toList_ofList, hfirst, hlast]
    rfl
  have hmarker := (Cleaner.markerElement?_named (c := standard.cleaner) rfl
    (forest_ofFragment m.write) (Document.shaped_ofFragment m.write)).trans (find?_madeElements m)
  have htext : (Document.ofFragment m.write).text = m.text := by
    rw [Document.text_ofFragment (inPlace_ofFragment_write m), m.gains_ofFragment.text]
    exact String.empty_append
  rw [Cleaner.extract?, if_pos hmarkup, String.toList_ofList, Cleaner.reduce, hmarker, htext]
  have hparameter : ((m.elements.find? (·.1 == .div)).map fun e => e.1.element e.2).bind
      standard.cleaner.parameter? = m.parameter? := by
    rw [Nested.parameter?]
    cases m.elements.find? (·.1 == .div) with
    | none => rfl
    | some e =>
      show standard.cleaner.parameter? (e.1.element e.2) = _
      rw [Cleaner.parameter?, attribute?_element, attribute?_element]
      simp only [beq_iff_eq]
      rfl
  rw [hparameter]

theorem extract?_write_nested :
    let m : Nested :=
      .element .span { pairs := [("class", "a\x22b")] }
        (.piece ⟨" 1 < ", by decide⟩
          (.element .div
            { pairs := [("data-info-type", "show_params"), ("data-info", "x & \x22y\x22")] }
            (.piece ⟨"in", by decide⟩ .done) .done))
        (.element .div {} .done .done)
    ofSettings {} = .ok standard ∧ m.write.head? = some '<' ∧ m.write.getLast? = some '>' ∧
      m.parameter?.getD m.text = "x & \x22y\x22" ∧
      standard.cleaner.extract? (String.ofList m.write) = some (m.parameter?.getD m.text) := by
  intro m
  have hfirst : m.write.head? = some '<' := by decide +kernel
  have hlast : m.write.getLast? = some '>' := by decide +kernel
  exact ⟨ofSettings_standard, hfirst, hlast, by decide +kernel,
    extract?_write ofSettings_standard m hfirst hlast⟩

/-- Without a parameter of the first `div` all text is kept, whatever is in the second. -/
example :
    let marked : Attributes :=
      { pairs := [("data-info-type", "show_params"), ("data-info", "k")] }
    let m : Nested :=
      .element .div {} (.piece ⟨" a\n", by decide⟩ (.element .div marked .done .done)) .done
    m.parameter?.getD m.text = " a\n" := by
  decide +kernel

end Processor

end TidyTable
