import TidyTable.Proofs.Html.Literal

/-!
# Markup that is written

Text and tags can be written so that they are read as they were meant. In text and in the values of
attributes four characters are escaped: an ampersand would begin a reference, a bracket a tag, and a
quote would end the value. NUL and carriage return are left out, because no way of writing brings
them back. A tag is read back with its attributes in order if their names are distinct and made of
small letters and hyphens.
-/

namespace TidyTable.Html

variable {cs rest : List Char} {c x : Char}

/-- What holds for the characters of a list is decided on the list, and not on all characters. -/
theorem forall_mem_of_all {p : Char → Prop} [DecidablePred p] (h : cs.all (decide <| p ·) = true) :
    ∀ c ∈ cs, p c := fun c hc =>
  of_decide_eq_true (List.all_eq_true.mp h c hc)

/-! ## Text -/

/-- How a character is written. -/
def escapeChar (c : Char) : List Char :=
  match c with
  | '&' => '&' :: "amp;".toList
  | '<' => '&' :: "lt;".toList
  | '>' => '&' :: "gt;".toList
  | '\x22' => '&' :: "quot;".toList
  | c => [c]

/-- How a text is written. -/
def escape (cs : List Char) : List Char := cs.flatMap escapeChar

@[simp]
theorem escape_cons (c : Char) (cs : List Char) : escape (c :: cs) = escapeChar c ++ escape cs :=
  List.flatMap_cons

@[simp] theorem escape_append (cs cs' : List Char) : escape (cs ++ cs') = escape cs ++ escape cs' :=
  List.flatMap_append

@[simp] theorem escape_eq_nil_iff : escape cs = [] ↔ cs = [] := by
  cases cs with
  | nil => exact ⟨fun _ => rfl, fun _ => rfl⟩
  | cons c cs =>
    refine ⟨fun h => ?_, nofun⟩
    rw [escape_cons, List.append_eq_nil_iff] at h
    unfold escapeChar at h
    split at h <;> exact absurd h.1 (List.cons_ne_nil _ _)

/-- Neither a bracket nor a quote is written for a character, and no carriage return for another. -/
theorem of_mem_escapeChar (c : Char) :
    ∀ x ∈ escapeChar c, x ≠ '<' ∧ x ≠ '\x22' ∧ (x = c ∨ x ≠ '\r') := by
  unfold escapeChar
  split
  · exact forall_mem_of_all (by decide)
  · exact forall_mem_of_all (by decide)
  · exact forall_mem_of_all (by decide)
  · exact forall_mem_of_all (by decide)
  · rename_i hlt _ hquot
    intro x hx
    obtain rfl := List.mem_singleton.mp hx
    exact ⟨hlt, hquot, Or.inl rfl⟩

theorem of_mem_escape (h : x ∈ escape cs) : x ≠ '<' ∧ x ≠ '\x22' ∧ (x ∈ cs ∨ x ≠ '\r') := by
  obtain ⟨c, hc, hx⟩ := List.mem_flatMap.mp h
  obtain ⟨hlt, hquot, hsame⟩ := of_mem_escapeChar c x hx
  refine ⟨hlt, hquot, hsame.imp_left ?_⟩
  rintro rfl
  exact hc

/-- What is written for a character is read as the character. -/
theorem decode_escapeChar (inValue : Bool) (c : Char) (rest : List Char) :
    Symbol.decode inValue (escapeChar c ++ rest) = .char c :: Symbol.decode inValue rest := by
  unfold escapeChar
  split
  · rfl
  · rfl
  · rfl
  · rfl
  · rename_i hamp _ _ _
    show Symbol.decodeFrom inValue 0 (c :: rest) = _
    rw [Symbol.decodeFrom, if_neg fun heq => hamp (beq_iff_eq.mp heq)]
    rfl

@[simp] theorem decode_escape (inValue : Bool) (cs : List Char) :
    Symbol.decode inValue (escape cs) = cs.map .char := by
  induction cs with
  | nil => rfl
  | cons c cs ih => rw [escape_cons, decode_escapeChar, ih, List.map_cons]

theorem attributeValue_escape (h : '\x00' ∉ cs) : attributeValue (escape cs) = cs := by
  rw [attributeValue, decode_escape]
  show (Symbol.chars (cs.map .char)).map denull = cs
  rw [Symbol.chars_map_char]
  refine (List.map_congr_left fun c hc => ?_).trans (List.map_id cs)
  exact if_neg fun (heq : (c == '\x00') = true) => h (eq_of_beq heq ▸ hc)

/-- What can follow a text: nothing, or a bracket. -/
def IsMarkup (cs : List Char) : Prop := ∀ c ∈ cs.head?, c = '<'

/-- **A text is read from what is written for it.** -/
theorem scan_escape (hne : cs ≠ []) (hnul : '\x00' ∉ cs) (hrest : IsMarkup rest) :
    scan false .markup (escape cs ++ rest) = ([.text cs], rest) := by
  have hplain : ∀ x ∈ escape cs, (x != '<') = true := fun x hx =>
    bne_iff_ne.mpr (of_mem_escape hx).1
  have hcut : rest.takeWhile (· != '<') = [] ∧ rest.dropWhile (· != '<') = rest := by
    cases rest with
    | nil => exact ⟨rfl, rfl⟩
    | cons c rest =>
      obtain rfl := hrest c rfl
      exact ⟨rfl, rfl⟩
  unfold scan
  dsimp only
  split
  · -- what is written does not begin with a bracket
    rename_i heq
    obtain ⟨c, cs', hescape⟩ := List.exists_cons_of_ne_nil (mt escape_eq_nil_iff.mp hne)
    rw [hescape, List.cons_append] at heq
    exact absurd (List.cons.inj heq).1 (of_mem_escape (hescape ▸ List.mem_cons_self)).1
  · rw [List.takeWhile_append_of_pos hplain, List.dropWhile_append_of_pos hplain, hcut.1, hcut.2,
      List.append_nil, decode_escape]
    exact congrArg (·, rest) (Token.ofChars_of_not_mem hne hnul)

/-! ## Attributes -/

/-- The letters of names of attributes. -/
def nameLetters : List Char := "abcdefghijklmnopqrstuvwxyz".toList

/-- A name of an attribute: a letter, and then letters and hyphens. -/
def IsPlainName (s : String) : Prop :=
  s.toList.head?.any (nameLetters.contains ·) = true
    ∧ s.toList.all (('-' :: nameLetters).contains ·) = true

theorem IsPlainName.first {s : String} (h : IsPlainName s) :
    ∃ c r, s.toList = c :: r ∧ c ∈ nameLetters := by
  obtain ⟨c, hc, hletter⟩ := (Option.any_eq_true _ _).mp h.1
  obtain ⟨r, hr⟩ := List.head?_eq_some_iff.mp hc
  exact ⟨c, r, hr, List.contains_iff_mem.mp hletter⟩

theorem IsPlainName.letters {s : String} (h : IsPlainName s) :
    ∀ c ∈ s.toList, c ∈ '-' :: nameLetters := fun c hc =>
  List.contains_iff_mem.mp (List.all_eq_true.mp h.2 c hc)

/-- A text without NUL and carriage return. -/
def IsPlainText (s : String) : Prop := '\x00' ∉ s.toList ∧ '\r' ∉ s.toList

instance (s : String) : Decidable (IsPlainName s) := inferInstanceAs (Decidable (_ ∧ _))

instance (s : String) : Decidable (IsPlainText s) := inferInstanceAs (Decidable (_ ∧ _))

/-- Names and values of the attributes of an element. -/
structure Attributes where
  pairs : List (String × String) := []
  nodup : (pairs.map Prod.fst).Nodup := by decide
  names : ∀ pair ∈ pairs, IsPlainName pair.1 := by decide
  values : ∀ pair ∈ pairs, IsPlainText pair.2 := by decide

/-- How an attribute is written. -/
def writeAttribute (pair : String × String) : List Char :=
  ' ' :: (pair.1.toList ++ '=' :: '\x22' :: (escape pair.2.toList ++ ['\x22']))

/-- The attribute that a pair stands for. -/
def Attribute.ofPair (pair : String × String) : Attribute := { name := pair.1, value := pair.2 }

variable {pair : String × String}

/-- No character of a name ends it, and all are kept as they are. -/
theorem of_mem_name : ∀ c ∈ '-' :: nameLetters,
    endsAttributeName c = false ∧ denull c.toLower = c ∧ c ≠ '\r' :=
  forall_mem_of_all (by decide)

theorem of_mem_nameLetters : ∀ c ∈ nameLetters,
    Text.isAsciiSpace c = false ∧ c ≠ '>' ∧ c ≠ '/' :=
  forall_mem_of_all (by decide)

theorem canonicalName_of_plain {s : String} (h : ∀ c ∈ s.toList, c ∈ '-' :: nameLetters) :
    canonicalName s.toList = s := by
  have hsame : (lower s.toList).map denull = s.toList := by
    rw [lower, List.map_map]
    exact (List.map_congr_left fun c hc => (of_mem_name c (h c hc)).2.1).trans (List.map_id _)
  rw [canonicalName, hsame, String.ofList_toList]

/-- A value is read up to the quote behind it. -/
theorem attributeValue?_escape (cs rest : List Char) :
    attributeValue? ('=' :: '\x22' :: (escape cs ++ '\x22' :: rest))
      = some (escape cs, rest) := by
  have hplain : ∀ x ∈ escape cs, (x != '\x22') = true := fun x hx =>
    bne_iff_ne.mpr (of_mem_escape hx).2.1
  show quoted? '\x22' (escape cs ++ '\x22' :: rest) = _
  unfold quoted?
  rw [List.takeWhile_append_of_pos hplain, List.dropWhile_append_of_pos hplain]
  simp

/-- The first character that is no space tells that an attribute begins. -/
theorem tagEnd?_of_attribute {cs r value after : List Char} {c : Char}
    (hs : skipSpace cs = c :: r) (hclose : c ≠ '>') (hslash : c ≠ '/')
    (hvalue : attributeValue? (r.dropWhile (!endsAttributeName ·)) = some (value, after)) :
    tagEnd? cs = (tagEnd? after).map (·.add
      { name := canonicalName (c :: r.takeWhile (!endsAttributeName ·))
        value := String.ofList (attributeValue value) }) := by
  fun_cases tagEnd? cs with
  | case1 h => exact absurd (hs.symm.trans h) nofun
  | case2 _ h => exact absurd (List.cons.inj (hs.symm.trans h)).1 hclose
  | case3 _ h => exact absurd (List.cons.inj (hs.symm.trans h)).1 hslash
  | case4 _ _ h => exact absurd (List.cons.inj (hs.symm.trans h)).1 hslash
  | case5 _ _ _ _ _ h hmissing =>
    obtain ⟨rfl, rfl⟩ := List.cons.inj (hs.symm.trans h)
    exact absurd (hvalue.symm.trans hmissing) nofun
  | case6 _ _ _ _ _ h _ _ hfound =>
    obtain ⟨rfl, rfl⟩ := List.cons.inj (hs.symm.trans h)
    obtain ⟨rfl, rfl⟩ := Prod.mk.inj (Option.some.inj (hvalue.symm.trans hfound))
    rfl

/-- One attribute is read, and then what follows it. -/
theorem tagEnd?_writeAttribute (hname : IsPlainName pair.1) (hvalue : IsPlainText pair.2)
    (rest : List Char) :
    tagEnd? (writeAttribute pair ++ rest) = (tagEnd? rest).map (·.add (.ofPair pair)) := by
  obtain ⟨name, value⟩ := pair
  have hall := hname.letters
  obtain ⟨c, r, hr, hletter⟩ := hname.first
  obtain ⟨hspace, hclose, hslash⟩ := of_mem_nameLetters c hletter
  have hwritten : skipSpace (writeAttribute (name, value) ++ rest)
      = c :: (r ++ '=' :: '\x22' :: (escape value.toList ++ '\x22' :: rest)) := by
    unfold skipSpace writeAttribute
    rw [hr]
    simp [hspace, show Text.isAsciiSpace ' ' = true from rfl]
  have hplain : ∀ x ∈ r, (!endsAttributeName x) = true := fun x hx => by
    rw [(of_mem_name x (hall x (hr ▸ List.mem_cons_of_mem c hx))).1]
    rfl
  have htake : (r ++ '=' :: '\x22' :: (escape value.toList ++ '\x22' :: rest)).takeWhile
      (!endsAttributeName ·) = r := by
    rw [List.takeWhile_append_of_pos hplain]
    exact List.append_nil r
  have hfound : attributeValue? ((r ++ '=' :: '\x22' :: (escape value.toList ++ '\x22' :: rest)
      ).dropWhile (!endsAttributeName ·)) = some (escape value.toList, rest) := by
    rw [List.dropWhile_append_of_pos hplain]
    exact attributeValue?_escape _ _
  rw [tagEnd?_of_attribute hwritten hclose hslash hfound, htake, ← hr, canonicalName_of_plain hall,
    attributeValue_escape hvalue.1, String.ofList_toList]
  rfl

/-- All attributes are read in their order, because no name comes twice. -/
theorem tagEnd?_writeAttributes (rest : List Char) : ∀ {pairs : List (String × String)},
    (pairs.map Prod.fst).Nodup → (∀ pair ∈ pairs, IsPlainName pair.1) →
    (∀ pair ∈ pairs, IsPlainText pair.2) →
    tagEnd? (pairs.flatMap writeAttribute ++ '>' :: rest)
      = some { attributes := pairs.map .ofPair, rest }
  | [], _, _, _ => by
      show tagEnd? ('>' :: rest) = _
      rw [tagEnd?]
      rfl
  | pair :: pairs, hnodup, hnames, hvalues => by
      obtain ⟨hname, hnames⟩ := List.forall_mem_cons.mp hnames
      obtain ⟨hvalue, hvalues⟩ := List.forall_mem_cons.mp hvalues
      obtain ⟨hnot, hnodup⟩ := List.nodup_cons.mp hnodup
      have hkept : (pairs.map Attribute.ofPair).filter (·.name != (Attribute.ofPair pair).name)
          = pairs.map .ofPair := by
        refine List.filter_eq_self.mpr fun a ha => bne_iff_ne.mpr fun heq => hnot ?_
        obtain ⟨other, hother, rfl⟩ := List.mem_map.mp ha
        exact List.mem_map.mpr ⟨other, hother, heq⟩
      rw [List.flatMap_cons, List.append_assoc, tagEnd?_writeAttribute hname hvalue,
        tagEnd?_writeAttributes rest hnodup hnames hvalues, Option.map_some, TagEnd.add, hkept,
        List.map_cons]

/-! ## Tags -/

/-- Elements that hold text and each other. -/
inductive Container where
  | div
  | span
deriving DecidableEq, Repr

namespace Container

/-- The name of an element. -/
def name : Container → String
  | .div => "div"
  | .span => "span"

/-- The start tag of an element. -/
def tag (kind : Container) (attributes : Attributes) : Tag :=
  { name := kind.name, attributes := attributes.pairs.map .ofPair }

/-- How a start tag is written. -/
def writeStart (kind : Container) (attributes : Attributes) : List Char :=
  '<' :: (kind.name.toList ++ (attributes.pairs.flatMap writeAttribute ++ ['>']))

/-- How an end tag is written. -/
def writeEnd (kind : Container) : List Char := '<' :: '/' :: (kind.name.toList ++ ['>'])

theorem tag?_write (kind : Container) (attributes : Attributes) (rest : List Char) :
    tag? (kind.name.toList ++ (attributes.pairs.flatMap writeAttribute ++ '>' :: rest))
      = some (kind.tag attributes, rest) := by
  have hname : ∀ c ∈ kind.name.toList, (!endsTagName c) = true := by
    cases kind <;> exact List.all_eq_true.mp (by decide)
  have hcanonical : canonicalName kind.name.toList = kind.name := by cases kind <;> decide
  have hread := tagEnd?_writeAttributes rest attributes.nodup attributes.names attributes.values
  -- a space or the bracket ends the name
  obtain ⟨c, r, hcons, hc⟩ : ∃ c r, attributes.pairs.flatMap writeAttribute ++ '>' :: rest = c :: r
      ∧ ¬ (!endsTagName c) = true := by
    cases attributes.pairs with
    | nil => exact ⟨_, _, rfl, by decide⟩
    | cons pair pairs => exact ⟨_, _, rfl, by decide⟩
  rw [hcons] at hread ⊢
  rw [tag?, List.takeWhile_append_of_pos hname, List.dropWhile_append_of_pos hname,
    List.takeWhile_cons_of_neg (p := (!endsTagName ·)) hc,
    List.dropWhile_cons_of_neg (p := (!endsTagName ·)) hc, List.append_nil, hcanonical, hread]
  rfl

/-- **A start tag is read from what is written for it.** -/
theorem scan_writeStart (kind : Container) (attributes : Attributes) (rest : List Char) :
    scan false .markup (kind.writeStart attributes ++ rest)
      = ([.startTag (kind.tag attributes)], rest) := by
  have happend : kind.writeStart attributes ++ rest
      = '<' :: (kind.name.toList ++ (attributes.pairs.flatMap writeAttribute ++ '>' :: rest)) := by
    simp [writeStart]
  have hstart : scan false .markup (kind.writeStart attributes ++ rest) = startTag
      (kind.name.toList ++ (attributes.pairs.flatMap writeAttribute ++ '>' :: rest)) := by
    rw [happend]
    cases kind <;> rfl
  rw [hstart, startTag, tag?_write]

/-- **So is an end tag.** -/
theorem scan_writeEnd (kind : Container) (rest : List Char) :
    scan false .markup (kind.writeEnd ++ rest) = ([.endTag kind.name], rest) := by
  have hend : scan false .markup (kind.writeEnd ++ rest) = endTag
      (kind.name.toList ++ (({} : Attributes).pairs.flatMap writeAttribute ++ '>' :: rest)) := by
    cases kind <;> rfl
  rw [hend, endTag, tag?_write]
  rfl

end Container

end TidyTable.Html
