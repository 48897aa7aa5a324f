import TidyTable.Proofs.Html.Walk

/-!
# Markup that stands for itself

Some markup is one text that is the markup itself: no bracket in it opens anything, no ampersand
begins a reference, and there is no NUL. All other markup has less text than it has characters.
-/

namespace TidyTable.Html

variable {cs rest : List Char}

/-! ## What stands for itself -/

/-- The reference that a character begins. -/
def referenceAt? (c : Char) (cs : List Char) : Option Reference.Found :=
  if c == '&' then Reference.read? false cs else none

/-- Whether no bracket opens anything, no ampersand begins a reference, and there is no NUL. -/
def standsForItself : List Char → Bool
  | [] => true
  | c :: cs =>
    (if c == '<' then !opensMarkup cs
      else c != '\x00' && (referenceAt? c (cs.takeWhile (· != '<'))).isNone)
    && standsForItself cs

/-- A bracket stands for itself if it opens nothing. -/
theorem standsForItself_bracket (cs : List Char) :
    standsForItself ('<' :: cs) = (!opensMarkup cs && standsForItself cs) := rfl

/-- Any other character does if it is no NUL and begins no reference before the next bracket. -/
theorem standsForItself_cons {c : Char} (h : c ≠ '<') (cs : List Char) :
    standsForItself (c :: cs)
      = (c != '\x00' && (referenceAt? c (cs.takeWhile (· != '<'))).isNone
        && standsForItself cs) := by
  rw [standsForItself, beq_eq_false_iff_ne.mpr h, if_neg Bool.false_ne_true]

/-- A reference is read as one, and every other character as itself. -/
theorem Symbol.decode_cons (c : Char) (cs : List Char) :
    decode false (c :: cs) =
      match referenceAt? c cs with
      | some r => ofFound r ++ decodeFrom false r.length cs
      | none => .char c :: decode false cs := by
  rw [decode, decodeFrom, referenceAt?]
  split_ifs <;> rfl

/-- How many characters a token puts into running text. -/
def Token.shown : Token → Nat
  | .text cs => cs.length
  | _ => 0

/-- How many characters they put there together. -/
def Token.allShown (tokens : List Token) : Nat := (tokens.map shown).sum

/-- What is shown adds up over the tokens. -/
theorem Token.allShown_cons (token : Token) (tokens : List Token) :
    allShown (token :: tokens) = token.shown + allShown tokens :=
  List.sum_cons

/-- A NUL is not shown. -/
theorem Token.allShown_cons_char (c : Char) (tokens : List Token) :
    allShown (cons c tokens) = (if c == '\x00' then 0 else 1) + allShown tokens := by
  unfold cons
  split_ifs
  · exact allShown_cons null tokens
  · split
    · simp only [allShown_cons, shown, List.length_cons]
      omega
    · simp only [allShown_cons, shown, List.length_singleton]

/-- What is shown has been written, unless it is a NUL. -/
theorem Token.allShown_le_sizes (tokens : List Token) : allShown tokens ≤ sizes tokens := by
  induction tokens with
  | nil => exact Nat.le_refl _
  | cons token tokens ih =>
    have hshown : token.shown ≤ token.size := by
      cases token with
      | text cs => exact Nat.le_refl _
      | _ => exact Nat.zero_le _
    rw [allShown_cons, sizes_cons]
    exact Nat.add_le_add hshown ih

/-- No more characters are shown than there are. -/
theorem Token.allShown_ofSymbols_le (symbols : List Symbol) :
    allShown (ofSymbols symbols) ≤ (Symbol.chars symbols).length := by
  rw [← sizes_ofSymbols]
  exact allShown_le_sizes _

/-- What a reference stands for, with what follows it, is less than what was written. -/
theorem Token.allShown_reference {c : Char} {r : Reference.Found} (h : referenceAt? c cs = some r) :
    allShown (ofSymbols (Symbol.decode false (c :: cs))) < (c :: cs).length := by
  have hread : Reference.read? false cs = some r := by
    unfold referenceAt? at h
    split_ifs at h
    exact h
  obtain ⟨htext, hlength⟩ := Reference.read?_spec hread
  have hrest := Symbol.length_decodeFrom false cs r.length hlength
  have hshown := allShown_ofSymbols_le (Symbol.ofFound r ++ Symbol.decodeFrom false r.length cs)
  rw [Symbol.chars_append, Symbol.chars_ofFound, List.length_append] at hshown
  rw [Symbol.decode_cons, h, List.length_cons]
  dsimp only
  omega

/-- Up to the next bracket, markup stands for itself or for fewer characters. -/
theorem ofSymbols_decode_cases (cs : List Char) :
    standsForItself cs = standsForItself (cs.dropWhile (· != '<')) ∧
        Symbol.decode false (cs.takeWhile (· != '<')) = (cs.takeWhile (· != '<')).map .char ∧
        '\x00' ∉ cs.takeWhile (· != '<') ∨
      standsForItself cs = false ∧
        Token.allShown (Token.ofSymbols (Symbol.decode false (cs.takeWhile (· != '<'))))
          < (cs.takeWhile (· != '<')).length := by
  induction cs with
  | nil => exact Or.inl ⟨rfl, rfl, List.not_mem_nil⟩
  | cons c cs ih =>
    by_cases hbracket : c = '<'
    · subst hbracket
      exact Or.inl ⟨rfl, rfl, List.not_mem_nil⟩
    have htake := List.takeWhile_cons_of_pos (p := (· != '<')) (l := cs)
      (bne_iff_ne.mpr hbracket)
    have hdrop := List.dropWhile_cons_of_pos (p := (· != '<')) (l := cs)
      (bne_iff_ne.mpr hbracket)
    rw [htake, hdrop, standsForItself_cons hbracket]
    generalize cs.takeWhile (· != '<') = chunk at ih ⊢
    cases href : referenceAt? c chunk with
    | some r => exact Or.inr ⟨by simp, Token.allShown_reference href⟩
    | none =>
      rw [Symbol.decode_cons, href]
      dsimp only
      rw [Token.ofSymbols, Token.allShown_cons_char, List.length_cons]
      rcases ih with ⟨hrest, hsame, hnul⟩ | ⟨hrest, hless⟩
      · by_cases hc : c = '\x00'
        · -- a NUL is dropped
          right
          have hshown := Token.allShown_ofSymbols_le (Symbol.decode false chunk)
          have hlength := Symbol.length_decode false chunk
          refine ⟨by simp [hc], ?_⟩
          rw [if_pos (beq_iff_eq.mpr hc)]
          omega
        · left
          refine ⟨by simp [hc, hrest], by rw [hsame]; rfl, ?_⟩
          rw [List.mem_cons, not_or]
          exact ⟨Ne.symm hc, hnul⟩
      · right
        refine ⟨by rw [hrest]; exact Bool.and_false _, ?_⟩
        split_ifs <;> omega

/-- Characters without a NUL are one text. -/
theorem Token.ofChars_of_not_mem : ∀ {cs : List Char}, cs ≠ [] → '\x00' ∉ cs →
    ofChars cs = [.text cs]
  | [c], _, h => by
      have hc : (c == '\x00') = false :=
        beq_eq_false_iff_ne.mpr fun heq => h (heq ▸ List.mem_cons_self)
      simp [ofChars, ofSymbols, cons, hc]
  | c :: c' :: cs, _, h => by
      have hc : (c == '\x00') = false :=
        beq_eq_false_iff_ne.mpr fun heq => h (heq ▸ List.mem_cons_self)
      have ih := ofChars_of_not_mem (List.cons_ne_nil c' cs) fun hmem =>
        h (List.mem_cons_of_mem c hmem)
      rw [ofChars] at ih ⊢
      rw [List.map_cons, ofSymbols, ih, cons, hc]
      rfl

/-- **The next piece of markup is a text that stands as it is written, or it loses something.** -/
theorem scan_cases (hne : cs ≠ []) :
    (∃ word rest, scan false .markup cs = ([.text word], rest) ∧ cs = word ++ rest ∧ word ≠ [] ∧
        standsForItself cs = standsForItself rest) ∨
      standsForItself cs = false ∧
        (Token.sizes (scan false .markup cs).1 + (scan false .markup cs).2.length < cs.length ∨
          ∃ symbols, (scan false .markup cs).1 = Token.ofSymbols symbols ∧
            Token.allShown (scan false .markup cs).1 + (scan false .markup cs).2.length
              < cs.length) := by
  unfold scan
  dsimp only
  split
  · rename_i cs
    cases hopens : opensMarkup cs with
    | true =>
      have hlost := (cutFrom_bracket_of_opens false hopens).1
      -- the bracket itself is gone, whatever it opens
      refine Or.inr ⟨?_, Or.inl (Nat.lt_succ_of_le hlost)⟩
      rw [standsForItself_bracket, hopens]
      rfl
    | false =>
      obtain ⟨word, rest, hword, rfl, hbracket⟩ := bracket_of_not_opens false hopens
      left
      refine ⟨'<' :: word, rest, hbracket, rfl, List.cons_ne_nil _ _, ?_⟩
      rw [standsForItself_bracket, hopens, Bool.not_false, Bool.true_and]
      rcases hword with rfl | rfl
      · rfl
      · rw [List.singleton_append, standsForItself_cons (by decide)]
        rfl
  · rename_i hhead
    have hsplit := cs.takeWhile_append_dropWhile (p := (· != '<'))
    -- up to the next bracket there are references and NULs only
    rcases ofSymbols_decode_cases cs with ⟨hstands, hdecode, hnul⟩ | ⟨hstands, hless⟩
    · left
      have hchunk : cs.takeWhile (· != '<') ≠ [] := by
        cases cs with
        | nil => exact absurd rfl hne
        | cons c cs =>
          have hc : (c != '<') = true := bne_iff_ne.mpr fun heq => hhead cs (heq ▸ rfl)
          rw [List.takeWhile_cons_of_pos (p := (· != '<')) hc]
          exact List.cons_ne_nil _ _
      refine ⟨_, _, ?_, hsplit.symm, hchunk, hstands⟩
      rw [hdecode]
      exact congrArg (·, _) (Token.ofChars_of_not_mem hchunk hnul)
    · right
      refine ⟨hstands, Or.inr ⟨_, rfl, ?_⟩⟩
      have hlength := congrArg List.length hsplit
      rw [List.length_append] at hlength
      dsimp only
      omega

/-! ## Documents that hold nothing but text -/

namespace Document

variable {d : Document} {ts : List String}

/-- Nothing but some texts hangs in the root element, which has no attributes. -/
structure HasTexts (d : Document) (ts : List String) : Prop where
  /-- The fragment, the root element and the texts were made in this order. -/
  contents : d.contents = .fragment :: .element { name := "html" } :: ts.map .text
  /-- They hang in the root element in this order too. -/
  root : d.children rootId = List.range' 2 ts.length
  /-- Nothing hangs in a text. -/
  leaf : ∀ x : Nat, 2 ≤ x → d.children x = []

/-- The document that construction begins with holds no text. -/
theorem hasTexts_empty : HasTexts Document.empty [] where
  contents := rfl
  root := rfl
  leaf x hx := by
    have hne : x ≠ fragmentId := Nat.ne_of_gt (Nat.zero_lt_of_lt hx)
    rw [Construction.children_empty, if_neg hne]

namespace HasTexts

/-- There is a node for each text, behind the first two. -/
theorem size (h : HasTexts d ts) : d.nodes.size = ts.length + 2 := by
  rw [← length_contents, h.contents]
  simp only [List.length_cons, List.length_map]

/-- The root element is there, without attributes. -/
theorem content_root (h : HasTexts d ts) :
    d.content? rootId = some (.element { name := "html" }) := by
  rw [← getElem?_contents, h.contents]
  rfl

/-- It is the only element. -/
theorem element?_eq (h : HasTexts d ts) {x : Nat} {e : Element} (he : d.element? x = some e) :
    e = { name := "html" } := by
  have hmem : Content.element e ∈ d.contents := by
    rw [element?_eq_some_iff, ← getElem?_contents] at he
    exact List.mem_of_getElem? he
  rw [h.contents] at hmem
  rcases List.mem_cons.mp hmem with heq | hmem
  · exact absurd heq nofun
  · rcases List.mem_cons.mp hmem with heq | hmem
    · exact Content.element.inj heq
    · obtain ⟨s, -, heq⟩ := List.mem_map.mp hmem
      exact absurd heq nofun

/-- Content goes into it, since it is no template. -/
theorem contentOf_root (h : HasTexts d ts) : d.contentOf rootId = rootId := by
  unfold contentOf
  rw [element?_eq_some_iff.mpr h.content_root]
  rfl

/-- A new text joins the children of the root element. -/
theorem children_append (h : HasTexts d ts) (s : String) (x : Nat) :
    ((d.add (.text s)).2.append rootId d.nodes.size).children x
      = if x = rootId then d.children rootId ++ [d.nodes.size] else d.children x := by
  have hroot : rootId < (d.add (.text s)).2.nodes.size := by
    rw [size_add, h.size]
    exact Nat.succ_lt_succ (Nat.succ_pos _)
  have hdetach (y : Nat) :
      ((d.add (.text s)).2.detach d.nodes.size).children y = d.children y := by
    rw [children_detach, parent?_add, parent?_size, if_neg nofun, children_add]
  rw [append_eq_hang, children_hang hroot, hdetach]
  split_ifs with hx
  · rw [hx]
  · rfl

/-- A text goes behind the others. -/
theorem append (h : HasTexts d ts) (s : String) :
    HasTexts ((d.add (.text s)).2.append rootId d.nodes.size) (ts ++ [s]) where
  contents := by
    rw [contents_eq (content?_append _ _ _), contents_add, h.contents, List.map_append]
    rfl
  root := by
    rw [h.children_append, if_pos rfl, h.root, h.size, List.length_append, List.length_singleton,
      List.range'_concat, Nat.one_mul, Nat.add_comm ts.length 2]
  leaf x hx := by
    have hne : x ≠ rootId := Nat.ne_of_gt hx
    rw [h.children_append, if_neg hne, h.leaf x hx]

/-- A walk from a text ends there. -/
theorem walk_leaf (h : HasTexts d ts) (n : Nat) {x : Nat} (hx : 2 ≤ x) :
    d.walk (n + 1) x = [x] := by
  rw [walk, h.leaf x hx]
  rfl

/-- **The order of the text is the order of making.** -/
theorem inTextOrder (h : HasTexts d ts) : d.inTextOrder = rootId :: List.range' 2 ts.length := by
  rw [Document.inTextOrder, h.size, walk, h.root]
  refine congrArg (rootId :: ·) ?_
  rw [List.flatMap_congr fun x hx => h.walk_leaf ts.length (List.mem_range'_1.mp hx).1]
  exact List.flatMap_singleton' _

/-- The texts are the nodes behind the first two. -/
theorem text? (h : HasTexts d ts) {i : Nat} (hi : i < ts.length) :
    d.text? (2 + i) = some ts[i] := by
  rw [text?_eq_some_iff, ← getElem?_contents, h.contents, Nat.add_comm]
  simp [hi]

/-- The text of the document is that of its texts, one behind the other. -/
theorem text (h : HasTexts d ts) : d.text = String.join ts := by
  have htexts : (List.range' 2 ts.length).map d.text? = ts.map some := by
    refine List.ext_getElem (by simp) fun i hi _ => ?_
    rw [List.length_map, List.length_range'] at hi
    rw [List.getElem_map, List.getElem_map, List.getElem_range', Nat.one_mul, h.text? hi]
  have hroot : d.text? rootId = none := by
    refine Option.eq_none_iff_forall_ne_some.mpr fun s hs => ?_
    rw [text?_eq_some_iff, h.content_root] at hs
    exact absurd hs nofun
  rw [Document.text, h.inTextOrder, List.filterMap_cons_none hroot]
  have hfilter := congrArg (List.filterMap id) htexts
  rw [List.filterMap_map, List.filterMap_map] at hfilter
  exact congrArg String.join (hfilter.trans (List.filterMap_some))

end HasTexts

end Document

/-! ## Reading text -/

namespace Construction

open Document

variable {d : Document} {ts : List String} {P : String → Prop} {n : Nat}

/-- Text outside of tables is put in its place at once. -/
theorem feed_text (d : Document) (cs : List Char) :
    ({ document := d } : Construction).feed (.text cs)
      = ({ document := d } : Construction).insertText cs := rfl

/-- Neither a NUL nor what has no place in a fragment changes running text. -/
theorem feed_silent (d : Document) {token : Token} (h : token = .null ∨ token = .noise) :
    ({ document := d } : Construction).feed token = { document := d } ∧ token.shown = 0 := by
  rcases h with rfl | rfl
  · exact ⟨rfl, rfl⟩
  · exact ⟨rfl, rfl⟩

/-- A document of texts stays one. -/
theorem insertText_hasTexts (h : HasTexts d ts) (cs : List Char) :
    ∃ d', ({ document := d } : Construction).insertText cs = { document := d' } ∧
      HasTexts d' (ts ++ [String.ofList cs]) := by
  have hplace : ({ document := d } : Construction).placeIn
      ({ document := d } : Construction).current = .lastIn rootId :=
    congrArg Place.lastIn h.contentOf_root
  refine ⟨_, ?_, h.append (String.ofList cs)⟩
  rw [insertText_eq, hplace]
  rfl

/-- What text leads to is again a document of texts, and the text that is shown is paid for. -/
theorem leads_foldl_shown (n : Nat) : ∀ {tokens : List Token} {d : Document} {ts : List String},
    (∀ t ∈ tokens, t = .null ∨ t = .noise ∨ ∃ cs, t = .text cs) → HasTexts d ts →
    ∃ d' ts', tokens.foldl feed { document := d } = { document := d' } ∧ HasTexts d' ts' ∧
      Leads P (n + Token.allShown tokens, { document := d }) (n, { document := d' })
  | [], d, ts, _, h => ⟨d, ts, rfl, h, Leads.refl _⟩
  | token :: tokens, d, ts, htokens, h => by
      have hrest : ∀ t ∈ tokens, t = .null ∨ t = .noise ∨ ∃ cs, t = .text cs := fun t ht =>
        htokens t (List.mem_cons_of_mem _ ht)
      rcases or_assoc.mpr (htokens token List.mem_cons_self) with hsilent | ⟨cs, rfl⟩
      · obtain ⟨hfeed, hshown⟩ := feed_silent d hsilent
        obtain ⟨d', ts', hfold, h', hleads⟩ := leads_foldl_shown n hrest h
        refine ⟨d', ts', by rw [List.foldl_cons, hfeed, hfold], h', ?_⟩
        rw [Token.allShown_cons, hshown, Nat.zero_add]
        exact hleads
      · obtain ⟨d₁, hinsert, h₁⟩ := insertText_hasTexts h cs
        obtain ⟨d', ts', hfold, h', hleads⟩ := leads_foldl_shown n hrest h₁
        refine ⟨d', ts', ?_, h', ?_⟩
        · rw [List.foldl_cons, feed_text, hinsert, hfold]
        · have htext : Leads P (n + Token.allShown tokens + cs.length, { document := d })
              (n + Token.allShown tokens, { document := d₁ }) := by
            rw [← hinsert]
            exact leads_insertText _ cs
          rw [Token.allShown_cons, Token.shown, Nat.add_comm cs.length, ← Nat.add_assoc]
          exact htext.trans hleads

/-- Markup that stands for itself is read as texts that are the markup. -/
theorem readOn_of_stands : ∀ {n : Nat} {cs : List Char} {d : Document} {ts : List String},
    cs.length ≤ n → standsForItself cs = true → HasTexts d ts →
    ∃ d' ts', ({ document := d } : Construction).readOn cs n = { document := d' } ∧
      HasTexts d' ts' ∧ String.join ts' = String.join ts ++ String.ofList cs
  | 0, cs, d, ts, hn, _, h => by
      obtain rfl := List.eq_nil_of_length_eq_zero (Nat.le_zero.mp hn)
      exact ⟨d, ts, rfl, h, String.append_empty.symm⟩
  | n + 1, [], d, ts, _, _, h => ⟨d, ts, rfl, h, String.append_empty.symm⟩
  | n + 1, c :: cs, d, ts, hn, hstands, h => by
      rcases scan_cases (List.cons_ne_nil c cs) with
        ⟨word, rest, hscan, hcs, hword, hrest⟩ | ⟨hnot, -⟩
      · obtain ⟨d₁, hinsert, h₁⟩ := insertText_hasTexts h word
        have hlength := congrArg List.length hcs
        have hpos := List.length_pos_iff.mpr hword
        rw [List.length_append] at hlength
        have hle : rest.length ≤ n := by
          rw [hlength] at hn
          omega
        obtain ⟨d', ts', hread, h', hjoin⟩ := readOn_of_stands hle (hrest ▸ hstands) h₁
        refine ⟨d', ts', ?_, h', ?_⟩
        · rw [readOn_cons { document := d } hscan, List.foldl_cons, feed_text, hinsert]
          exact hread
        · rw [hjoin, hcs, String.join_append, String.join_cons, String.join_nil,
            String.append_empty, String.ofList_append, String.append_assoc]
      · rw [hstands] at hnot
        exact absurd hnot nofun

/-- Of other markup something is lost. -/
theorem leads_readOn_of_not_stands (k : Nat) :
    ∀ {n : Nat} {cs : List Char} {d : Document} {ts : List String},
      cs.length ≤ k → standsForItself cs = false → HasTexts d ts →
      Leads (·.length < k) (cs.length - 1, { document := d })
        (0, ({ document := d } : Construction).readOn cs n)
  | 0, cs, d, ts, _, _, _ => (Leads.refl _).spend (Nat.zero_le _)
  | n + 1, [], d, ts, _, _, _ => Leads.refl _
  | n + 1, c :: cs, d, ts, hk, hstands, h => by
      have hcut := cutFrom_scan false .markup (c :: cs)
      rcases scan_cases (List.cons_ne_nil c cs) with
        ⟨word, rest, hscan, hcs, hword, hrest⟩ | ⟨-, hless | ⟨symbols, hsymbols, hless⟩⟩
      · -- nothing is lost yet, so it is further behind
        obtain ⟨d₁, hinsert, h₁⟩ := insertText_hasTexts h word
        rw [readOn_cons { document := d } hscan, List.foldl_cons, feed_text, hinsert]
        have hlength := congrArg List.length hcs
        have hpos := List.length_pos_iff.mpr hword
        rw [List.length_append] at hlength
        have hsome : rest ≠ [] := by
          rintro rfl
          rw [hrest] at hstands
          exact absurd hstands nofun
        have hpos' := List.length_pos_iff.mpr hsome
        have htext : Leads (·.length < k) (rest.length - 1 + word.length, { document := d })
            (rest.length - 1, { document := d₁ }) := by
          rw [← hinsert]
          exact leads_insertText _ word
        have hmore := leads_readOn_of_not_stands k (n := n) (by omega) (hrest ▸ hstands) h₁
        have heq : (c :: cs).length - 1 = rest.length - 1 + word.length := by omega
        rw [heq]
        exact htext.trans hmore
      · -- what is lost here is not to come again, whatever is behind it
        have hfits := hcut.fits hk
        generalize hscan : scan false .markup (c :: cs) = cut at hless hfits
        obtain ⟨tokens, rest⟩ := cut
        rw [readOn_cons { document := d } hscan]
        dsimp only at hless hfits
        exact (leads_feedAll _ (by omega) hfits).trans (leads_readOn k n _ rest (by omega))
      · -- what is lost here was written for a reference or a NUL, and only text comes of it
        generalize hscan : scan false .markup (c :: cs) = cut at hsymbols hless
        obtain ⟨tokens, rest⟩ := cut
        rw [readOn_cons { document := d } hscan]
        dsimp only at hsymbols hless
        subst hsymbols
        obtain ⟨d', ts', hfold, h', hleads⟩ := leads_foldl_shown (P := (·.length < k)) rest.length
          (fun _ => Token.mem_ofSymbols) h
        rw [hfold]
        refine (((Leads.refl _).spend ?_).trans hleads).trans (leads_readOn k n _ rest (by omega))
        omega

end Construction

/-! ## Fragments -/

open Document Construction

/-- Whether markup stands for itself, its line ends included. -/
def isLiteral (cs : List Char) : Bool := !cs.contains '\r' && standsForItself cs

/-- There is no carriage return in a text whose lines end with a line feed. -/
theorem not_mem_lineFeeds (cs : List Char) : '\r' ∉ lineFeeds cs := by
  fun_induction lineFeeds cs with
  | case1 => exact List.not_mem_nil
  | case2 cs ih => exact List.not_mem_cons_of_ne_of_not_mem (by decide) ih
  | case3 c cs _ ih =>
    refine List.not_mem_cons_of_ne_of_not_mem ?_ ih
    split_ifs with hc
    · decide
    · exact fun heq => hc (beq_iff_eq.mpr heq.symm)

/-- A text without one stays as it is. -/
theorem lineFeeds_of_not_mem (h : '\r' ∉ cs) : lineFeeds cs = cs := by
  fun_induction lineFeeds cs with
  | case1 => rfl
  | case2 cs _ => exact absurd List.mem_cons_self h
  | case3 c cs _ ih =>
    have hc : (c == '\r') = false :=
      beq_eq_false_iff_ne.mpr fun heq => h (heq ▸ List.mem_cons_self)
    rw [ih fun hmem => h (List.mem_cons_of_mem c hmem), hc, if_neg Bool.false_ne_true]

/-- **Markup that stands for itself is read as texts that are the markup.** -/
theorem hasTexts_ofFragment (h : standsForItself (lineFeeds cs) = true) :
    ∃ ts, HasTexts (Document.ofFragment cs) ts ∧
      String.join ts = String.ofList (lineFeeds cs) := by
  obtain ⟨d, ts, hread, hd, hjoin⟩ := readOn_of_stands (Nat.le_refl _) h hasTexts_empty
  have hfragment : Document.ofFragment cs = d := by
    show (({} : Construction).readOn (lineFeeds cs) (lineFeeds cs).length).finish.document = d
    rw [show ({} : Construction) = { document := Document.empty } from rfl, hread]
    rfl
  exact ⟨ts, hfragment ▸ hd, hjoin.trans (String.empty_append)⟩

/-- **Markup that does not stand for itself has less text than characters.** -/
theorem length_text_ofFragment_lt (h : standsForItself (lineFeeds cs) = false) :
    (Document.ofFragment cs).text.length < cs.length := by
  have hlength := length_lineFeeds cs
  have hpos : 0 < (lineFeeds cs).length := by
    rw [List.length_pos_iff]
    intro hnil
    rw [hnil] at h
    exact absurd h nofun
  have hleads := (leads_readOn_of_not_stands cs.length (n := (lineFeeds cs).length) hlength h
    hasTexts_empty).trans (leads_finish _)
  have htext := hleads.fragment.2.1
  have hle : (Document.ofFragment cs).text.length ≤ (lineFeeds cs).length - 1 := htext
  omega

end TidyTable.Html
