import TidyTable.Proofs.Html.Characters
import TidyTable.Proofs.Html.Rules

/-!
# Cutting loses, and never makes

The pieces that are cut from markup have no more text than what they are cut from, and no attribute
in them has a value as long as that.
-/

namespace TidyTable.Html

/-! ## Text -/

namespace Token

variable {P : String → Prop} {symbols : List Symbol} {c : Char} {tokens : List Token}

/-- How many characters of text some tokens can put into a document. -/
def sizes (tokens : List Token) : Nat := (tokens.map size).sum

@[simp] theorem sizes_nil : sizes [] = 0 := rfl

@[simp] theorem sizes_cons (token : Token) (tokens : List Token) :
    sizes (token :: tokens) = token.size + sizes tokens :=
  List.sum_cons

@[simp] theorem sizes_append (tokens tokens' : List Token) :
    sizes (tokens ++ tokens') = sizes tokens + sizes tokens' := by
  rw [sizes, List.map_append, List.sum_append]
  rfl

/-- A character makes one more, whether it is a NUL, goes on with a text or begins one. -/
@[simp] theorem sizes_cons_char (c : Char) (tokens : List Token) :
    sizes (cons c tokens) = sizes tokens + 1 := by
  unfold cons
  split_ifs
  · rw [sizes_cons, size]
    omega
  · split
    · simp only [sizes_cons, size, List.length_cons]
      omega
    · simp only [sizes_cons, size, List.length_singleton]
      omega

/-- What a reference breaks off in is no text. -/
theorem sizes_ofSymbols : ∀ symbols : List Symbol,
    sizes (ofSymbols symbols) = (Symbol.chars symbols).length
  | [] => rfl
  | .char c :: rest => by
      rw [ofSymbols, sizes_cons_char, sizes_ofSymbols rest]
      rfl
  | .incomplete :: rest => by
      rw [ofSymbols, sizes_cons, sizes_ofSymbols rest]
      exact Nat.zero_add _

@[simp] theorem sizes_ofChars (cs : List Char) : sizes (ofChars cs) = cs.length := by
  rw [ofChars, sizes_ofSymbols, Symbol.chars_map_char]

/-- A character makes no tag. -/
theorem mem_cons_char {t : Token} (ht : t ∈ cons c tokens) :
    t = null ∨ (∃ cs, t = text cs) ∨ t ∈ tokens := by
  unfold cons at ht
  split_ifs at ht
  · exact (List.mem_cons.mp ht).imp_right Or.inr
  · split at ht
    · rcases List.mem_cons.mp ht with rfl | ht
      · exact Or.inr (Or.inl ⟨_, rfl⟩)
      · exact Or.inr (Or.inr (List.mem_cons_of_mem _ ht))
    · rcases List.mem_cons.mp ht with rfl | ht
      · exact Or.inr (Or.inl ⟨_, rfl⟩)
      · exact Or.inr (Or.inr ht)

/-- No tag comes from symbols. -/
theorem mem_ofSymbols : ∀ {symbols : List Symbol} {t : Token}, t ∈ ofSymbols symbols →
    t = null ∨ t = noise ∨ ∃ cs, t = text cs
  | .char _ :: _, _, ht => by
      rcases mem_cons_char ht with ht | ht | ht
      · exact Or.inl ht
      · exact Or.inr (Or.inr ht)
      · exact mem_ofSymbols ht
  | .incomplete :: _, _, ht => by
      rcases List.mem_cons.mp ht with ht | ht
      · exact Or.inr (Or.inl ht)
      · exact mem_ofSymbols ht

theorem fits_ofSymbols (symbols : List Symbol) : ∀ t ∈ ofSymbols symbols, t.Fits P := by
  intro t ht
  rcases mem_ofSymbols ht with rfl | rfl | ⟨cs, rfl⟩ <;> trivial

end Token

/-! ## Tags -/

variable {cs v rest : List Char}

theorem length_skipSpace_le (cs : List Char) : (skipSpace cs).length ≤ cs.length :=
  (cs.dropWhile_suffix _).length_le

/-- Neither a value between quotes nor what is behind it is longer than what is read. -/
theorem quoted?_spec {quote : Char} (h : quoted? quote cs = some (v, rest)) :
    v.length ≤ cs.length ∧ rest.length ≤ cs.length := by
  unfold quoted? at h
  split at h
  · exact absurd h nofun
  · rename_i c r hdrop
    obtain ⟨rfl, rfl⟩ := Prod.mk.inj (Option.some.inj h)
    have hle := (cs.dropWhile_suffix (· != quote)).length_le
    rw [hdrop, List.length_cons] at hle
    exact ⟨(cs.takeWhile_sublist _).length_le, Nat.le_of_succ_le hle⟩

/-- Nor is a value without quotes. -/
theorem value?_spec (h : value? cs = some (v, rest)) :
    v.length ≤ cs.length ∧ rest.length ≤ cs.length := by
  unfold value? at h
  split at h
  · have hspec := quoted?_spec h
    simp only [List.length_cons]
    omega
  · have hspec := quoted?_spec h
    simp only [List.length_cons]
    omega
  · obtain ⟨rfl, rfl⟩ := Prod.mk.inj (Option.some.inj h)
    exact ⟨(List.takeWhile_sublist _).length_le, (List.dropWhile_suffix _).length_le⟩

/-- An attribute without a value has the empty one. -/
theorem attributeValue?_spec (h : attributeValue? cs = some (v, rest)) :
    v.length ≤ cs.length ∧ rest.length ≤ cs.length := by
  have hskip := length_skipSpace_le cs
  unfold attributeValue? at h
  split at h
  · rename_i r hr
    have hspec := value?_spec h
    have hskip' := length_skipSpace_le r
    rw [hr, List.length_cons] at hskip
    omega
  · obtain ⟨rfl, rfl⟩ := Prod.mk.inj (Option.some.inj h)
    exact ⟨Nat.zero_le _, hskip⟩

/-- What is read of a tag behind its name is behind it, and so are all values in full. -/
theorem tagEnd?_spec : ∀ {e : TagEnd}, tagEnd? cs = some e →
    e.rest.length ≤ cs.length ∧ ∀ a ∈ e.attributes, a.value.length < cs.length := by
  fun_induction tagEnd? cs with
  | case1 => exact fun h => absurd h nofun
  | case2 cs rest hskip =>
    -- the tag ends here
    have hle := length_skipSpace_le cs
    rw [hskip, List.length_cons] at hle
    intro e h
    obtain rfl := Option.some.inj h
    exact ⟨Nat.le_of_succ_le hle, fun a ha => absurd ha List.not_mem_nil⟩
  | case3 cs rest hskip =>
    -- the tag closes itself
    have hle := length_skipSpace_le cs
    rw [hskip, List.length_cons, List.length_cons] at hle
    intro e h
    obtain rfl := Option.some.inj h
    exact ⟨by dsimp only; omega, fun a ha => absurd ha List.not_mem_nil⟩
  | case4 cs rest _ hskip ih =>
    -- a slash that is no end
    have hle := length_skipSpace_le cs
    rw [hskip, List.length_cons] at hle
    intro e h
    obtain ⟨hrest, hvalues⟩ := ih h
    exact ⟨by omega, fun a ha => Nat.lt_trans (hvalues a ha) (by omega)⟩
  | case5 => exact fun h => absurd h nofun
  | case6 cs c r _ _ _ hskip v rest hv =>
    -- an attribute: its name takes a character at least, so its value is shorter than what is read
    rename_i ih
    have hle := length_skipSpace_le cs
    rw [hskip, List.length_cons] at hle
    obtain ⟨hvalue, hafter⟩ := attributeValue?_spec hv
    have hdrop := (r.dropWhile_suffix (!endsAttributeName ·)).length_le
    intro e h
    obtain ⟨e', he', rfl⟩ := Option.map_eq_some_iff.mp h
    obtain ⟨hrest, hvalues⟩ := ih he'
    refine ⟨by show e'.rest.length ≤ _; omega, fun a ha => ?_⟩
    rcases List.mem_cons.mp ha with rfl | ha
    · have hdecoded := length_attributeValue_le v
      rw [String.length_ofList]
      omega
    · have hlt := hvalues a (List.mem_of_mem_filter ha)
      omega

/-- A whole tag is at least as long as what is behind it and longer than any of its values. -/
theorem tag?_spec {tag : Tag} (h : tag? cs = some (tag, rest)) :
    rest.length ≤ cs.length ∧ ∀ a ∈ tag.attributes, a.value.length < cs.length := by
  have hdrop := (cs.dropWhile_suffix (!endsTagName ·)).length_le
  obtain ⟨e, he, heq⟩ := Option.map_eq_some_iff.mp h
  obtain ⟨rfl, rfl⟩ := Prod.mk.inj heq
  obtain ⟨hrest, hvalues⟩ := tagEnd?_spec he
  exact ⟨Nat.le_trans hrest hdrop, fun a ha => Nat.lt_of_lt_of_le (hvalues a ha) hdrop⟩

/-- Some pieces and a rest are cut from markup: they have no more text than there was, and only
shorter values. -/
def CutFrom (cs : List Char) (cut : List Token × List Char) : Prop :=
  Token.sizes cut.1 + cut.2.length ≤ cs.length ∧ ∀ t ∈ cut.1, t.Fits (·.length < cs.length)

/-- What is cut from a text has only values that are shorter than any text as long as that. -/
theorem CutFrom.fits {cut : List Token × List Char} {k : Nat} (h : CutFrom cs cut)
    (hk : cs.length ≤ k) : ∀ t ∈ cut.1, t.Fits (·.length < k) := by
  intro t ht
  have hfits := h.2 t ht
  cases t with
  | startTag tag => exact fun a ha => Nat.lt_of_lt_of_le (hfits a ha) hk
  | _ => trivial

/-- What is cut from the end of a text is cut from the text. -/
theorem CutFrom.mono {cs cs' : List Char} {cut : List Token × List Char} (h : CutFrom cs cut)
    (hle : cs.length ≤ cs'.length) : CutFrom cs' cut :=
  ⟨Nat.le_trans h.1 hle, h.fits hle⟩

/-- A piece that is neither text nor a start tag has nothing in it. -/
theorem cutFrom_of_le {token : Token} (hsize : token.size = 0) (hfits : ∀ P, token.Fits P)
    (h : rest.length ≤ cs.length) : CutFrom cs ([token], rest) := by
  refine ⟨?_, fun t ht => ?_⟩
  · rw [Token.sizes_cons, hsize, Token.sizes_nil]
    dsimp only
    omega
  · rw [List.mem_singleton.mp ht]
    exact hfits _

/-- A start tag that does not end takes all that is left and gives nothing. -/
theorem cutFrom_startTag (cs : List Char) : CutFrom cs (startTag cs) := by
  unfold startTag
  split
  · rename_i tag rest htag
    obtain ⟨hrest, hvalues⟩ := tag?_spec htag
    refine ⟨?_, fun t ht => ?_⟩
    · show 0 + rest.length ≤ cs.length
      rwa [Nat.zero_add]
    · rw [List.mem_singleton.mp ht]
      exact hvalues
  · exact ⟨Nat.zero_le _, fun t ht => absurd ht List.not_mem_nil⟩

/-- What stands in an end tag is lost. -/
theorem cutFrom_endTag (cs : List Char) : CutFrom cs (endTag cs) := by
  unfold endTag
  split
  · rename_i tag rest htag
    exact cutFrom_of_le rfl (fun _ => trivial) (tag?_spec htag).1
  · exact ⟨Nat.zero_le _, fun t ht => absurd ht List.not_mem_nil⟩

/-! ## Other markup -/

/-- What stands before a closing bracket is lost, and the bracket too. -/
theorem length_afterBracket (cs : List Char) : (afterBracket cs).length ≤ cs.length :=
  Nat.le_trans (List.drop_suffix 1 _).length_le (cs.dropWhile_suffix _).length_le

/-- So is what stands before the end of a comment. -/
theorem length_afterDashes (cs : List Char) : (afterDashes cs).length ≤ cs.length := by
  fun_induction afterDashes cs with
  | case1 => exact Nat.le_refl _
  | case2 rest => simp only [List.length_cons]; omega
  | case3 rest => simp only [List.length_cons]; omega
  | case4 c cs _ _ ih => exact Nat.le_succ_of_le ih

/-- A comment may end in what opens it. -/
theorem length_afterComment (cs : List Char) : (afterComment cs).length ≤ cs.length := by
  unfold afterComment
  split
  · exact Nat.le_succ _
  · simp only [List.length_cons]
    omega
  · exact length_afterDashes cs

/-- A literal and what is behind it; the brackets between them are lost. -/
theorem length_literal (cs : List Char) :
    (literal cs).1.length + (literal cs).2.length ≤ cs.length := by
  fun_induction literal cs with
  | case1 => exact Nat.le_refl _
  | case2 rest => simp only [List.length_cons, List.length_nil]; omega
  | case3 c cs _ text rest heq ih =>
    rw [heq] at ih
    simp only [List.length_cons] at ih ⊢
    omega

/-- Only a literal has text in it; any other declaration is lost. -/
theorem cutFrom_declaration (literals : Bool) (cs : List Char) :
    CutFrom cs (declaration literals cs) := by
  unfold declaration
  split_ifs
  · exact cutFrom_of_le rfl (fun _ => trivial) (length_afterBracket cs)
  · have hlength := length_literal (cs.drop 7)
    have hdrop := (List.drop_suffix 7 cs).length_le
    refine ⟨?_, Token.fits_ofSymbols _⟩
    rw [Token.sizes_ofChars]
    dsimp only
    omega
  · exact cutFrom_of_le rfl (fun _ => trivial) (length_afterBracket cs)

/-- Whether markup begins behind an opening bracket. -/
def opensMarkup : List Char → Bool
  | '!' :: _ => true
  | '?' :: _ => true
  | '/' :: _ :: _ => true
  | c :: _ => c.isAlpha
  | [] => false

/-- A character opens markup by what it is. Only a slash asks for one more. -/
theorem opensMarkup_cons {c : Char} (hc : ¬c.isAlpha) (hbang : c ≠ '!') (hmark : c ≠ '?')
    (hslash : ∀ d r, c = '/' → rest ≠ d :: r) : opensMarkup (c :: rest) = false := by
  unfold opensMarkup
  split
  · rename_i r heq
    exact absurd (List.cons.inj heq).1 hbang
  · rename_i r heq
    exact absurd (List.cons.inj heq).1 hmark
  · rename_i d r heq
    obtain ⟨rfl, rfl⟩ := List.cons.inj heq
    exact absurd rfl (hslash d r rfl)
  · rename_i c' r _ _ _ heq
    obtain ⟨rfl, rfl⟩ := List.cons.inj heq
    exact Bool.eq_false_iff.mpr hc
  · rfl

/-- The bracket that opens markup is lost. -/
theorem cutFrom_bracket_of_opens (literals : Bool) (h : opensMarkup cs = true) :
    CutFrom cs (bracket literals cs) := by
  -- the cases are those of the rule; in the sixth and the last no markup is opened
  unfold bracket
  split
  · rename_i rest
    refine cutFrom_of_le rfl (fun _ => trivial) (Nat.le_trans (length_afterComment rest) ?_)
    simp only [List.length_cons]
    omega
  · exact (cutFrom_declaration literals _).mono (Nat.le_succ _)
  · exact cutFrom_of_le rfl (fun _ => trivial) (Nat.le_succ_of_le (length_afterBracket _))
  · refine cutFrom_of_le rfl (fun _ => trivial) ?_
    simp only [List.length_cons]
    omega
  · split_ifs
    · exact (cutFrom_endTag _).mono (Nat.le_succ _)
    · exact cutFrom_of_le rfl (fun _ => trivial) (Nat.le_succ_of_le (length_afterBracket _))
  · exact absurd h nofun
  · split_ifs with halpha
    · exact cutFrom_startTag _
    · rename_i hbang hmark _ hslash _
      rw [opensMarkup_cons halpha hbang hmark hslash] at h
      exact absurd h nofun
  · exact absurd h nofun

/-- A bracket that opens nothing is text. -/
theorem bracket_of_not_opens (literals : Bool) (h : opensMarkup cs = false) :
    ∃ word rest, (word = [] ∨ word = ['/']) ∧ cs = word ++ rest ∧
      bracket literals cs = ([.text ('<' :: word)], rest) := by
  -- the first five cases of the rule open markup; a slash at the end of the text does not
  unfold bracket
  split
  · exact absurd h nofun
  · exact absurd h nofun
  · exact absurd h nofun
  · exact absurd h nofun
  · exact absurd h nofun
  · exact ⟨['/'], [], Or.inr rfl, rfl, rfl⟩
  · rename_i c rest _ hbang hmark _ hslash hlone
    have halpha : ¬c.isAlpha := by
      intro halpha
      unfold opensMarkup at h
      split at h
      · exact absurd h nofun
      · exact absurd h nofun
      · exact absurd h nofun
      · rename_i heq
        obtain ⟨rfl, rfl⟩ := List.cons.inj heq
        rw [halpha] at h
        exact absurd h nofun
      · rename_i heq
        exact absurd heq nofun
    rw [if_neg halpha]
    exact ⟨[], c :: rest, Or.inl rfl, rfl, rfl⟩
  · exact ⟨[], [], Or.inl rfl, rfl, rfl⟩

/-- **Whatever stands behind a bracket, cutting loses.** -/
theorem cutFrom_bracket (literals : Bool) (cs : List Char) :
    CutFrom ('<' :: cs) (bracket literals cs) := by
  cases hopens : opensMarkup cs with
  | true => exact (cutFrom_bracket_of_opens literals hopens).mono (Nat.le_succ _)
  | false =>
    obtain ⟨word, rest, -, rfl, hbracket⟩ := bracket_of_not_opens literals hopens
    rw [hbracket]
    refine ⟨?_, fun t ht => ?_⟩
    · simp only [Token.sizes_cons, Token.sizes_nil, Token.size, List.length_cons,
        List.length_append]
      omega
    · rw [List.mem_singleton.mp ht]
      trivial

/-! ## Raw content -/

/-- Raw content is cut where the tag that closes it begins. -/
theorem length_untilClosed (name : List Char) : ∀ cs : List Char,
    (untilClosed name cs).1.length + (untilClosed name cs).2.length = cs.length
  | [] => rfl
  | c :: cs => by
      have ih := length_untilClosed name cs
      unfold untilClosed
      split_ifs
      · exact Nat.zero_add _
      · simp only [List.length_cons]
        omega

/-- So is a script, wherever that may be. -/
theorem length_untilScriptCloses : ∀ (cs : List Char) (part : ScriptPart),
    (untilScriptCloses part cs).1.length + (untilScriptCloses part cs).2.length = cs.length
  | [], _ => rfl
  | c :: cs, part => by
      have ih := length_untilScriptCloses cs (part.next (c :: cs))
      unfold untilScriptCloses
      split_ifs
      · exact Nat.zero_add _
      · simp only [List.length_cons]
        omega

/-- A reference in raw content stands for no more than it takes, and a NUL for one character. -/
theorem cutFrom_rawContent (kind : RawKind) (name : String) (cs : List Char) :
    CutFrom cs (rawContent kind name cs) := by
  have hclosed := length_untilClosed name.toList cs
  have hscript := length_untilScriptCloses cs .plain
  unfold rawContent
  cases kind with
  | escapable =>
    have hdecoded := Symbol.length_decode false ((untilClosed name.toList cs).1.map denull)
    rw [List.length_map] at hdecoded
    refine ⟨?_, Token.fits_ofSymbols _⟩
    rw [Token.sizes_ofSymbols]
    dsimp only
    omega
  | verbatim =>
    refine ⟨?_, Token.fits_ofSymbols _⟩
    rw [Token.sizes_ofChars, List.length_map]
    dsimp only
    omega
  | script =>
    refine ⟨?_, Token.fits_ofSymbols _⟩
    rw [Token.sizes_ofChars, List.length_map]
    dsimp only
    omega

/-- Behind raw content comes the tag that closes it, without the bracket and the slash. -/
theorem cutFrom_rawElement (kind : RawKind) (name : String) (cs : List Char) :
    CutFrom cs (rawElement kind name cs) := by
  obtain ⟨hsizes, hfits⟩ := cutFrom_rawContent kind name cs
  have hdrop := (List.drop_suffix 2 (rawContent kind name cs).2).length_le
  have hfits' := (cutFrom_endTag ((rawContent kind name cs).2.drop 2)).fits (k := cs.length)
    (by omega)
  unfold rawElement
  refine ⟨?_, fun t ht => ?_⟩
  · rw [Token.sizes_append]
    have hend := (cutFrom_endTag ((rawContent kind name cs).2.drop 2)).1
    dsimp only
    omega
  · rcases List.mem_append.mp ht with ht | ht
    · exact hfits t ht
    · exact hfits' t ht

/-! ## Any markup -/

/-- **Cutting loses, and never makes.** -/
theorem cutFrom_scan (literals : Bool) (reading : Reading) (cs : List Char) :
    CutFrom cs (scan literals reading cs) := by
  unfold scan
  split
  -- behind a tag that makes all plain text, in raw content, and in markup
  · refine ⟨?_, Token.fits_ofSymbols _⟩
    rw [Token.sizes_ofChars, List.length_map]
    exact Nat.le_refl _
  · exact cutFrom_rawElement _ _ cs
  · split
    · exact cutFrom_bracket literals _
    · have hdecoded := Symbol.length_decode false (cs.takeWhile (· != '<'))
      have hsplit := congrArg List.length (cs.takeWhile_append_dropWhile (p := (· != '<')))
      rw [List.length_append] at hsplit
      refine ⟨?_, Token.fits_ofSymbols _⟩
      rw [Token.sizes_ofSymbols]
      dsimp only
      omega

/-- Two characters may become one line feed, and none becomes two. -/
theorem length_lineFeeds (cs : List Char) : (lineFeeds cs).length ≤ cs.length := by
  fun_induction lineFeeds cs with
  | case1 => exact Nat.le_refl _
  | case2 cs ih => exact Nat.le_succ_of_le (Nat.succ_le_succ ih)
  | case3 c cs _ ih => exact Nat.succ_le_succ ih

namespace Construction

variable {P : String → Prop}

/-- One step of reading: pieces are cut off and fed one by one. -/
theorem readOn_cons (b : Construction) {c : Char} {cs rest : List Char}
    {tokens : List Token} {n : Nat}
    (h : scan b.takesLiterals b.reading (c :: cs) = (tokens, rest)) :
    b.readOn (c :: cs) (n + 1)
      = (tokens.foldl feed { b with reading := .markup }).readOn rest n := by
  rw [readOn, h]
  exact nofun

/-- What is left of the input has not been paid for yet. -/
theorem leads_feedAll (b : Construction) {tokens : List Token} {rest : List Char} {m : Nat}
    (hm : Token.sizes tokens + rest.length ≤ m) (hfits : ∀ t ∈ tokens, t.Fits P) :
    Leads P (m, b) (rest.length, tokens.foldl feed { b with reading := .markup }) := by
  have hspend : Leads P (m, b) (rest.length + (tokens.map Token.size).sum, b) :=
    (Leads.refl _).spend (Nat.add_comm _ _ ▸ hm)
  have hread : Leads P (m, b)
      (rest.length + (tokens.map Token.size).sum, { b with reading := .markup }) :=
    hspend.same rfl rfl rfl rfl
  exact hread.trans (leads_foldl_feed tokens _ hfits)

/-- What is read on from some input is made of it. -/
theorem leads_readOn (k : Nat) : ∀ (n : Nat) (b : Construction) (cs : List Char), cs.length ≤ k →
    Leads (·.length < k) (cs.length, b) (0, b.readOn cs n)
  | 0, b, cs, _ => (Leads.refl _).spend (Nat.zero_le _)
  | n + 1, b, [], _ => Leads.refl _
  | n + 1, b, c :: cs, hk => by
      have hcut := cutFrom_scan b.takesLiterals b.reading (c :: cs)
      generalize hrest : scan b.takesLiterals b.reading (c :: cs) = cut at hcut
      obtain ⟨tokens, rest⟩ := cut
      have hle : rest.length ≤ k := by
        have hsizes : Token.sizes tokens + rest.length ≤ (c :: cs).length := hcut.1
        omega
      rw [readOn_cons b hrest]
      exact (leads_feedAll b hcut.1 (hcut.fits hk)).trans (leads_readOn k n _ rest hle)

/-- **The document of a fragment is led to by steps**, from the start and with as many characters as
the fragment has. -/
theorem leads_ofFragment (cs : List Char) (k : Nat) (hk : cs.length ≤ k) :
    ∃ b : Construction, b.document = Document.ofFragment cs ∧
      Leads (·.length < k) ((lineFeeds cs).length, {}) (0, b) :=
  ⟨_, rfl, (leads_readOn k _ {} _ (Nat.le_trans (length_lineFeeds cs) hk)).trans (leads_finish _)⟩

end Construction

end TidyTable.Html
