import TidyTable.Html.Fragment
import TidyTable.Proofs.Html.Steps

/-!
# Every rule takes steps

The rules of the modes one after another. Each of them leads from what was there to what it makes of
it by steps alone, and spends no more characters than the token has that it takes.
-/

namespace TidyTable.Html

/-- How many characters of text a token can put into a document. -/
def Token.size : Token → Nat
  | .text cs => cs.length
  | .null => 1
  | _ => 0

/-- Whether the values of all attributes in a token are allowed. -/
def Token.Fits (P : String → Prop) : Token → Prop
  | .startTag tag => tag.Fits P
  | _ => True

variable {P : String → Prop} {n : Nat} {tag : Tag} {token : Token} {cs : List Char}

/-- A tag is respelled without its values. -/
theorem Tag.Fits.adjusted (h : tag.Fits P) (space : Space) : (tag.adjusted space).Fits P := by
  have hvalue : ∀ (names : List String) (a : Attribute), (a.adjusted names).value = a.value := by
    intro names a
    unfold Attribute.adjusted
    split <;> rfl
  intro a ha
  cases space with
  | html => exact h a ha
  | svg =>
    obtain ⟨a', ha', rfl⟩ := List.mem_map.mp ha
    rw [hvalue]
    exact h a' ha'
  | mathml =>
    obtain ⟨a', ha', rfl⟩ := List.mem_map.mp ha
    rw [hvalue]
    exact h a' ha'

namespace Construction

/-! ## Running text -/

/-- Only a template puts a marker into the formatting; every other element of the head is added. -/
theorem leads_startHead (b : Construction) (h : tag.Fits P) :
    Leads P (n, b) (n, b.startHead tag) := by
  unfold startHead
  split_ifs
  · exact leads_insertVoid b h
  · exact leads_insertRaw b _ h
  · exact leads_insertRaw b _ h
  · exact ((leads_insert b h).trans (leads_pushMarker _)).same rfl rfl rfl rfl
  · exact leads_insertRaw b _ h

/-- A template ends with all that is open in it, and with the formatting since its marker. -/
theorem leads_endTemplate (b : Construction) : Leads P (n, b) (n, b.endTemplate) := by
  unfold endTemplate
  split_ifs
  · have hclose := ((leads_popImplied (P := P) (n := n) b endsImpliedInTemplate).trans
      (leads_popThrough _ ["template"])).trans (leads_clearToMarker _)
    exact hclose.same rfl rfl rfl rfl
  · exact Leads.refl _

/-- A foreign element is added under its own name and vocabulary, and closed at once if it says so.
-/
theorem leads_insertForeign (b : Construction) (space : Space) (h : tag.Fits P) :
    Leads P (n, b) (n, b.insertForeign space tag) := by
  have hinsert : Leads P (n, b) (n, b.insertElement
      { space, name := tag.name, attributes := tag.attributes }) :=
    .single (.element n b (Or.inl h))
  unfold insertForeign
  dsimp only
  split_ifs
  · exact hinsert.trans (leads_pop _)
  · exact hinsert

/-- The item that is open may be closed first, and then a paragraph. -/
theorem leads_startItem (b : Construction) (names : List String) (h : tag.Fits P) :
    Leads P (n, b) (n, b.startItem names tag) := by
  unfold startItem
  dsimp only
  refine Leads.trans ?_ ((leads_endParagraph _).trans (leads_insert _ h))
  split
  · split_ifs
    · exact (leads_closeImpliedExcept b _).trans (leads_popThrough _ _)
    · exact Leads.refl _
  · exact Leads.refl _

/-- Which form is open is only a note. -/
theorem leads_startForm (b : Construction) (h : tag.Fits P) :
    Leads P (n, b) (n, b.startForm tag) := by
  have hinsert := (leads_endParagraph (n := n) b).trans (leads_insert b.endParagraph h)
  unfold startForm
  split_ifs
  · exact hinsert
  · exact Leads.refl _
  · exact hinsert.same rfl rfl rfl rfl

theorem leads_startButton (b : Construction) (h : tag.Fits P) :
    Leads P (n, b) (n, b.startButton tag) := by
  unfold startButton
  dsimp only
  refine Leads.trans ?_ ((leads_reconstruct _).trans (leads_insert _ h))
  split_ifs
  · exact (leads_closeImplied b).trans (leads_popThrough _ _)
  · exact Leads.refl _

/-- Text that does not break is formatting, so its tag may be noted. -/
theorem leads_startUnbroken (b : Construction) (h : tag.Fits P)
    (hname : tag.name ∈ formattingTags) : Leads P (n, b) (n, b.startUnbroken tag) := by
  unfold startUnbroken
  dsimp only
  refine (leads_reconstruct b).trans (Leads.trans ?_ (leads_insertFormatting _ h hname))
  split_ifs
  · exact (leads_endFormatting _ _).trans (leads_reconstruct _)
  · exact Leads.refl _

theorem leads_startSelect (b : Construction) (h : tag.Fits P) :
    Leads P (n, b) (n, b.startSelect tag) :=
  ((leads_reconstruct b).trans (leads_insert _ h)).same rfl rfl rfl rfl

/-- A rule that decides between two others leads where each of them does. -/
theorem leads_ite {c : Prop} [Decidable c] {s : Nat × Construction} {b b' : Construction}
    (h : c → Leads P s (n, b)) (h' : ¬ c → Leads P s (n, b')) :
    Leads P s (n, if c then b else b') := by
  split_ifs with hc
  · exact h hc
  · exact h' hc

/-- **Every start tag of running text takes steps.** The cases are those of the rule, in its order.
-/
theorem leads_startBody (b : Construction) (h : tag.Fits P) :
    Leads P (n, b) (n, b.startBody tag) := by
  have hopen := leads_reconstruct (P := P) (n := n) b
  have hend := leads_endParagraph (P := P) (n := n) b
  have hinsert : Leads P (n, b) (n, b.endParagraph.insert tag) := hend.trans (leads_insert _ h)
  have hreopen : Leads P (n, b) (n, b.reconstruct.insert tag) := hopen.trans (leads_insert _ h)
  have hoption : ∀ c : Bool, Leads P (n, b) (n, if c then b.pop else b) := fun c =>
    leads_ite (fun _ => leads_pop b) fun _ => Leads.refl _
  unfold startBody
  -- blocks and headings end a paragraph; a heading ends another heading too
  refine leads_ite (fun _ => hinsert) fun _ => ?_
  refine leads_ite (fun _ => ?_) fun _ => ?_
  · exact (hend.trans (leads_ite (fun _ => leads_pop _) fun _ => Leads.refl _)).trans
      (leads_insert _ h)
  -- formatting is noted, so the name has to be one that may be
  refine leads_ite (fun hname => ?_) fun _ => ?_
  · have hmem : tag.name ∈ formattingTags := by
      simp only [formattingTags, List.mem_cons]
      exact Or.inr (Or.inr (List.contains_iff_mem.mp hname))
    exact hopen.trans (leads_insertFormatting _ h hmem)
  refine leads_ite (fun hname => ?_) fun _ => ?_
  · have hmem : tag.name ∈ formattingTags := List.mem_cons.mpr (Or.inl (beq_iff_eq.mp hname))
    exact ((leads_endOuterLink b).trans (leads_reconstruct _)).trans
      (leads_insertFormatting _ h hmem)
  -- from here on the element is added alone, by a rule of its own, or with a change of mode
  refine leads_ite (fun _ => hopen.trans (leads_insertVoid _ h)) fun _ => ?_
  refine leads_ite (fun _ => leads_startItem b _ h) fun _ => ?_
  refine leads_ite (fun _ => leads_startItem b _ h) fun _ => ?_
  refine leads_ite (fun _ => hinsert.same rfl rfl rfl rfl) fun _ => ?_
  refine leads_ite (fun _ => leads_startHead b h) fun _ => ?_
  refine leads_ite (fun _ => hinsert.same rfl rfl rfl rfl) fun _ => ?_
  refine leads_ite (fun _ => leads_startForm b h) fun _ => ?_
  refine leads_ite (fun _ => hinsert.same rfl rfl rfl rfl) fun _ => ?_
  refine leads_ite (fun _ => leads_startButton b h) fun _ => ?_
  -- the last formatting: text that does not break
  refine leads_ite (fun hname => ?_) fun _ => ?_
  · refine leads_startUnbroken b h ?_
    rw [beq_iff_eq.mp hname]
    decide
  refine leads_ite (fun _ => hreopen.trans (leads_pushMarker _)) fun _ => ?_
  refine leads_ite (fun _ => leads_insertVoid b h) fun _ => ?_
  refine leads_ite (fun _ => hend.trans (leads_insertVoid _ h)) fun _ => ?_
  refine leads_ite (fun _ => hopen.trans (leads_insertVoid _ h)) fun _ => ?_
  -- raw content: the way of reading changes, and reading is no part of a step
  refine leads_ite (fun _ => (leads_insertRaw b .escapable h).same rfl rfl rfl rfl) fun _ => ?_
  refine leads_ite (fun _ => ?_) fun _ => ?_
  · exact (hend.trans (leads_reconstruct _)).trans (leads_insertRaw _ _ h)
  refine leads_ite (fun _ => leads_insertRaw b _ h) fun _ => ?_
  refine leads_ite (fun _ => leads_startSelect b h) fun _ => ?_
  -- options and ruby: elements may be closed first, and then the element is added
  refine leads_ite (fun _ => ?_) fun _ => ?_
  · exact ((hoption _).trans (leads_reconstruct _)).trans (leads_insert _ h)
  refine leads_ite (fun _ => Leads.trans ?_ (leads_insert _ h)) fun _ => ?_
  · exact leads_ite (fun _ => leads_closeImplied b) fun _ => Leads.refl _
  refine leads_ite (fun _ => Leads.trans ?_ (leads_insert _ h)) fun _ => ?_
  · exact leads_ite (fun _ => leads_closeImpliedExcept b _) fun _ => Leads.refl _
  refine leads_ite (fun _ => leads_insertForeign b _ (h.adjusted _)) fun _ => ?_
  refine leads_ite (fun _ => leads_insertForeign b _ (h.adjusted _)) fun _ => ?_
  -- the only tag that adds no element: its attributes go to the root
  refine leads_ite (fun _ => ?_) fun _ => ?_
  · exact leads_ite (fun _ => Leads.refl _) fun _ => .single (.attributes n b h)
  exact leads_ite (fun _ => Leads.refl _) fun _ => hreopen

/-- What is not in scope stays open. -/
theorem leads_closeInScope (b : Construction) (scope : Scope) (name : String)
    (kept : List String) : Leads P (n, b) (n, b.closeInScope scope name kept) := by
  unfold closeInScope
  split_ifs
  · exact (leads_closeImpliedExcept b _).trans (leads_popThrough _ _)
  · exact Leads.refl _

/-- Outside of a template the form is forgotten first, whether it can be closed or not. -/
theorem leads_endForm (b : Construction) : Leads P (n, b) (n, b.endForm) := by
  unfold endForm
  refine leads_ite (fun _ => leads_closeInScope b _ _ _) fun _ => ?_
  split
  · exact Leads.refl _
  · have hform : Leads P (n, b) (n, { b with form := none }) :=
      (Leads.refl _).same rfl rfl rfl rfl
    dsimp only
    split_ifs
    · exact (hform.trans (leads_closeImplied _)).trans (leads_forget _ _)
    · exact hform

/-- **Every end tag of running text takes steps.** The cases are those of the rule, in its order. -/
theorem leads_endBody (b : Construction) (name : String) :
    Leads P (n, b) (n, b.endBody name) := by
  unfold endBody
  refine leads_ite (fun _ => leads_closeInScope b _ _ _) fun _ => ?_
  refine leads_ite (fun _ => leads_endFormatting b name) fun _ => ?_
  -- the end of a paragraph that was never begun begins one
  refine leads_ite (fun _ => ?_) fun _ => ?_
  · refine Leads.trans ?_ ((leads_closeImpliedExcept _ _).trans (leads_popThrough _ _))
    exact leads_ite (fun _ => Leads.refl _) fun _ => leads_insertPhantom b _
  refine leads_ite (fun _ => leads_closeInScope b _ _ _) fun _ => ?_
  refine leads_ite (fun _ => leads_closeInScope b _ _ _) fun _ => ?_
  refine leads_ite (fun _ => leads_ite (fun _ => ?_) fun _ => Leads.refl _) fun _ => ?_
  · exact (leads_closeImplied b).trans (leads_popThrough _ _)
  refine leads_ite (fun _ => leads_ite (fun _ => ?_) fun _ => Leads.refl _) fun _ => ?_
  · exact ((leads_closeImplied b).trans (leads_popThrough _ _)).trans (leads_clearToMarker _)
  refine leads_ite (fun _ => leads_endForm b) fun _ => ?_
  -- the end of a line break is a line break
  refine leads_ite (fun _ => ?_) fun _ => ?_
  · exact (leads_reconstruct b).trans (leads_insertVoid _ (fits_nil name false))
  refine leads_ite (fun _ => leads_endTemplate b) fun _ => ?_
  exact leads_ite (fun _ => Leads.refl _) fun _ => leads_closeNamed b name

/-- A text is paid for with its own length. -/
theorem leads_insertText (b : Construction) (cs : List Char) :
    Leads P (n + cs.length, b) (n, b.insertText cs) :=
  .single (.text n b cs)

/-- **Running text spends what the token has**, and drops a NUL. -/
theorem leads_body (b : Construction) (token : Token) (h : token.Fits P) :
    Leads P (n + token.size, b) (n, b.body token) := by
  cases token with
  | text cs => exact (leads_reconstruct b).trans (leads_insertText _ cs)
  | startTag tag => exact leads_startBody b h
  | endTag name => exact leads_endBody b name
  | null => exact (Leads.refl _).spend (Nat.le_add_right n _)
  | comment => exact Leads.refl _
  | noise => exact Leads.refl _

/-- Where content is put does not matter to the steps. -/
theorem leads_fosteredBody (b : Construction) (token : Token) (h : token.Fits P) :
    Leads P (n + token.size, b) (n, b.fosteredBody token) := by
  have hfoster : Leads P (n + token.size, b) (n + token.size, { b with fostering := true }) :=
    (Leads.refl _).same rfl rfl rfl rfl
  exact (hfoster.trans (leads_body _ token h)).same rfl rfl rfl rfl

/-! ## Tables -/

/-- What a rule makes of a token is led to by steps, and a token that is left is no larger than what
is still to come. -/
def Takes (P : String → Prop) (n : Nat) (b : Construction) (token : Token) (o : Outcome) : Prop :=
  (∀ left ∈ o.2, left.Fits P) ∧
    Leads P (n + token.size, b) (n + (o.2.map Token.size).getD 0, o.1)

/-- No token is left. -/
theorem takes_done {b b' : Construction} (h : Leads P (n + token.size, b) (n, b')) :
    Takes P n b token (done b') :=
  ⟨fun _ hleft => absurd hleft nofun, h⟩

/-- A token is left for another mode. -/
theorem takes_again {b b' : Construction} {left : Token} (mode : Mode) (hleft : left.Fits P)
    (h : Leads P (n + token.size, b) (n + left.size, b')) :
    Takes P n b token (again b' mode left) := by
  refine ⟨fun t ht => ?_, h.same rfl rfl rfl rfl⟩
  obtain rfl := Option.some.inj ht
  exact hleft

/-- A rule that decides between two others takes what each of them does. -/
theorem takes_ite {c : Prop} [Decidable c] {b : Construction} {o o' : Outcome}
    (h : c → Takes P n b token o) (h' : ¬ c → Takes P n b token o') :
    Takes P n b token (if c then o else o') := by
  split_ifs with hc
  · exact h hc
  · exact h' hc

/-- A part of the table is added, or is left for a part that has to be made first. Most else is put
before the table. -/
theorem takes_startTable (b : Construction) (h : tag.Fits P) :
    Takes P n b (.startTag tag) (b.startTable tag) := by
  have hcontext := leads_popTo (P := P) (n := n) b tableContext
  unfold startTable
  -- a part of a table closes all that is open in the table, and is added or waits for a phantom
  refine takes_ite (fun _ => takes_done ?_) fun _ => ?_
  · exact ((hcontext.trans (leads_pushMarker _)).trans (leads_insert _ h)).same rfl rfl rfl rfl
  refine takes_ite (fun _ => takes_done ?_) fun _ => ?_
  · exact (hcontext.trans (leads_insert _ h)).same rfl rfl rfl rfl
  refine takes_ite (fun _ => takes_again _ h ?_) fun _ => ?_
  · exact hcontext.trans (leads_insertPhantom _ _)
  refine takes_ite (fun _ => takes_done ?_) fun _ => ?_
  · exact (hcontext.trans (leads_insert _ h)).same rfl rfl rfl rfl
  refine takes_ite (fun _ => takes_again _ h ?_) fun _ => ?_
  · exact hcontext.trans (leads_insertPhantom _ _)
  -- a table in a table ends the outer one
  refine takes_ite (fun _ => takes_ite (fun _ => takes_again _ h ?_) fun _ => ?_) fun _ => ?_
  · exact (leads_popThrough b _).trans (leads_resetMode _)
  · exact takes_done (Leads.refl _)
  refine takes_ite (fun _ => takes_done (leads_startHead b h)) fun _ => ?_
  refine takes_ite (fun _ => takes_done (leads_insertVoid b h)) fun _ => ?_
  refine takes_ite (fun _ => takes_ite (fun _ => ?_) fun _ => ?_) fun _ => ?_
  · exact takes_done (Leads.refl _)
  · exact takes_done (((leads_insert b h).trans (leads_pop _)).same rfl rfl rfl rfl)
  exact takes_done (leads_fosteredBody b (.startTag tag) h)

/-- A table ends with all that is open in it. -/
theorem takes_endTable (b : Construction) (name : String) :
    Takes P n b (.endTag name) (b.endTable name) := by
  unfold endTable
  refine takes_ite (fun _ => takes_done ?_) fun _ => ?_
  · exact leads_ite (fun _ => (leads_popThrough b _).trans (leads_resetMode _))
      fun _ => Leads.refl _
  refine takes_ite (fun _ => takes_done (Leads.refl _)) fun _ => ?_
  refine takes_ite (fun _ => takes_done (leads_endTemplate b)) fun _ => ?_
  exact takes_done (leads_fosteredBody b (.endTag name) trivial)

/-- Text goes on in a mode of its own if it can wait, and is put before the table otherwise. -/
theorem takes_textInTable (b : Construction) (h : token.Fits P) :
    Takes P n b token (b.textInTable token) := by
  unfold textInTable
  refine takes_ite (fun _ => takes_again _ h ?_) fun _ => takes_done (leads_fosteredBody b token h)
  exact (Leads.refl _).same rfl rfl rfl rfl

theorem takes_table (b : Construction) (h : token.Fits P) : Takes P n b token (b.table token) := by
  cases token with
  | text cs => exact takes_textInTable b h
  | null => exact takes_textInTable b h
  | startTag tag => exact takes_startTable b h
  | endTag name => exact takes_endTable b name
  | comment => exact takes_done (Leads.refl _)
  | noise => exact takes_done (Leads.refl _)

/-- If each text is paid for when it is put in its place, so are all of them. -/
theorem leads_foldl {f : Construction → List Char → Construction}
    (hf : ∀ (m : Nat) b cs, Leads P (m + cs.length, b) (m, f b cs)) :
    ∀ (texts : List (List Char)) (b : Construction),
      Leads P (n + (texts.map List.length).sum, b) (n, texts.foldl f b)
  | [], _ => Leads.refl _
  | cs :: texts, b => by
      have hfirst := hf (n + (texts.map List.length).sum) b cs
      rw [List.map_cons, List.sum_cons, Nat.add_comm cs.length, ← Nat.add_assoc]
      exact hfirst.trans (leads_foldl hf texts _)

/-- The texts that wait are counted anew, and paid for as they are put in their place. -/
theorem leads_settleText (b : Construction) : Leads P (n, b) (n, b.settleText) := by
  have hsum : (b.pending.map List.length).sum = (b.pending.reverse.map List.length).sum := by
    rw [List.map_reverse, List.sum_reverse]
  have hsettle : Leads P (n, b)
      (n + (b.pending.reverse.map List.length).sum, { b with pending := [] }) := by
    rw [← hsum]
    exact .single (.settle n b)
  unfold settleText
  dsimp only
  split_ifs
  · exact hsettle.trans (leads_foldl (fun m b cs => leads_insertText b cs) _ _)
  · exact hsettle.trans
      (leads_foldl (fun m b cs => leads_fosteredBody b (.text cs) trivial) _ _)

/-- A text waits; any other token ends the waiting and is left. -/
theorem takes_tableText (b : Construction) (h : token.Fits P) :
    Takes P n b token (b.tableText token) := by
  cases token with
  | text cs => exact takes_done (.single (.wait n b cs))
  | null => exact takes_done ((Leads.refl _).spend (Nat.le_add_right n _))
  | startTag tag => exact takes_again _ h (leads_settleText b)
  | endTag name => exact takes_again _ h (leads_settleText b)
  | comment => exact takes_again _ h (leads_settleText b)
  | noise => exact takes_again _ h (leads_settleText b)

/-- A part of the table ends the caption and is left for the table. -/
theorem takes_caption (b : Construction) (h : token.Fits P) :
    Takes P n b token (b.caption token) := by
  have hclose : ∀ m, Leads P (m, b)
      (m, (b.closeImplied.popThrough ["caption"]).clearToMarker) := fun m =>
    ((leads_closeImplied b).trans (leads_popThrough _ _)).trans (leads_clearToMarker _)
  have hleave : Takes P n b token (if b.inScope .table ["caption"] then
      again ((b.closeImplied.popThrough ["caption"]).clearToMarker) .table token else done b) :=
    takes_ite (fun _ => takes_again _ h (hclose _)) fun _ =>
      takes_done ((Leads.refl _).spend (Nat.le_add_right n _))
  cases token with
  | startTag tag => exact takes_ite (fun _ => hleave) fun _ => takes_done (leads_body b _ h)
  | endTag name =>
    refine takes_ite (fun _ => takes_done ?_) fun _ => ?_
    · exact leads_ite (fun _ => (hclose n).same rfl rfl rfl rfl) fun _ => Leads.refl _
    refine takes_ite (fun _ => hleave) fun _ => ?_
    refine takes_ite (fun _ => takes_done (Leads.refl _)) fun _ => ?_
    exact takes_done (leads_body b _ h)
  | text cs => exact takes_done (leads_body b _ h)
  | null => exact takes_done (leads_body b _ h)
  | comment => exact takes_done (leads_body b _ h)
  | noise => exact takes_done (leads_body b _ h)

/-- Blanks stay in the group. Other text ends it, and is dropped if there is none to end. -/
theorem takes_columnGroup (b : Construction) (h : token.Fits P) :
    Takes P n b token (b.columnGroup token) := by
  have hleave : ∀ {left : Token} (b' : Construction), left.Fits P →
      Leads P (n + token.size, b) (n + left.size, b') →
      Takes P n b token (if b'.inside ["colgroup"] then again b'.pop .table left else done b') := by
    intro left b' hfits hleads
    refine takes_ite (fun _ => takes_again _ hfits (hleads.trans (leads_pop b'))) fun _ => ?_
    exact takes_done (hleads.spend (Nat.le_add_right n _))
  cases token with
  | text cs =>
    unfold columnGroup
    dsimp only
    -- the blanks in front are put in their place, and only the rest is still to come
    have hlength : cs.length = (cs.takeWhile Text.isAsciiSpace).length
        + (cs.dropWhile Text.isAsciiSpace).length := by
      rw [← List.length_append, List.takeWhile_append_dropWhile]
    have hblank : Leads P (n + cs.length, b) (n + (cs.dropWhile Text.isAsciiSpace).length,
        if (cs.takeWhile Text.isAsciiSpace).isEmpty then b
        else b.insertText (cs.takeWhile Text.isAsciiSpace)) := by
      refine leads_ite (fun _ => (Leads.refl _).spend (by omega)) fun _ => ?_
      have htext := leads_insertText (P := P) (n := n + (cs.dropWhile Text.isAsciiSpace).length) b
        (cs.takeWhile Text.isAsciiSpace)
      rwa [Nat.add_assoc, Nat.add_comm (List.length _), ← hlength] at htext
    generalize (if (cs.takeWhile Text.isAsciiSpace).isEmpty then b
      else b.insertText (cs.takeWhile Text.isAsciiSpace)) = b' at hblank ⊢
    refine takes_ite (fun _ => takes_done (hblank.spend (Nat.le_add_right n _))) fun _ => ?_
    refine takes_ite (fun _ => hleave b' trivial hblank) fun _ => takes_done ?_
    -- what is not blank is dropped, the blanks between are kept
    have hle := List.length_filter_le Text.isAsciiSpace (cs.dropWhile Text.isAsciiSpace)
    refine hblank.trans ?_
    refine leads_ite (fun _ => (Leads.refl _).spend (Nat.le_add_right n _)) fun _ => ?_
    exact ((Leads.refl _).spend (Nat.add_le_add_left hle n)).trans (leads_insertText b' _)
  | startTag tag =>
    refine takes_ite (fun _ => takes_done (leads_body b _ h)) fun _ => ?_
    refine takes_ite (fun _ => takes_done (leads_insertVoid b h)) fun _ => ?_
    refine takes_ite (fun _ => takes_done (leads_startHead b h)) fun _ => ?_
    exact hleave b h (Leads.refl _)
  | endTag name =>
    refine takes_ite (fun _ => takes_done ?_) fun _ => ?_
    · exact leads_ite (fun _ => (leads_pop b).same rfl rfl rfl rfl) fun _ => Leads.refl _
    refine takes_ite (fun _ => takes_done (Leads.refl _)) fun _ => ?_
    refine takes_ite (fun _ => takes_done (leads_endTemplate b)) fun _ => ?_
    exact hleave b h (Leads.refl _)
  | null => exact hleave b h (Leads.refl _)
  | comment => exact takes_done (Leads.refl _)
  | noise => exact takes_done (Leads.refl _)

/-- A larger part of the table ends the group of rows and is left for the table. -/
theorem takes_tableBody (b : Construction) (h : token.Fits P) :
    Takes P n b token (b.tableBody token) := by
  have hcontext : ∀ m, Leads P (m, b) (m, (b.popTo groupContext).pop) := fun m =>
    (leads_popTo b _).trans (leads_pop _)
  have hleave : Takes P n b token (if b.inScope .table ["table", "tbody", "tfoot"] then
      again (b.popTo groupContext).pop .table token else done b) :=
    takes_ite (fun _ => takes_again _ h (hcontext _)) fun _ =>
      takes_done ((Leads.refl _).spend (Nat.le_add_right n _))
  cases token with
  | startTag tag =>
    refine takes_ite (fun _ => takes_done ?_) fun _ => ?_
    · exact ((leads_popTo b _).trans (leads_insert _ h)).same rfl rfl rfl rfl
    refine takes_ite (fun _ => takes_again _ h ?_) fun _ => ?_
    · exact (leads_popTo b _).trans (leads_insertPhantom _ _)
    exact takes_ite (fun _ => hleave) fun _ => takes_table b h
  | endTag name =>
    refine takes_ite (fun _ => takes_done ?_) fun _ => ?_
    · exact leads_ite (fun _ => (hcontext n).same rfl rfl rfl rfl) fun _ => Leads.refl _
    refine takes_ite (fun _ => hleave) fun _ => ?_
    exact takes_ite (fun _ => takes_done (Leads.refl _)) fun _ => takes_table b h
  | text cs => exact takes_table b h
  | null => exact takes_table b h
  | comment => exact takes_table b h
  | noise => exact takes_table b h

/-- A part of the table that is no cell ends the row and is left for the group of rows. -/
theorem takes_row (b : Construction) (h : token.Fits P) : Takes P n b token (b.row token) := by
  have hcontext : ∀ m, Leads P (m, b) (m, (b.popTo rowContext).pop) := fun m =>
    (leads_popTo b _).trans (leads_pop _)
  have hleave : Takes P n b token (if b.inScope .table ["tr"] then
      again (b.popTo rowContext).pop .tableBody token else done b) :=
    takes_ite (fun _ => takes_again _ h (hcontext _)) fun _ =>
      takes_done ((Leads.refl _).spend (Nat.le_add_right n _))
  cases token with
  | startTag tag =>
    refine takes_ite (fun _ => takes_done ?_) fun _ => ?_
    · have hcell := (leads_popTo (n := n) b rowContext).trans (leads_insert _ h)
      exact (hcell.trans (leads_pushMarker _)).same rfl rfl rfl rfl
    exact takes_ite (fun _ => hleave) fun _ => takes_table b h
  | endTag name =>
    refine takes_ite (fun _ => takes_done ?_) fun _ => ?_
    · exact leads_ite (fun _ => (hcontext n).same rfl rfl rfl rfl) fun _ => Leads.refl _
    refine takes_ite (fun _ => hleave) fun _ => ?_
    refine takes_ite (fun _ => takes_ite (fun _ => hleave) fun _ => ?_) fun _ => ?_
    · exact takes_done (Leads.refl _)
    exact takes_ite (fun _ => takes_done (Leads.refl _)) fun _ => takes_table b h
  | text cs => exact takes_table b h
  | null => exact takes_table b h
  | comment => exact takes_table b h
  | noise => exact takes_table b h

/-- A part of the table ends the cell and is left for the row. -/
theorem takes_cell (b : Construction) (h : token.Fits P) : Takes P n b token (b.cell token) := by
  have hclose : ∀ m names, Leads P (m, b)
      (m, (b.closeImplied.popThrough names).clearToMarker) := fun m names =>
    ((leads_closeImplied b).trans (leads_popThrough _ _)).trans (leads_clearToMarker _)
  have hleave : ∀ names, Takes P n b token (if b.inScope .table names then
      again ((b.closeImplied.popThrough cells).clearToMarker) .row token else done b) := by
    intro names
    exact takes_ite (fun _ => takes_again _ h (hclose _ _)) fun _ =>
      takes_done ((Leads.refl _).spend (Nat.le_add_right n _))
  cases token with
  | startTag tag => exact takes_ite (fun _ => hleave _) fun _ => takes_done (leads_body b _ h)
  | endTag name =>
    refine takes_ite (fun _ => takes_done ?_) fun _ => ?_
    · exact leads_ite (fun _ => (hclose n _).same rfl rfl rfl rfl) fun _ => Leads.refl _
    refine takes_ite (fun _ => hleave _) fun _ => ?_
    exact takes_ite (fun _ => takes_done (Leads.refl _)) fun _ => takes_done (leads_body b _ h)
  | text cs => exact takes_done (leads_body b _ h)
  | null => exact takes_done (leads_body b _ h)
  | comment => exact takes_done (leads_body b _ h)
  | noise => exact takes_done (leads_body b _ h)

/-! ## Lists of options and templates -/

/-- A list of options ends with all that is open in it. -/
theorem leads_closeSelect (b : Construction) : Leads P (n, b) (n, b.closeSelect) :=
  (leads_popThrough b _).trans (leads_resetMode _)

/-- Few elements may stand in a list of options; what ends the list may be left. -/
theorem takes_startInSelect (b : Construction) (h : tag.Fits P) :
    Takes P n b (.startTag tag) (b.startInSelect tag) := by
  have hpop : ∀ (b' : Construction) (c : Bool), Leads P (n, b') (n, if c then b'.pop else b') :=
    fun b' c => leads_ite (fun _ => leads_pop b') fun _ => Leads.refl _
  unfold startInSelect
  refine takes_ite (fun _ => takes_done (leads_startBody b h)) fun _ => ?_
  refine takes_ite (fun _ => takes_done ((hpop b _).trans (leads_insert _ h))) fun _ => ?_
  refine takes_ite (fun _ => takes_done ?_) fun _ => ?_
  · exact ((hpop b _).trans (hpop _ _)).trans (leads_insert _ h)
  refine takes_ite (fun _ => takes_done ?_) fun _ => ?_
  · exact leads_ite (fun _ => leads_closeSelect b) fun _ => Leads.refl _
  refine takes_ite (fun _ => takes_ite (fun _ => ?_) fun _ => ?_) fun _ => ?_
  · exact takes_again _ h (leads_closeSelect b)
  · exact takes_done (Leads.refl _)
  exact takes_ite (fun _ => takes_done (leads_startHead b h)) fun _ => takes_done (Leads.refl _)

theorem leads_endInSelect (b : Construction) (name : String) :
    Leads P (n, b) (n, b.endInSelect name) := by
  have hpop : ∀ (b' : Construction) (c : Bool), Leads P (n, b') (n, if c then b'.pop else b') :=
    fun b' c => leads_ite (fun _ => leads_pop b') fun _ => Leads.refl _
  unfold endInSelect
  refine leads_ite (fun _ => (hpop b _).trans (hpop _ _)) fun _ => ?_
  refine leads_ite (fun _ => hpop b _) fun _ => ?_
  refine leads_ite (fun _ => ?_) fun _ => ?_
  · exact leads_ite (fun _ => leads_closeSelect b) fun _ => Leads.refl _
  exact leads_ite (fun _ => leads_endTemplate b) fun _ => Leads.refl _

theorem takes_select (b : Construction) (h : token.Fits P) :
    Takes P n b token (b.select token) := by
  cases token with
  | text cs => exact takes_done (leads_insertText b cs)
  | startTag tag => exact takes_startInSelect b h
  | endTag name => exact takes_done (leads_endInSelect b name)
  | null => exact takes_done ((Leads.refl _).spend (Nat.le_add_right n _))
  | comment => exact takes_done (Leads.refl _)
  | noise => exact takes_done (Leads.refl _)

/-- A part of a table ends the list of options and is left for the table. -/
theorem takes_selectInTable (b : Construction) (h : token.Fits P) :
    Takes P n b token (b.selectInTable token) := by
  have hleave : Takes P n b token (again b.closeSelect b.closeSelect.mode token) :=
    takes_again _ h (leads_closeSelect b)
  cases token with
  | startTag tag => exact takes_ite (fun _ => hleave) fun _ => takes_select b h
  | endTag name =>
    refine takes_ite (fun _ => takes_ite (fun _ => hleave) fun _ => ?_) fun _ => takes_select b h
    exact takes_done (Leads.refl _)
  | text cs => exact takes_select b h
  | null => exact takes_select b h
  | comment => exact takes_select b h
  | noise => exact takes_select b h

/-- The first start tag decides what the template is the content of. -/
theorem takes_template (b : Construction) (h : token.Fits P) :
    Takes P n b token (b.template token) := by
  cases token with
  | startTag tag =>
    refine takes_ite (fun _ => takes_done (leads_startHead b h)) fun _ => ?_
    exact takes_again _ h ((Leads.refl _).same rfl rfl rfl rfl)
  | endTag name =>
    exact takes_done (leads_ite (fun _ => leads_endTemplate b) fun _ => Leads.refl _)
  | text cs => exact takes_done (leads_body b _ h)
  | null => exact takes_done (leads_body b _ h)
  | comment => exact takes_done (leads_body b _ h)
  | noise => exact takes_done (leads_body b _ h)

/-! ## Any mode -/

/-- **In every mode a token is taken.** -/
theorem takes_inMode (b : Construction) (h : token.Fits P) :
    Takes P n b token (b.inMode token) := by
  unfold inMode
  split
  · exact takes_done (leads_body b _ h)
  · cases token with
    | text cs => exact takes_done (leads_insertText b cs)
    | endTag name => exact takes_done ((leads_pop b).same rfl rfl rfl rfl)
    | startTag tag => exact takes_done (Leads.refl _)
    | null => exact takes_done ((Leads.refl _).spend (Nat.le_add_right n _))
    | comment => exact takes_done (Leads.refl _)
    | noise => exact takes_done (Leads.refl _)
  · exact takes_table b h
  · exact takes_tableText b h
  · exact takes_caption b h
  · exact takes_columnGroup b h
  · exact takes_tableBody b h
  · exact takes_row b h
  · exact takes_cell b h
  · exact takes_select b h
  · exact takes_selectInTable b h
  · exact takes_template b h

/-- What a rule makes of a token can be made after other steps. -/
theorem Takes.after {b b' : Construction} {o : Outcome} (h : Takes P n b' token o)
    (hleads : Leads P (n + token.size, b) (n + token.size, b')) : Takes P n b token o :=
  ⟨h.1, hleads.trans h.2⟩

/-- An end tag closes the foreign element of its name, unless an `html` element is met first. Then
it is for the mode. -/
theorem takes_endForeign (b : Construction) (name : String) :
    Takes P n b (.endTag name) (b.endForeign name) := by
  unfold endForeign
  dsimp only
  split
  · exact takes_done (Leads.refl _)
  · rename_i first rest hstack
    split
    · exact takes_done (Leads.refl _)
    · exact takes_done (Leads.refl _)
    · -- what is closed is the top of the stack, down to the element that was found
      rename_i o around _ habove
      have hsub : around.Sublist b.stack := by
        refine (List.sublist_cons_self o around).trans ?_
        rw [← habove, hstack]
        split_ifs
        · exact List.Sublist.refl _
        · exact (List.dropWhile_sublist _).trans (List.sublist_cons_self first rest)
      exact takes_ite (fun _ => takes_inMode b trivial) fun _ => takes_done (leads_stack b hsub)

/-- Only foreign elements are closed, from the innermost one on. -/
theorem leads_leaveForeign (b : Construction) : Leads P (n, b) (n, b.leaveForeign) :=
  leads_stack b (List.dropWhile_sublist _)

/-- A tag that cannot stand among foreign elements leaves them first. -/
theorem takes_foreign (b : Construction) (h : token.Fits P) :
    Takes P n b token (b.foreign token) := by
  have hleave : Takes P n b token (b.leaveForeign.inMode token) :=
    (takes_inMode _ h).after (leads_leaveForeign b)
  cases token with
  | text cs => exact takes_done (leads_insertText b cs)
  | null => exact takes_done (leads_insertText b [replacement])
  | startTag tag =>
    exact takes_ite (fun _ => hleave) fun _ => takes_done (leads_insertForeign b _ (h.adjusted _))
  | endTag name => exact takes_ite (fun _ => hleave) fun _ => takes_endForeign b name
  | comment => exact takes_done (Leads.refl _)
  | noise => exact takes_done (Leads.refl _)

/-! ## Whole tokens -/

/-- By induction on how often a token may be left. One that is left once too often is dropped. -/
theorem leads_process : ∀ (times : Nat) {token : Token} (b : Construction), token.Fits P →
    Leads P (n + token.size, b) (n, process token times b)
  | 0, token, b, _ => (Leads.refl _).spend (Nat.le_add_right n _)
  | times + 1, token, b, h => by
      have htakes : Takes P n b token
          (if b.isForeign token then b.foreign token else b.inMode token) :=
        takes_ite (fun _ => takes_foreign b h) fun _ => takes_inMode b h
      unfold process
      split
      -- nothing is left, or what is left is taken in turn
      · rename_i b' heq
        rw [heq] at htakes
        exact htakes.2
      · rename_i b' left heq
        rw [heq] at htakes
        exact htakes.2.trans (leads_process times b' (htakes.1 left rfl))

/-- A token without its first line feed is no larger. -/
theorem fits_withoutNewline (h : token.Fits P) {left : Token}
    (hleft : withoutNewline token = some left) : left.Fits P ∧ left.size ≤ token.size := by
  unfold withoutNewline at hleft
  split at hleft
  · exact absurd hleft nofun
  · rename_i cs _
    obtain rfl := Option.some.inj hleft
    exact ⟨trivial, Nat.le_succ cs.length⟩
  · obtain rfl := Option.some.inj hleft
    exact ⟨h, Nat.le_refl _⟩

/-- **A token is paid for with its size**, whatever becomes of it. -/
theorem leads_feed (b : Construction) (h : token.Fits P) :
    Leads P (n + token.size, b) (n, b.feed token) := by
  have hready : ∀ m, Leads P (m, b) (m, { b with dropNewline := false }) := fun m =>
    (Leads.refl _).same rfl rfl rfl rfl
  have hleft : ∀ left, (if b.dropNewline then withoutNewline token else some token) = some left →
      left.Fits P ∧ left.size ≤ token.size := by
    intro left heq
    split_ifs at heq
    · exact fits_withoutNewline h heq
    · obtain rfl := Option.some.inj heq
      exact ⟨h, Nat.le_refl _⟩
  unfold feed
  dsimp only
  split
  · exact (hready _).spend (Nat.le_add_right n _)
  · exact (hready _).spend (Nat.le_add_right n _)
  · rename_i left _ heq
    obtain ⟨hfits, hsize⟩ := hleft left heq
    exact ((hready _).spend (Nat.add_le_add_left hsize n)).trans (leads_process _ _ hfits)

/-- So are all tokens of a list. -/
theorem leads_foldl_feed : ∀ (tokens : List Token) (b : Construction),
    (∀ token ∈ tokens, token.Fits P) →
    Leads P (n + (tokens.map Token.size).sum, b) (n, tokens.foldl feed b)
  | [], _, _ => Leads.refl _
  | token :: tokens, b, h => by
      have hfirst := leads_feed (n := n + (tokens.map Token.size).sum) b
        (h token List.mem_cons_self)
      rw [List.map_cons, List.sum_cons, Nat.add_comm token.size, ← Nat.add_assoc]
      exact hfirst.trans (leads_foldl_feed tokens _ fun t ht => h t (List.mem_cons_of_mem _ ht))

/-- At the end the texts that wait are put in their place. -/
theorem leads_finish (b : Construction) : Leads P (n, b) (n, b.finish) := by
  unfold finish
  split_ifs
  · exact leads_settleText b
  · exact Leads.refl _

end Construction

end TidyTable.Html
