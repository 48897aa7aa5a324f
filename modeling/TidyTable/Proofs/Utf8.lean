import Mathlib.Data.List.Basic
import TidyTable.Text.Utf8

/-!
# Text survives its bytes

`readUtf8` gives back every text from its UTF-8 form. The argument goes character by character: from
a state between characters, the bytes of one character lead to the state between characters that has
one more. What the reader keeps inside a character is exactly the bits that were read, and the range
it demands of the next byte is one that the form of a character meets.

The rest is about the bytes alone. Those of a character outside ASCII are all `0x80` or more, so a
byte of ASCII in a text is always a whole character. That is why a text may be cut and quoted at
such bytes, and stays a text.
-/

namespace TidyTable.Text

/-! ## One character -/

/-- No character is a half of a pair. -/
theorem char_bounds (c : Char) :
    c.toNat < 0xd800 ∨ (0xdfff < c.toNat ∧ c.toNat < 0x110000) := c.valid

theorem toNat_ofNat_byte {n : Nat} (h : n < 0x100) : (UInt8.ofNat n).toNat = n := by
  rw [UInt8.toNat_ofNat']; exact Nat.mod_eq_of_lt h

theorem toNat_ofNat_ascii {n : Nat} (h : n < 0x80) : (Char.ofNat n).toNat = n := by
  unfold Char.ofNat
  rw [dif_pos (Or.inl (by omega))]
  rfl

/-- The four forms of a character, by its size. -/
theorem encodeChar_cases (c : Char) :
    (c.toNat < 0x80 ∧ String.utf8EncodeChar c = [UInt8.ofNat c.toNat]) ∨
    (0x80 ≤ c.toNat ∧ c.toNat < 0x800 ∧
      String.utf8EncodeChar c =
        [UInt8.ofNat (c.toNat / 64 + 0xc0), UInt8.ofNat (c.toNat % 64 + 0x80)]) ∨
    (0x800 ≤ c.toNat ∧ c.toNat < 0x10000 ∧
      String.utf8EncodeChar c =
        [UInt8.ofNat (c.toNat / 4096 + 0xe0), UInt8.ofNat (c.toNat / 64 % 64 + 0x80),
          UInt8.ofNat (c.toNat % 64 + 0x80)]) ∨
    (0x10000 ≤ c.toNat ∧ c.toNat < 0x110000 ∧
      String.utf8EncodeChar c =
        [UInt8.ofNat (c.toNat / 262144 + 0xf0), UInt8.ofNat (c.toNat / 4096 % 64 + 0x80),
          UInt8.ofNat (c.toNat / 64 % 64 + 0x80), UInt8.ofNat (c.toNat % 64 + 0x80)]) := by
  have hv := char_bounds c
  have hn : c.val.toNat = c.toNat := rfl
  simp only [String.utf8EncodeChar, hn]
  rcases Nat.lt_or_ge c.toNat 0x80 with h1 | h1
  · exact Or.inl ⟨h1, if_pos (by omega)⟩
  rcases Nat.lt_or_ge c.toNat 0x800 with h2 | h2
  · refine Or.inr (Or.inl ⟨h1, h2, ?_⟩)
    rw [if_neg (by omega), if_pos (by omega), Nat.mod_eq_of_lt (by omega : c.toNat / 64 < 0x20)]
  rcases Nat.lt_or_ge c.toNat 0x10000 with h3 | h3
  · refine Or.inr (Or.inr (Or.inl ⟨h2, h3, ?_⟩))
    rw [if_neg (by omega), if_neg (by omega), if_pos (by omega),
      Nat.mod_eq_of_lt (by omega : c.toNat / 4096 < 0x10)]
  · refine Or.inr (Or.inr (Or.inr ⟨h3, by omega, ?_⟩))
    rw [if_neg (by omega), if_neg (by omega), if_neg (by omega),
      Nat.mod_eq_of_lt (by omega : c.toNat / 262144 < 0x8)]

/-- A byte of a character is the character itself, or it is outside ASCII. -/
theorem encodeChar_ascii_or (c : Char) :
    (c.toNat < 0x80 ∧ String.utf8EncodeChar c = [UInt8.ofNat c.toNat]) ∨
    ∀ b ∈ String.utf8EncodeChar c, 0x80 ≤ b.toNat := by
  have tail (n : Nat) : 0x80 ≤ (UInt8.ofNat (n % 64 + 0x80)).toNat := by
    rw [toNat_ofNat_byte (by omega)]; omega
  rcases encodeChar_cases c with h | ⟨h1, h2, h⟩ | ⟨h1, h2, h⟩ | ⟨h1, h2, h⟩
  · exact Or.inl h
  · refine Or.inr ?_
    rw [h]
    simp only [List.mem_cons, List.not_mem_nil, or_false, forall_eq_or_imp, forall_eq]
    refine ⟨?_, tail _⟩
    rw [toNat_ofNat_byte (by omega)]; omega
  · refine Or.inr ?_
    rw [h]
    simp only [List.mem_cons, List.not_mem_nil, or_false, forall_eq_or_imp, forall_eq]
    refine ⟨?_, tail _, tail _⟩
    rw [toNat_ofNat_byte (by omega)]; omega
  · refine Or.inr ?_
    rw [h]
    simp only [List.mem_cons, List.not_mem_nil, or_false, forall_eq_or_imp, forall_eq]
    refine ⟨?_, tail _, tail _, tail _⟩
    rw [toNat_ofNat_byte (by omega)]; omega

/-! ## One byte -/

/-- A byte of ASCII is a character. -/
theorem step_ascii {cs : List Char} {n v : Nat} (h : v < 0x80) :
    Utf8Reader.step { chars := cs, sound := n } (UInt8.ofNat v)
      = .ok { chars := Char.ofNat v :: cs, sound := n + 1 } := by
  unfold Utf8Reader.step
  rw [toNat_ofNat_byte (by omega)]
  exact if_pos h

/-- A leading byte begins one. -/
theorem step_lead {cs : List Char} {n v : Nat} {p : Partial} (h1 : 0x80 ≤ v) (h2 : v < 0x100)
    (hp : lead? v = some p) :
    Utf8Reader.step { chars := cs, sound := n } (UInt8.ofNat v)
      = .ok { chars := cs, sound := n, begun? := some (p, 1) } := by
  unfold Utf8Reader.step
  rw [toNat_ofNat_byte h2]
  dsimp only
  rw [if_neg (by omega), hp]

/-- A byte that the reader waits for, with more to come. -/
theorem step_tail {cs : List Char} {n taken v : Nat} {p : Partial} (hm : 1 < p.missing)
    (hv : v < 64) (h1 : p.least ≤ v + 0x80) (h2 : v + 0x80 ≤ p.largest) :
    Utf8Reader.step { chars := cs, sound := n, begun? := some (p, taken) } (UInt8.ofNat (v + 0x80))
      = .ok { chars := cs, sound := n
              begun? :=
                some ({ missing := p.missing - 1, value := p.value * 64 + v }, taken + 1) } := by
  unfold Utf8Reader.step
  rw [toNat_ofNat_byte (by omega)]
  dsimp only
  rw [if_pos (by simp [h1, h2]), if_neg (by omega), Nat.add_sub_cancel]

/-- The last byte of a character. -/
theorem step_last {cs : List Char} {n taken v : Nat} {p : Partial} (hm : p.missing = 1)
    (hv : v < 64) (h1 : p.least ≤ v + 0x80) (h2 : v + 0x80 ≤ p.largest) :
    Utf8Reader.step { chars := cs, sound := n, begun? := some (p, taken) } (UInt8.ofNat (v + 0x80))
      = .ok { chars := Char.ofNat (p.value * 64 + v) :: cs, sound := n + taken + 1 } := by
  unfold Utf8Reader.step
  rw [toNat_ofNat_byte (by omega)]
  dsimp only
  rw [if_pos (by simp [h1, h2]), if_pos (by omega), Nat.add_sub_cancel]

/-! ## Back to the character -/

theorem lead?_two {a : Nat} (h1 : 2 ≤ a) (h2 : a < 32) :
    lead? (a + 0xc0) = some { missing := 1, value := a } := by
  unfold lead?
  rw [if_pos (by simp; omega), Nat.add_sub_cancel]

/-- What the first byte of three demands of the second: no needlessly long form, no surrogate. -/
theorem lead?_three {a : Nat} (h : a < 16) :
    lead? (a + 0xe0) = some
      { missing := 2, value := a
        least := if a = 0 then 0xa0 else 0x80, largest := if a = 0xd then 0x9f else 0xbf } := by
  revert a; decide

/-- What the first byte of four demands of the second: no needlessly long form, nothing above the
last character. -/
theorem lead?_four {a : Nat} (h : a < 5) :
    lead? (a + 0xf0) = some
      { missing := 3, value := a
        least := if a = 0 then 0x90 else 0x80, largest := if a = 4 then 0x8f else 0xbf } := by
  revert a; decide

/-- Between characters, the bytes of one character are read as that character. -/
theorem run_encodeChar (cs : List Char) (n : Nat) (c : Char) :
    (String.utf8EncodeChar c).foldlM Utf8Reader.step { chars := cs, sound := n }
      = .ok { chars := c :: cs, sound := n + (String.utf8EncodeChar c).length } := by
  have hv := char_bounds c
  -- the bits that are read add up to the value of the character, six at a time
  have back : ∀ {m : Nat}, m = c.toNat → Char.ofNat m = c := fun hm => hm ▸ Char.ofNat_toNat c
  rcases encodeChar_cases c with ⟨h1, h⟩ | ⟨h1, h2, h⟩ | ⟨h1, h2, h⟩ | ⟨h1, h2, h⟩
  · rw [h, List.foldlM_cons, step_ascii h1, back rfl]
    rfl
  · rw [h, List.foldlM_cons, step_lead (by omega) (by omega) (lead?_two (by omega) (by omega))]
    show List.foldlM _ _ _ = _
    rw [List.foldlM_cons, step_last rfl (by omega) (by simp) (by simp; omega),
      back (by simp only []; omega)]
    rfl
  · rw [h, List.foldlM_cons, step_lead (by omega) (by omega) (lead?_three (by omega))]
    show List.foldlM _ _ _ = _
    rw [List.foldlM_cons, step_tail (by simp) (by omega)
      (by simp only []; split <;> omega) (by simp only []; split <;> omega)]
    show List.foldlM _ _ _ = _
    rw [List.foldlM_cons, step_last rfl (by omega) (by simp) (by simp; omega),
      back (by simp only []; omega)]
    rfl
  · rw [h, List.foldlM_cons, step_lead (by omega) (by omega) (lead?_four (by omega))]
    show List.foldlM _ _ _ = _
    rw [List.foldlM_cons, step_tail (by simp) (by omega)
      (by simp only []; split <;> omega) (by simp only []; split <;> omega)]
    show List.foldlM _ _ _ = _
    rw [List.foldlM_cons, step_tail (by simp) (by omega) (by simp) (by simp; omega)]
    show List.foldlM _ _ _ = _
    rw [List.foldlM_cons, step_last rfl (by omega) (by simp) (by simp; omega),
      back (by simp only []; omega)]
    rfl

/-- Between characters, the bytes of a text are read as its characters. -/
theorem run_encode (l cs : List Char) (n : Nat) :
    ∃ m, (l.flatMap String.utf8EncodeChar).foldlM Utf8Reader.step { chars := cs, sound := n }
      = .ok { chars := l.reverse ++ cs, sound := m } := by
  induction l generalizing cs n with
  | nil => exact ⟨n, rfl⟩
  | cons c l ih =>
    obtain ⟨m, hm⟩ := ih (c :: cs) (n + (String.utf8EncodeChar c).length)
    refine ⟨m, ?_⟩
    rw [List.flatMap_cons, List.foldlM_append, run_encodeChar]
    show List.foldlM _ _ _ = _
    rw [hm, List.reverse_cons, List.append_assoc]
    rfl

/-- **Reading gives back every text from its bytes.** -/
@[simp] theorem readUtf8_utf8 (s : String) : readUtf8 (utf8 s) = .ok s := by
  obtain ⟨m, hm⟩ := run_encode s.toList [] 0
  unfold readUtf8 utf8
  rw [hm]
  show Utf8Reader.finish { chars := s.toList.reverse ++ [], sound := m } = .ok s
  simp [Utf8Reader.finish]

/-- **Texts are determined by their bytes.** -/
theorem utf8_injective {s t : String} (h : utf8 s = utf8 t) : s = t := by
  have hs := readUtf8_utf8 s
  rw [h, readUtf8_utf8] at hs
  exact (Except.ok.inj hs).symm

/-! ## Bytes that are a text -/

@[simp] theorem utf8_empty : utf8 "" = [] := rfl

@[simp] theorem utf8_append (s t : String) : utf8 (s ++ t) = utf8 s ++ utf8 t := by
  simp [utf8]

/-- Whether bytes are the bytes of a text. -/
def IsText (bs : Bytes) : Prop := ∃ s, bs = utf8 s

@[simp] theorem isText_utf8 (s : String) : IsText (utf8 s) := ⟨s, rfl⟩

@[simp] theorem isText_nil : IsText [] := ⟨"", rfl⟩

theorem IsText.append {as bs : Bytes} (ha : IsText as) (hb : IsText bs) : IsText (as ++ bs) := by
  obtain ⟨s, rfl⟩ := ha
  obtain ⟨t, rfl⟩ := hb
  exact ⟨s ++ t, (utf8_append s t).symm⟩

/-- A byte of ASCII is a text. -/
theorem isText_ascii {b : UInt8} (h : b.toNat < 0x80) : IsText [b] := by
  refine ⟨String.ofList [Char.ofNat b.toNat], ?_⟩
  have hn : (Char.ofNat b.toNat).toNat = b.toNat := toNat_ofNat_ascii h
  rcases encodeChar_cases (Char.ofNat b.toNat) with ⟨_, he⟩ | ⟨h1, _⟩ | ⟨h1, _⟩ | ⟨h1, _⟩
  · simp [utf8, he, hn]
  all_goals omega

theorem IsText.flatten {bss : List Bytes} (h : ∀ bs ∈ bss, IsText bs) : IsText bss.flatten := by
  induction bss with
  | nil => exact isText_nil
  | cons bs bss ih =>
    rw [List.flatten_cons]
    exact (h bs List.mem_cons_self).append (ih fun x hx => h x (List.mem_cons_of_mem _ hx))

/-- A text whose bytes of ASCII are replaced by texts is a text. -/
theorem IsText.flatMap {bs : Bytes} (h : IsText bs) {f : UInt8 → Bytes}
    (ascii : ∀ b, b.toNat < 0x80 → IsText (f b)) (other : ∀ b, 0x80 ≤ b.toNat → f b = [b]) :
    IsText (bs.flatMap f) := by
  obtain ⟨s, rfl⟩ := h
  -- a character is replaced as a whole or left alone as a whole
  have char (c : Char) : IsText ((String.utf8EncodeChar c).flatMap f) := by
    rcases encodeChar_ascii_or c with ⟨h1, h2⟩ | h1
    · rw [h2, List.flatMap_singleton]
      exact ascii _ (by rw [toNat_ofNat_byte (by omega)]; exact h1)
    · have hid : (String.utf8EncodeChar c).flatMap f = String.utf8EncodeChar c := by
        rw [List.flatMap_congr fun b hb => other b (h1 b hb), List.flatMap_singleton']
      refine ⟨String.ofList [c], ?_⟩
      rw [hid]; simp [utf8]
  unfold utf8
  rw [List.flatMap_assoc, List.flatMap_def]
  refine IsText.flatten fun bs hbs => ?_
  obtain ⟨c, _, rfl⟩ := List.mem_map.mp hbs
  exact char c

end TidyTable.Text
