import TidyTable.Cell
import TidyTable.Proofs.Shortest

/-!
# Texts of doubles

A cell writes a double in full, with a point unless it is a whole number from `10 ^ 16` on. So a
double of less than `10 ^ 16` is never taken for an integer, and one from there on has the text of
an integer. It is not always the integer that the double is: the digits are as few as read back, and
the other places are zeros.

Two limits decide what a text is taken for. Rounding must not lead over them, and it does not,
because they are multiples of a large power of two while the interval of a double reaches half-way
to its neighbours.
-/

namespace TidyTable

namespace Decimal

/-! ## Digits -/

theorem not_mem_digits {c : Char} (hc : c.isDigit = false) (n : Nat) : c ∉ digits n := by
  intro hmem
  have hdigit := Nat.isDigit_of_mem_toDigits (b := 10) (by decide) (by decide) hmem
  rw [hc] at hdigit
  exact absurd hdigit nofun

theorem digits_injective {m n : Nat} (h : digits m = digits n) : m = n := by
  rw [← value_digits m, h, value_digits]

theorem not_mem_integer {c : Char} (hc : c.isDigit = false) (hsign : c ≠ '-') (i : Int) :
    c ∉ integer i := by
  unfold integer
  split_ifs
  · exact List.not_mem_cons_of_ne_of_not_mem hsign (not_mem_digits hc _)
  · exact not_mem_digits hc _

/-- Integers are told apart by their texts. -/
theorem integer_injective {i j : Int} (h : integer i = integer j) : i = j := by
  have hsign {i j : Int} (hi : i < 0) (hj : ¬ j < 0) : integer i ≠ integer j := by
    intro heq
    rw [integer, integer, if_pos hi, if_neg hj] at heq
    exact not_mem_digits (by decide) j.natAbs (heq ▸ List.mem_cons_self)
  by_cases hi : i < 0 <;> by_cases hj : j < 0
  · rw [integer, integer, if_pos hi, if_pos hj] at h
    have := digits_injective (List.cons.inj h).2
    omega
  · exact absurd h (hsign hi hj)
  · exact absurd h.symm (hsign hj hi)
  · rw [integer, integer, if_neg hi, if_neg hj] at h
    have := digits_injective h
    omega

theorem integerText_injective {i j : Int} (h : integerText i = integerText j) : i = j :=
  integer_injective (String.ofList_injective h)

/-- Zeros at the end of the digits are factors of ten. -/
theorem digits_mul_pow {n : Nat} (hn : n ≠ 0) :
    ∀ k : Nat, digits (n * 10 ^ k) = digits n ++ List.replicate k '0'
  | 0 => by simp
  | k + 1 => by
      have hpos : 0 < n * 10 ^ k := Nat.mul_pos (Nat.pos_of_ne_zero hn) (Nat.pow_pos (by decide))
      have hmul : n * 10 ^ (k + 1) = n * 10 ^ k * 10 := by rw [Nat.pow_succ, Nat.mul_assoc]
      have hlast : digits (n * 10 ^ k * 10) = digits (n * 10 ^ k) ++ ['0'] := by
        unfold digits
        rw [Nat.toDigits_of_base_le (by decide) (by omega), Nat.mul_div_cancel _ (by decide),
          Nat.mul_mod_left]
        rfl
      rw [hmul, hlast, digits_mul_pow hn k, List.append_assoc, List.replicate_succ']

/-- The place of the first digit of a decimal tells how large it is. -/
theorem Scaled.amount_lt_iff {d : Scaled} (hd : d.coefficient ≠ 0) (p : Int) :
    d.amount < 10 ^ p ↔ ((digits d.coefficient).length : Int) - 1 + d.exponent < p := by
  have hone : (1 : ℚ) < 10 := by norm_num
  have hlength : 0 < (digits d.coefficient).length := Nat.length_toDigits_pos
  have hlow := pow_length_digits_le hd
  have hhigh := lt_pow_length_digits d.coefficient
  have hpos := Interval.pow_pos_ten d.exponent
  have hlow' : (10 : ℚ) ^ (((digits d.coefficient).length : Int) - 1 + d.exponent) ≤ d.amount := by
    have hnat : ((digits d.coefficient).length : Int) - 1
        = ((digits d.coefficient).length - 1 : Nat) := by omega
    rw [zpow_add₀ (by norm_num), hnat, zpow_natCast]
    exact mul_le_mul_of_nonneg_right (by exact_mod_cast hlow) hpos.le
  have hhigh' : d.amount < 10 ^ (((digits d.coefficient).length : Int) + d.exponent) := by
    rw [zpow_add₀ (by norm_num), zpow_natCast]
    exact mul_lt_mul_of_pos_right (by exact_mod_cast hhigh) hpos
  constructor
  · intro h
    exact (zpow_lt_zpow_iff_right₀ hone).mp (lt_of_le_of_lt hlow' h)
  · intro h
    exact lt_of_lt_of_le hhigh' (zpow_le_zpow_right₀ hone.le (by omega))

end Decimal

namespace Scalar

open Decimal

variable {d : Scaled} {x : Float} {negative : Bool} {m : Nat} {e : Int} {s : Scalar}

/-! ## Decimals -/

/-- A decimal with places behind the point is written with the point. -/
theorem mem_point_decimal (he : d.exponent < 0) : '.' ∈ layout.decimal d := by
  show '.' ∈ placePoint _ _ _
  unfold placePoint
  rw [if_neg (by omega)]
  split_ifs
  · exact List.mem_append_right _ List.mem_cons_self
  · exact List.mem_cons_of_mem _ List.mem_cons_self

/-- A whole number is written in full, with a point if it is not too large. -/
theorem decimal_of_whole (hd : d.coefficient ≠ 0) (he : 0 ≤ d.exponent) :
    layout.decimal d = digits (d.coefficient * 10 ^ d.exponent.toNat)
      ++ if d.amount < 10 ^ (16 : Int) then ['.', '0'] else [] := by
  have hzeros : (((digits d.coefficient).length : Int) - 1 + d.exponent + 1).toNat
      - (digits d.coefficient).length = d.exponent.toNat := by omega
  show placePoint _ _ (decide (_ < 16)) = _
  unfold placePoint
  rw [if_pos (by omega), hzeros, digits_mul_pow hd]
  simp only [Scaled.amount_lt_iff hd, decide_eq_true_eq]

/-! ## Doubles -/

/-- How a finite double is written. -/
theorem render_of_finite (hx : Binary.ofFloat x = .finite negative m e)
    (hs : s = .float x ∨ s = .dateTime x) :
    s.render.toList = (if negative then ['-'] else []) ++ layout.decimal (shortest .up m e) := by
  have hlayout : layout.render x
      = (if negative then ['-'] else []) ++ layout.decimal (shortest .up m e) := by
    rw [Layout.render, hx]
    rfl
  rcases hs with rfl | rfl
  · exact String.toList_ofList.trans hlayout
  · exact String.toList_ofList.trans hlayout

/-- Doubles from `10 ^ 16` on are whole numbers. -/
theorem exponent_pos_of_large (hm' : m < 2 ^ 53) (h : (10 ^ 16 : ℚ) ≤ m * 2 ^ e) : 0 < e := by
  by_contra hle
  have hunit : (2 : ℚ) ^ e ≤ 1 := zpow_le_one_of_nonpos₀ (by norm_num) (Int.not_lt.mp hle)
  have hmq : (m : ℚ) ≤ (2 ^ 53 : Nat) := Nat.cast_le.mpr hm'.le
  have hmul := mul_le_mul hmq hunit (zpow_nonneg (by norm_num) e) (Nat.cast_nonneg _)
  push_cast at hmul
  linarith

/-- A decimal is as large as its double, at least on the two sides of `10 ^ 16`. -/
theorem amount_lt_iff_of_shortest (hd : Shortest m e d) (hm' : m < 2 ^ 53)
    (hnormal : 2 ^ 52 ≤ m ∨ e = -1074) :
    d.amount < 10 ^ (16 : Int) ↔ (m * 2 ^ e : ℚ) < 10 ^ 16 := by
  constructor
  · intro h
    by_contra hge
    exact absurd h (not_lt.mpr (hd.begins (not_lt.mp hge)))
  · intro h
    have htop := top_ofBinary_lt (n := 10 ^ 16) hm' hnormal (by decide) (by decide) (by decide)
      (by exact_mod_cast h)
    refine lt_of_le_of_lt hd.top (lt_of_lt_of_eq htop ?_)
    norm_num

/-- What comes next to the signed words is written as more than they hold. -/
theorem lt_amount_of_shortest (hd : Shortest m e (shortest .up m e)) (hm' : m < 2 ^ 53)
    (hnormal : 2 ^ 52 ≤ m ∨ e = -1074) (h : (2 ^ 63 : ℚ) ≤ m * 2 ^ e) :
    2 ^ 63 < (shortest .up m e).amount := by
  rcases eq_or_lt_of_le h with heq | hlt
  · -- the least of them is a power of two
    have he : 0 < e := exponent_pos_of_large hm' (le_trans (by norm_num) h)
    have hfull : 2 ^ 52 ≤ m := hnormal.resolve_right (by omega)
    obtain ⟨k, rfl⟩ := Int.eq_ofNat_of_zero_le he.le
    have hnat : m * 2 ^ k = 2 ^ 63 := by exact_mod_cast heq.symm
    have hk : k = 11 := by
      rcases Nat.lt_trichotomy k 11 with hk | hk | hk
      · have hle : 2 ^ k ≤ 2 ^ 10 := Nat.pow_le_pow_right (by decide) (by omega)
        have := Nat.mul_lt_mul_of_lt_of_le hm' hle (Nat.two_pow_pos 10)
        omega
      · exact hk
      · have hle : 2 ^ 12 ≤ 2 ^ k := Nat.pow_le_pow_right (by decide) hk
        have := Nat.mul_le_mul hfull hle
        omega
    subst hk
    obtain rfl : m = 2 ^ 52 := by omega
    have hshortest : shortest .up (2 ^ 52) (11 : Nat) = ⟨9223372036854776, 3⟩ := by
      decide +kernel
    rw [hshortest, Scaled.amount]
    norm_num
  · exact lt_of_lt_of_le (lt_bottom_ofBinary hm' hnormal hlt) hd.bottom

/-- A number of some digits with a sign. -/
theorem integer_of_sign {n : Nat} (hn : 0 < n) (negative : Bool) :
    integer (if negative then -(n : Int) else n)
      = (if negative then ['-'] else []) ++ digits n := by
  cases negative with
  | true =>
    show integer (-(n : Int)) = '-' :: digits n
    rw [integer, if_pos (by omega), Int.natAbs_neg, Int.natAbs_natCast]
  | false =>
    show integer n = digits n
    rw [integer, if_neg (by omega), Int.natAbs_natCast]

/-- **A large double is written as an integer**, which is within half of the last place of it. It is
one that a signed word holds exactly if the double is one, and far enough above it ends in three
zeros. -/
theorem render_of_large (hx : Binary.ofFloat x = .finite negative m e)
    (hs : s = .float x ∨ s = .dateTime x) (h : (10 ^ 16 : ℚ) ≤ m * 2 ^ e) :
    ∃ n : Nat, 0 < n ∧ s.render = integerText (if negative then -n else n) ∧
      |(n : ℚ) - m * 2 ^ e| ≤ 2 ^ e / 2 ∧ ((m * 2 ^ e : ℚ) < 2 ^ 63 → n < 2 ^ 63) ∧
      ((2 ^ 63 : ℚ) ≤ m * 2 ^ e → 2 ^ 63 < n) ∧ (11 ≤ e → 1000 ∣ n) := by
  obtain ⟨hm', he, hnormal⟩ := ofFloat_bounds hx
  have hm : m ≠ 0 := by
    rintro rfl
    norm_num at h
  have hd := shortest_spec .up hm hm' he
  have hexponent := hd.exponent_nonneg hm (exponent_pos_of_large hm' h).le
  have hlarge := (amount_lt_iff_of_shortest hd hm' hnormal).not.mpr (not_lt.mpr h)
  have hrender := render_of_finite hx hs
  rw [decimal_of_whole hd.coefficient hexponent, if_neg hlarge, List.append_nil] at hrender
  have hnat : (((shortest .up m e).coefficient * 10 ^ (shortest .up m e).exponent.toNat : Nat) : ℚ)
      = (shortest .up m e).amount := by
    rw [Scaled.amount]
    push_cast
    rw [← zpow_natCast, Int.toNat_of_nonneg hexponent]
  -- what is written is the decimal itself, as a natural number
  have hpos : 0 < (shortest .up m e).coefficient * 10 ^ (shortest .up m e).exponent.toNat :=
    Nat.mul_pos (Nat.pos_of_ne_zero hd.coefficient) (Nat.pow_pos (by decide))
  refine ⟨_, hpos, ?_, hnat ▸ hd.near hm, fun hlt => ?_, fun hge => ?_, fun hfar => ?_⟩
  · rw [integerText, integer_of_sign hpos, ← hrender, String.ofList_toList]
  · have htop := top_ofBinary_lt (n := 2 ^ 63) hm' hnormal (by decide) (by decide) (by decide)
      (by exact_mod_cast hlt)
    have hamount := lt_of_le_of_lt hd.top htop
    rw [← hnat] at hamount
    exact_mod_cast hamount
  · have hamount := lt_amount_of_shortest hd hm' hnormal hge
    rw [← hnat] at hamount
    exact_mod_cast hamount
  · have hthree := hd.three_le_exponent hm hfar
    exact Nat.dvd_mul_left_of_dvd (pow_dvd_pow 10 (show 3 ≤ _ by omega)) _

/-- A small double is written with a point. -/
theorem mem_point_of_small (hx : Binary.ofFloat x = .finite negative m e)
    (hs : s = .float x ∨ s = .dateTime x) (h : (m * 2 ^ e : ℚ) < 10 ^ 16) :
    '.' ∈ s.render.toList := by
  obtain ⟨hm', he, hnormal⟩ := ofFloat_bounds hx
  rw [render_of_finite hx hs]
  refine List.mem_append_right _ ?_
  by_cases hm : m = 0
  · rw [hm, shortest, if_pos rfl]
    decide +kernel
  have hd := shortest_spec .up hm hm' he
  rcases lt_or_ge (shortest .up m e).exponent 0 with hneg | hwhole
  · exact mem_point_decimal hneg
  · rw [decimal_of_whole hd.coefficient hwhole,
      if_pos ((amount_lt_iff_of_shortest hd hm' hnormal).mpr h)]
    exact List.mem_append_right _ List.mem_cons_self

/-- **A finite double is written with a point exactly if it is less than `10 ^ 16`.** From there on
it has the text of an integer, and up to `2 ^ 63` that of one that a signed word holds. -/
theorem point_mem_render_iff (hx : Binary.ofFloat x = .finite negative m e)
    (hs : s = .float x ∨ s = .dateTime x) :
    ('.' ∈ s.render.toList ↔ (m * 2 ^ e : ℚ) < 10 ^ 16) ∧
      ((∃ i : Int64, s.render = (Scalar.int i).render) ↔
        (10 ^ 16 : ℚ) ≤ m * 2 ^ e ∧ (m * 2 ^ e : ℚ) < 2 ^ 63) := by
  have hplain (i : Int) : '.' ∉ (integerText i).toList := by
    rw [integerText, String.toList_ofList]
    exact not_mem_integer (by decide) (by decide) i
  have hpoint : '.' ∈ s.render.toList ↔ (m * 2 ^ e : ℚ) < 10 ^ 16 := by
    rcases lt_or_ge (m * 2 ^ e : ℚ) (10 ^ 16) with hlt | hge
    · exact ⟨fun _ => hlt, fun _ => mem_point_of_small hx hs hlt⟩
    · obtain ⟨n, -, hrender, -⟩ := render_of_large hx hs hge
      rw [hrender]
      exact ⟨fun h => absurd h (hplain _), fun h => absurd h (not_lt.mpr hge)⟩
  refine ⟨hpoint, ?_⟩
  constructor
  · rintro ⟨i, hi⟩
    have hge : (10 ^ 16 : ℚ) ≤ m * 2 ^ e := by
      by_contra hlt
      exact hplain i.toInt (show '.' ∈ (Scalar.int i).render.toList from
        hi ▸ hpoint.mpr (not_le.mp hlt))
    obtain ⟨n, hpos, hrender, -, -, hbeyond, -⟩ := render_of_large hx hs hge
    have hsame := integerText_injective (hrender.symm.trans hi)
    refine ⟨hge, lt_of_not_ge fun hfar => ?_⟩
    have hn := hbeyond hfar
    have hlo := i.le_toInt
    have hhi := i.toInt_lt
    split_ifs at hsame <;> omega
  · rintro ⟨hge, hlt⟩
    obtain ⟨n, hpos, hrender, -, hword, -⟩ := render_of_large hx hs hge
    have hn := hword hlt
    refine ⟨Int64.ofInt (if negative then -n else n), hrender.trans ?_⟩
    show _ = integerText (Int64.ofInt _).toInt
    rw [Int64.toInt_ofInt_of_le (by split_ifs <;> omega) (by split_ifs <;> omega)]

theorem point_mem_render_iff_tenth :
    let x := Decimal.ofDecimal true 1 (-1)
    Binary.ofFloat x = .finite true 7205759403792794 (-56) ∧ (Scalar.float x).render = "-0.1" ∧
      ('.' ∈ (Scalar.float x).render.toList ↔ (7205759403792794 * 2 ^ (-56 : Int) : ℚ) < 10 ^ 16) ∧
      ¬ ∃ i : Int64, (Scalar.float x).render = (Scalar.int i).render := by
  intro x
  have hx : Binary.ofFloat x = .finite true 7205759403792794 (-56) := by decide +kernel
  obtain ⟨hpoint, hinteger⟩ := point_mem_render_iff hx (Or.inl rfl)
  have hsmall : (7205759403792794 * 2 ^ (-56 : Int) : ℚ) < 10 ^ 16 := by norm_num
  refine ⟨hx, by decide +kernel, by exact_mod_cast hpoint, fun h => ?_⟩
  exact absurd (hinteger.mp h).1 (not_le.mpr (by exact_mod_cast hsmall))

/-- The double of `10 ^ 16` is written without a point, and like an integer. -/
theorem render_float_eq_int :
    let x := Decimal.nearest (10 ^ 16)
    (Binary.ofFloat x).isFinite = true ∧ '.' ∉ (Scalar.float x).render.toList ∧
      (Scalar.float x).render = (Scalar.int 10000000000000000).render ∧
      '.' ∉ (Scalar.dateTime x).render.toList := by
  decide +kernel

end Scalar

end TidyTable
