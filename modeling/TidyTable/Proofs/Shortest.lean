import Mathlib.Algebra.Order.Floor.Semifield
import Mathlib.Data.Nat.Cast.Order.Field
import Mathlib.Data.Rat.Floor
import TidyTable.Decimal.Layout
import TidyTable.Proofs.Doubles

/-!
# The decimal of a double

The text of a double is a decimal from the interval of numbers that it is the nearest double to.
`Shortest` says what is known of this decimal. It lies in the interval, it begins in no lower place
than the double itself, and it does not go on to a finer grid than the coarsest one that has a point
strictly inside.

Everything is measured in rationals: the ends of the interval are quotients with one denominator,
and a grid of powers of ten divides all of them alike. The search tries seventeen grids, and the
interval is wider than the last of them (`hits_seventeen`), so it never comes to its end without
having found something.

Two limits are told apart at the end. Below a multiple of a large power of two the interval of a
smaller double ends before it, and above `2 ^ 63` that of a larger one begins behind it.
-/

namespace TidyTable.Decimal

/-! ## Powers -/

/-- A power is a quotient of two powers with natural exponents, one of which is one. -/
theorem pow_toNat_div {b : ℚ} (hb : b ≠ 0) (n : Int) : b ^ n.toNat / b ^ (-n).toNat = b ^ n := by
  rw [← zpow_natCast, ← zpow_natCast, ← zpow_sub₀ hb]
  congr 1
  omega

/-! ## Digits -/

theorem lt_pow_length_digits (n : Nat) : n < 10 ^ (digits n).length :=
  (Nat.length_toDigits_le_iff (by decide) Nat.length_toDigits_pos).mp (Nat.le_refl _)

theorem pow_length_digits_le {n : Nat} (hn : n ≠ 0) : 10 ^ ((digits n).length - 1) ≤ n := by
  rcases Nat.lt_or_ge 1 (digits n).length with hlength | hlength
  · by_contra hlt
    have hle := (Nat.length_toDigits_le_iff (b := 10) (n := n) (k := (digits n).length - 1)
      (by decide) (by omega)).mpr (Nat.lt_of_not_ge hlt)
    have : (digits n).length ≤ (digits n).length - 1 := hle
    omega
  · rw [Nat.sub_eq_zero_of_le hlength]
    exact Nat.pos_of_ne_zero hn

namespace Interval

variable {i : Interval} {c : Nat} {p q : Int} {tie : Tie}

/-- The number that an interval is around. -/
def exact (i : Interval) : ℚ := i.value / i.denominator

/-- The lower end of an interval. -/
def bottom (i : Interval) : ℚ := i.low / i.denominator

/-- The upper end of an interval. -/
def top (i : Interval) : ℚ := i.high / i.denominator

/-- The number lies between the ends. -/
structure Proper (i : Interval) : Prop where
  denominator : 0 < i.denominator
  low : i.low < i.value
  high : i.value < i.high

namespace Proper

theorem bottom_lt (h : i.Proper) : i.bottom < i.exact := by
  have hd : (0 : ℚ) < i.denominator := Nat.cast_pos.mpr h.denominator
  exact (div_lt_div_iff_of_pos_right hd).mpr (Nat.cast_lt.mpr h.low)

theorem lt_top (h : i.Proper) : i.exact < i.top := by
  have hd : (0 : ℚ) < i.denominator := Nat.cast_pos.mpr h.denominator
  exact (div_lt_div_iff_of_pos_right hd).mpr (Nat.cast_lt.mpr h.high)

theorem scale (h : i.Proper) (p : Int) : (i.scale p).Proper where
  denominator := Nat.mul_pos h.denominator (Nat.pow_pos (by decide))
  low := Nat.mul_lt_mul_of_pos_right h.low (Nat.pow_pos (by decide))
  high := Nat.mul_lt_mul_of_pos_right h.high (Nat.pow_pos (by decide))

/-- The multiple below the number is the whole part of the quotient. -/
theorem div_eq_floor (i : Interval) : i.value / i.denominator = ⌊i.exact⌋₊ :=
  (Nat.floor_div_eq_div i.value i.denominator).symm

/-- What an interval holds lies between its ends. -/
theorem of_holds (h : i.Proper) (hc : i.holds c = true) : i.bottom ≤ c ∧ (c : ℚ) ≤ i.top := by
  have hd : (0 : ℚ) < i.denominator := Nat.cast_pos.mpr h.denominator
  have hbetween : i.low ≤ c * i.denominator ∧ c * i.denominator ≤ i.high := by
    unfold holds at hc
    dsimp only at hc
    split_ifs at hc
    · simpa using hc
    · have := And.intro (Bool.and_elim_left hc) (Bool.and_elim_right hc)
      simp only [decide_eq_true_eq] at this
      omega
  unfold bottom top
  rw [div_le_iff₀ hd, le_div_iff₀ hd]
  exact_mod_cast hbetween

/-- What lies strictly between the ends of an interval is held by it. -/
theorem holds (h : i.Proper) (hlow : i.bottom < c) (hhigh : (c : ℚ) < i.top) :
    i.holds c = true := by
  have hd : (0 : ℚ) < i.denominator := Nat.cast_pos.mpr h.denominator
  unfold bottom at hlow
  unfold top at hhigh
  rw [div_lt_iff₀ hd] at hlow
  rw [lt_div_iff₀ hd] at hhigh
  have hlow' : i.low < c * i.denominator := by exact_mod_cast hlow
  have hhigh' : c * i.denominator < i.high := by exact_mod_cast hhigh
  unfold Interval.holds
  dsimp only
  split_ifs
  · simp only [Bool.and_eq_true, decide_eq_true_eq]
    omega
  · simp only [Bool.and_eq_true, decide_eq_true_eq]
    omega

end Proper

/-! ### Grids -/

theorem scale_div {n : Nat} (i : Interval) (p : Int) :
    ((n * 10 ^ (-p).toNat : Nat) : ℚ) / (i.denominator * 10 ^ p.toNat : Nat)
      = n / i.denominator / 10 ^ p := by
  have hpow := pow_toNat_div (b := 10) (by decide) p
  rw [← hpow]
  push_cast
  field_simp

theorem exact_scale (i : Interval) (p : Int) : (i.scale p).exact = i.exact / 10 ^ p :=
  scale_div i p

theorem bottom_scale (i : Interval) (p : Int) : (i.scale p).bottom = i.bottom / 10 ^ p :=
  scale_div i p

theorem top_scale (i : Interval) (p : Int) : (i.scale p).top = i.top / 10 ^ p :=
  scale_div i p

/-- Some multiple of a power of ten lies strictly inside. -/
def Hits (i : Interval) (p : Int) : Prop :=
  ∃ c : Nat, i.bottom < c * 10 ^ p ∧ (c * 10 ^ p : ℚ) < i.top

theorem pow_pos_ten (p : Int) : (0 : ℚ) < 10 ^ p := zpow_pos (by norm_num) p

/-- What is found is one of the two multiples next to the number, and the interval holds it. -/
theorem closest?_eq_some (h : i.closest? tie = some c) :
    (c = ⌊i.exact⌋₊ ∨ c = ⌊i.exact⌋₊ + 1) ∧ i.holds c = true := by
  rw [← Proper.div_eq_floor]
  unfold closest? at h
  dsimp only at h
  split at h
  · rename_i hdown _
    obtain rfl := Option.some.inj h
    exact ⟨Or.inl rfl, hdown⟩
  · rename_i _ hup
    obtain rfl := Option.some.inj h
    exact ⟨Or.inr rfl, hup⟩
  · exact absurd h nofun
  · -- both are held, whichever is taken
    rename_i hdown hup
    have hcases : c = i.value / i.denominator ∨ c = i.value / i.denominator + 1 := by
      cases tie <;> dsimp only at h <;> split_ifs at h <;> cases h <;> simp
    refine ⟨hcases, ?_⟩
    rcases hcases with rfl | rfl
    · exact hdown
    · exact hup

/-- If a multiple lies inside, then one of the two next to the number does. -/
theorem Proper.isSome_closest? (h : i.Proper) (hlow : i.bottom < c) (hhigh : (c : ℚ) < i.top)
    (tie : Tie) : (i.closest? tie).isSome = true := by
  have hheld : i.holds ⌊i.exact⌋₊ = true ∨ i.holds (⌊i.exact⌋₊ + 1) = true := by
    have hpos : 0 ≤ i.exact := div_nonneg (Nat.cast_nonneg _) (Nat.cast_nonneg _)
    rcases le_or_gt (c : ℚ) i.exact with hle | hgt
    · left
      have hfloor : (c : ℚ) ≤ ⌊i.exact⌋₊ := Nat.cast_le.mpr (Nat.le_floor hle)
      exact h.holds (lt_of_lt_of_le hlow hfloor)
        (lt_of_le_of_lt (Nat.floor_le hpos) h.lt_top)
    · right
      have hceil : ((⌊i.exact⌋₊ + 1 : Nat) : ℚ) ≤ c :=
        Nat.cast_le.mpr (Nat.succ_le_of_lt ((Nat.floor_lt hpos).mpr hgt))
      refine h.holds (lt_trans h.bottom_lt ?_) (lt_of_le_of_lt hceil hhigh)
      rw [Nat.cast_add_one]
      exact Nat.lt_floor_add_one _
  rw [← Proper.div_eq_floor] at hheld
  unfold closest?
  dsimp only
  split
  · rfl
  · rfl
  · rename_i hdown hup
    rw [hdown, hup] at hheld
    exact absurd hheld (by simp)
  · cases tie with
    | up => dsimp only; split_ifs <;> rfl
    | even => dsimp only; split_ifs <;> rfl

theorem Hits.isSome_closest? (h : i.Proper) (hhits : i.Hits p) (tie : Tie) :
    ((i.scale p).closest? tie).isSome = true := by
  obtain ⟨c, hlow, hhigh⟩ := hhits
  refine (h.scale p).isSome_closest? (c := c) ?_ ?_ tie
  · rw [bottom_scale, div_lt_iff₀ (pow_pos_ten p)]
    exact hlow
  · rw [top_scale, lt_div_iff₀ (pow_pos_ten p)]
    exact hhigh

end Interval

/-! ## The search -/

namespace Scaled

/-- The number that a decimal stands for. -/
def amount (d : Scaled) : ℚ := d.coefficient * 10 ^ d.exponent

theorem coefficient_ne_zero {d : Scaled} (h : 0 < d.amount) : d.coefficient ≠ 0 := by
  intro hzero
  rw [amount, hzero, Nat.cast_zero, zero_mul] at h
  exact lt_irrefl 0 h

/-- Without zeros at the end it stands for the same number. -/
theorem strip_spec : ∀ (fuel : Nat) (d : Scaled), d.coefficient ≠ 0 →
    (d.strip fuel).coefficient ≠ 0 ∧ (d.strip fuel).amount = d.amount ∧
      d.exponent ≤ (d.strip fuel).exponent
  | 0, d, h => ⟨h, rfl, le_refl _⟩
  | fuel + 1, d, h => by
      rw [strip]
      split_ifs with hzero
      · obtain ⟨c, hc⟩ := Nat.dvd_of_mod_eq_zero hzero.2
        have hdiv : d.coefficient / 10 = c := by omega
        rw [hdiv]
        obtain ⟨hne, hamount, hle⟩ := strip_spec fuel ⟨c, d.exponent + 1⟩
          (show c ≠ 0 by omega)
        refine ⟨hne, hamount.trans ?_, le_trans (by simp) hle⟩
        unfold amount
        rw [hc, zpow_add_one₀ (by norm_num)]
        push_cast
        ring
      · exact ⟨h, rfl, le_refl _⟩

end Scaled

/-- What the search comes to: a decimal in the interval, on a grid that is not finer than needed,
and not below the multiple under the number. -/
structure Finds (i : Interval) (p q : Int) (d : Scaled) : Prop where
  bottom : i.bottom ≤ d.amount
  top : d.amount ≤ i.top
  floor : ⌊i.exact / 10 ^ d.exponent⌋₊ ≤ d.coefficient
  coarse : q ≤ d.exponent
  fine : d.exponent ≤ p

/-- The multiple under the number has its first digit in the same place. -/
theorem Finds.pow_le {i : Interval} {p q : Int} {d : Scaled} (h : Finds i p q d)
    (hp : (10 : ℚ) ^ p ≤ i.exact) : (10 : ℚ) ^ p ≤ d.amount := by
  have hpos := Interval.pow_pos_ten d.exponent
  have hnat : p - d.exponent = ((p - d.exponent).toNat : Nat) := by
    have := h.fine
    omega
  have hsplit : (10 : ℚ) ^ p = (10 ^ (p - d.exponent).toNat : Nat) * 10 ^ d.exponent := by
    push_cast
    rw [← zpow_natCast, ← hnat, ← zpow_add₀ (by norm_num), sub_add_cancel]
  rw [hsplit, ← le_div_iff₀ hpos] at hp
  rw [hsplit]
  refine mul_le_mul_of_nonneg_right (Nat.cast_le.mpr ?_) hpos.le
  exact le_trans (Nat.le_floor hp) h.floor

/-- **The search ends before it is past a grid that hits.** -/
theorem finds_firstHit {i : Interval} (h : i.Proper) (tie : Tie) {q : Int} (hhits : i.Hits q) :
    ∀ {n : Nat} {p : Int}, q ≤ p → p - n < q → Finds i p q (firstHit i tie p n)
  | 0, p, hqp, hpn => by omega
  | n + 1, p, hqp, hpn => by
      rw [firstHit]
      split
      · rename_i c hc
        obtain ⟨hcases, hholds⟩ := Interval.closest?_eq_some hc
        obtain ⟨hbottom, htop⟩ := (h.scale p).of_holds hholds
        rw [Interval.bottom_scale, div_le_iff₀ (Interval.pow_pos_ten p)] at hbottom
        rw [Interval.top_scale, le_div_iff₀ (Interval.pow_pos_ten p)] at htop
        rw [Interval.exact_scale] at hcases
        refine ⟨hbottom, htop, ?_, hqp, le_refl p⟩
        show ⌊i.exact / 10 ^ p⌋₊ ≤ c
        omega
      · rename_i hnone
        have hne : q ≠ p := by
          rintro rfl
          have hsome := hhits.isSome_closest? h tie
          rw [hnone] at hsome
          exact absurd hsome nofun
        have hfinds : Finds i (p - 1) q (firstHit i tie (p - 1) n) :=
          finds_firstHit h tie hhits (by omega) (by omega)
        exact { hfinds with fine := le_trans hfinds.fine (by omega) }

/-- A quotient that is far enough to the left to be no fraction shows the power of its first
digit. -/
theorem length_digits_spec {n d k : Nat} (hd : 0 < d) (hn : d ≤ n * Nat.pow 10 k) :
    (10 : ℚ) ^ (((digits (n * Nat.pow 10 k / d)).length : Int) - 1 - k) ≤ n / d ∧
      (n / d : ℚ) < 10 ^ (((digits (n * Nat.pow 10 k / d)).length : Int) - 1 - k + 1) := by
  rw [show Nat.pow 10 k = 10 ^ k from rfl] at hn ⊢
  have hdq : (0 : ℚ) < d := Nat.cast_pos.mpr hd
  have hwhole : n * 10 ^ k / d ≠ 0 := Nat.ne_of_gt (Nat.div_pos hn hd)
  have hlength : 0 < (digits (n * 10 ^ k / d)).length := Nat.length_toDigits_pos
  have hlow := pow_length_digits_le hwhole
  have hhigh := lt_pow_length_digits (n * 10 ^ k / d)
  generalize (digits (n * 10 ^ k / d)).length = l at hlength hlow hhigh ⊢
  -- the quotient lies between the same powers as its whole part
  have hlow' : ((10 ^ (l - 1) : Nat) : ℚ) ≤ n * 10 ^ k / d := by
    refine le_trans (Nat.cast_le.mpr hlow) (le_trans Nat.cast_div_le (le_of_eq ?_))
    push_cast
    rfl
  have hhigh' : (n * 10 ^ k / d : ℚ) < (10 ^ l : Nat) := by
    rw [div_lt_iff₀ hdq]
    exact_mod_cast (Nat.div_lt_iff_lt_mul hd).mp hhigh
  have hshift : (n / d : ℚ) = n * 10 ^ k / d / 10 ^ k := by field_simp
  have hbefore : (l : Int) - 1 - k = (l - 1 : Nat) - (k : Int) := by omega
  have hafter : (l : Int) - 1 - k + 1 = (l : Int) - (k : Int) := by omega
  rw [hafter, hbefore, zpow_sub₀ (by norm_num), zpow_sub₀ (by norm_num), zpow_natCast,
    zpow_natCast, zpow_natCast, hshift]
  exact ⟨div_le_div_of_nonneg_right (by exact_mod_cast hlow') (by positivity),
    div_lt_div_of_pos_right (by exact_mod_cast hhigh') (by positivity)⟩

theorem leadingPower_eq (n d : Nat) :
    leadingPower n d = ((digits (n * Nat.pow 10 400 / d)).length : Int) - 1 - (400 : Nat) := rfl

/-! ## The interval of a double -/

section Double

open TidyTable.Decimal.Interval

variable {m : Nat} {e : Int}

theorem ofBinary_div (n : Nat) (e : Int) :
    ((n * 2 ^ e.toNat : Nat) : ℚ) / (4 * 2 ^ (-e).toNat : Nat) = n / 4 * 2 ^ e := by
  rw [← pow_toNat_div (by norm_num : (2 : ℚ) ≠ 0) e]
  push_cast
  field_simp

theorem exact_ofBinary (m : Nat) (e : Int) : (ofBinary m e).exact = m * 2 ^ e := by
  refine (ofBinary_div (4 * m) e).trans ?_
  push_cast
  ring

theorem top_ofBinary (m : Nat) (e : Int) : (ofBinary m e).top = (m + 1 / 2) * 2 ^ e := by
  refine (ofBinary_div (4 * m + 2) e).trans ?_
  push_cast
  ring

theorem bottom_ofBinary (hm : m ≠ 0) (e : Int) :
    (ofBinary m e).bottom = (m - 1 / 2) * 2 ^ e ∨
      m = 2 ^ 52 ∧ (ofBinary m e).bottom = (m - 1 / 4) * 2 ^ e := by
  unfold ofBinary bottom
  dsimp only
  split_ifs with hpower
  · right
    refine ⟨hpower.1, (ofBinary_div (4 * m - 1) e).trans ?_⟩
    rw [Nat.cast_sub (by omega)]
    push_cast
    ring
  · left
    refine (ofBinary_div (4 * m - 2) e).trans ?_
    rw [Nat.cast_sub (by omega)]
    push_cast
    ring

theorem proper_ofBinary (hm : m ≠ 0) (e : Int) : (ofBinary m e).Proper := by
  have hunit : 0 < Nat.pow 2 e.toNat := Nat.pow_pos (by decide)
  refine ⟨Nat.mul_pos (by decide) (Nat.pow_pos (by decide)), ?_, ?_⟩
  · refine Nat.mul_lt_mul_of_pos_right ?_ hunit
    split_ifs <;> omega
  · exact Nat.mul_lt_mul_of_pos_right (by omega) hunit

/-- An interval that is wider than a grid holds a multiple. -/
theorem hits_of_width {i : Interval} {p : Int} (hwidth : i.bottom + 10 ^ p < i.top) : i.Hits p := by
  have hpos := pow_pos_ten p
  have hbottom : 0 ≤ i.bottom := div_nonneg (Nat.cast_nonneg _) (Nat.cast_nonneg _)
  -- the first multiple behind the lower end
  have hfloor := Nat.floor_le (div_nonneg hbottom hpos.le)
  have hnext := Nat.lt_floor_add_one (i.bottom / 10 ^ p)
  rw [le_div_iff₀ hpos] at hfloor
  rw [div_lt_iff₀ hpos] at hnext
  refine ⟨⌊i.bottom / 10 ^ p⌋₊ + 1, by exact_mod_cast hnext, ?_⟩
  push_cast
  linarith

/-- **Seventeen digits are enough**: the interval is wider than their grid. -/
theorem hits_seventeen (hm : m ≠ 0) (hm' : m < 2 ^ 53) {p : Int} (hp : (10 : ℚ) ^ p ≤ m * 2 ^ e) :
    (ofBinary m e).Hits (p - 16) := by
  have hunit : (0 : ℚ) < 2 ^ e := zpow_pos (by norm_num) e
  have hgrid : (10 : ℚ) ^ (p - 16) * 10 ^ 16 ≤ m * 2 ^ e := by
    refine le_trans (le_of_eq ?_) hp
    rw [zpow_sub₀ (by norm_num)]
    norm_num
  refine hits_of_width ?_
  rw [top_ofBinary]
  rcases bottom_ofBinary hm e with hbottom | ⟨rfl, hbottom⟩
  · have hlong : (m : ℚ) * 2 ^ e ≤ 2 ^ 53 * 2 ^ e :=
      mul_le_mul_of_nonneg_right (by exact_mod_cast hm'.le) hunit.le
    rw [hbottom]
    linarith
  · rw [hbottom]
    push_cast at hgrid ⊢
    linarith

/-- The least doubles are far above the last place that is looked at. -/
theorem leadingPower_ofBinary (hm : m ≠ 0) (he : -1074 ≤ e) :
    (10 : ℚ) ^ leadingPower (ofBinary m e).value (ofBinary m e).denominator ≤ m * 2 ^ e ∧
      (m * 2 ^ e : ℚ)
        < 10 ^ (leadingPower (ofBinary m e).value (ofBinary m e).denominator + 1) := by
  have hfar : (ofBinary m e).denominator ≤ (ofBinary m e).value * Nat.pow 10 400 := by
    have hsmall : 2 ^ (-e).toNat ≤ Nat.pow 10 400 := by
      refine le_trans (Nat.pow_le_pow_right (by decide) (show (-e).toNat ≤ 1074 by omega)) ?_
      decide +kernel
    have hvalue : 4 ≤ (ofBinary m e).value :=
      Nat.le_trans (Nat.le_mul_of_pos_right 4 (Nat.pos_of_ne_zero hm))
        (Nat.le_mul_of_pos_right _ (Nat.pow_pos (by decide)))
    exact Nat.mul_le_mul hvalue hsmall
  have hspec := length_digits_spec (proper_ofBinary hm e).denominator hfar
  rw [← leadingPower_eq] at hspec
  rw [← exact_ofBinary]
  exact hspec

/-- What is known of the shortest decimal of a double: it lies in the interval of the double, it
begins at no lower place, and it ends at no lower place than where a multiple lies inside. -/
structure Shortest (m : Nat) (e : Int) (d : Scaled) : Prop where
  coefficient : d.coefficient ≠ 0
  bottom : (ofBinary m e).bottom ≤ d.amount
  top : d.amount ≤ (ofBinary m e).top
  begins : ∀ {p : Int}, (10 : ℚ) ^ p ≤ m * 2 ^ e → 10 ^ p ≤ d.amount
  ends : ∀ {p : Int}, (ofBinary m e).Hits p → (10 : ℚ) ^ p ≤ m * 2 ^ e → p ≤ d.exponent

/-- **The decimal of a double lies in its interval.** -/
theorem shortest_spec (tie : Tie) (hm : m ≠ 0) (hm' : m < 2 ^ 53) (he : -1074 ≤ e) :
    Shortest m e (shortest tie m e) := by
  obtain ⟨hlow, hhigh⟩ := leadingPower_ofBinary hm he
  have hproper := proper_ofBinary hm e
  have hshortest : shortest tie m e = (firstHit (ofBinary m e) tie
      (leadingPower (ofBinary m e).value (ofBinary m e).denominator) 17).strip 20 :=
    if_neg hm
  generalize leadingPower (ofBinary m e).value (ofBinary m e).denominator = p₀ at *
  have hone : (1 : ℚ) < 10 := by norm_num
  -- the last grid that is tried hits, so nothing is left to the end of the search
  have hseventeen := hits_seventeen hm hm' hlow
  have hfinds : ∀ {q : Int}, (ofBinary m e).Hits q → q ≤ p₀ → p₀ - 17 < q →
      Finds (ofBinary m e) p₀ q (firstHit (ofBinary m e) tie p₀ 17) := fun hhits hle hlt =>
    finds_firstHit hproper tie hhits hle hlt
  have hfound := hfinds hseventeen (by omega) (by omega)
  have hbegins := hfound.pow_le (hlow.trans_eq (exact_ofBinary m e).symm)
  have hcoefficient := Scaled.coefficient_ne_zero (lt_of_lt_of_le (pow_pos_ten p₀) hbegins)
  obtain ⟨hne, hamount, hexponent⟩ := Scaled.strip_spec 20 _ hcoefficient
  rw [hshortest]
  refine ⟨hne, hamount ▸ hfound.bottom, hamount ▸ hfound.top, fun hp => ?_,
    fun {p} hhits hp => ?_⟩
  · rw [hamount]
    refine le_trans (zpow_le_zpow_right₀ hone.le ?_) hbegins
    exact Int.lt_add_one_iff.mp ((zpow_lt_zpow_iff_right₀ hone).mp (lt_of_le_of_lt hp hhigh))
  · refine le_trans ?_ hexponent
    have hle := Int.lt_add_one_iff.mp
      ((zpow_lt_zpow_iff_right₀ hone).mp (lt_of_le_of_lt hp hhigh))
    rcases le_or_gt p (p₀ - 17) with hcoarse | hfine
    · -- a grid that is finer than all that are tried
      have := hfound.coarse
      omega
    · exact (hfinds hhits hle hfine).coarse

/-! ## Whole numbers and limits -/

/-- The decimal of a double is no farther from it than half of its last place. -/
theorem Shortest.near {d : Scaled} (h : Shortest m e d) (hm : m ≠ 0) :
    |d.amount - m * 2 ^ e| ≤ 2 ^ e / 2 := by
  have hunit : (0 : ℚ) < 2 ^ e := zpow_pos (by norm_num) e
  have htop := h.top
  rw [top_ofBinary] at htop
  have hbottom : (m - 1 / 2) * 2 ^ e ≤ d.amount := by
    rcases bottom_ofBinary hm e with hhalf | ⟨-, hquarter⟩
    · exact hhalf ▸ h.bottom
    · refine le_trans (mul_le_mul_of_nonneg_right (by linarith) hunit.le) (hquarter ▸ h.bottom)
  exact abs_le.mpr ⟨by linarith, by linarith⟩

/-- **A whole number has no places behind the point.** -/
theorem Shortest.exponent_nonneg {d : Scaled} (h : Shortest m e d) (hm : m ≠ 0) (he : 0 ≤ e) :
    0 ≤ d.exponent := by
  obtain ⟨k, rfl⟩ := Int.eq_ofNat_of_zero_le he
  have hproper := proper_ofBinary hm k
  have hwhole : (ofBinary m k).exact = (m * 2 ^ k : Nat) * 10 ^ (0 : Int) := by
    rw [exact_ofBinary]
    push_cast
    simp
  refine h.ends ⟨m * 2 ^ k, hwhole ▸ hproper.bottom_lt, hwhole ▸ hproper.lt_top⟩ ?_
  have hone : 1 ≤ m * 2 ^ k := Nat.mul_pos (Nat.pos_of_ne_zero hm) (Nat.two_pow_pos k)
  exact_mod_cast hone

/-- Doubles that lie so far apart end in three zeros. -/
theorem Shortest.three_le_exponent {d : Scaled} (h : Shortest m e d) (hm : m ≠ 0) (he : 11 ≤ e) :
    3 ≤ d.exponent := by
  have hunit : (2048 : ℚ) ≤ 2 ^ e := by
    refine le_trans (le_of_eq ?_) (zpow_le_zpow_right₀ (by norm_num) he)
    norm_num
  have hone : (1 : ℚ) ≤ m := by exact_mod_cast Nat.pos_of_ne_zero hm
  refine h.ends (hits_of_width ?_) ?_
  · have hbottom : (ofBinary m e).bottom ≤ (m - 1 / 4) * 2 ^ e := by
      rcases bottom_ofBinary hm e with hbottom | ⟨-, hbottom⟩
      · rw [hbottom]
        linarith
      · exact hbottom.le
    rw [top_ofBinary]
    norm_num
    linarith
  · norm_num
    nlinarith

/-- Below a number that is a multiple of a large power of two lies the whole interval of a double
that is less. -/
theorem top_ofBinary_lt {n : Nat} (hm' : m < 2 ^ 53) (hnormal : 2 ^ 52 ≤ m ∨ e = -1074)
    (hdvd : 2 ^ 11 ∣ n) (hlow : 2 ^ 53 < n) (hhigh : n ≤ 2 ^ 63) (h : (m * 2 ^ e : ℚ) < n) :
    (ofBinary m e).top < n := by
  rw [top_ofBinary]
  rcases le_or_gt e 0 with he | he
  · -- there is no multiple of one between
    have hunit : (2 : ℚ) ^ e ≤ 1 := zpow_le_one_of_nonpos₀ (by norm_num) he
    have hpos : (0 : ℚ) < 2 ^ e := zpow_pos (by norm_num) e
    have hm'' : (m : ℚ) + 1 ≤ 2 ^ 53 := by exact_mod_cast hm'
    have hlow' : (2 ^ 53 : ℚ) < n := by exact_mod_cast hlow
    nlinarith
  · obtain ⟨k, rfl⟩ := Int.eq_ofNat_of_zero_le he.le
    have hlt : m * 2 ^ k < n := by exact_mod_cast h
    -- the places of this double are no larger than the power that divides the limit
    have hk : k < 11 := by
      have hfull : 2 ^ 52 ≤ m := hnormal.resolve_right (by omega)
      by_contra hge
      have := Nat.mul_le_mul hfull (Nat.pow_le_pow_right (by decide) (Nat.not_lt.mp hge) :
        2 ^ 11 ≤ 2 ^ k)
      omega
    obtain ⟨c, rfl⟩ := Nat.dvd_trans (pow_dvd_pow 2 hk.le) hdvd
    have hsucc : (m + 1) * 2 ^ k ≤ 2 ^ k * c := by
      rw [Nat.mul_comm m] at hlt
      rw [Nat.mul_comm]
      exact Nat.mul_le_mul_left _ (Nat.succ_le_of_lt (Nat.lt_of_mul_lt_mul_left hlt))
    have hsucc' : ((m + 1) * 2 ^ k : ℚ) ≤ (2 ^ k * c : Nat) := by exact_mod_cast hsucc
    have hpos : (0 : ℚ) < 2 ^ k := by positivity
    rw [zpow_natCast]
    linarith

/-- Above the least number that a signed word does not hold lies the whole interval of a double
that is larger. -/
theorem lt_bottom_ofBinary (hm' : m < 2 ^ 53) (hnormal : 2 ^ 52 ≤ m ∨ e = -1074)
    (h : (2 ^ 63 : ℚ) < m * 2 ^ e) : 2 ^ 63 < (ofBinary m e).bottom := by
  have he : 11 ≤ e := by
    by_contra hlt
    have hunit : (2 : ℚ) ^ e ≤ 2 ^ (10 : Int) := zpow_le_zpow_right₀ (by norm_num) (by omega)
    have hm'' : (m : ℚ) ≤ 2 ^ 53 := by exact_mod_cast hm'.le
    have hle := mul_le_mul hm'' hunit (zpow_nonneg (by norm_num) e) (by norm_num)
    norm_num at hle h
    linarith
  have hfull : 2 ^ 52 ≤ m := hnormal.resolve_right (by omega)
  have hbottom : ((m : ℚ) - 1 / 2) * 2 ^ e ≤ (ofBinary m e).bottom := by
    have hunit : (0 : ℚ) < 2 ^ e := zpow_pos (by norm_num) e
    rcases bottom_ofBinary (m := m) (by omega) e with hbottom | ⟨-, hbottom⟩
    · exact hbottom.ge
    · rw [hbottom]
      linarith
  refine lt_of_lt_of_le ?_ hbottom
  rcases eq_or_lt_of_le he with rfl | hlt
  · -- the next mantissa of the same power
    have hnext : 2 ^ 52 < m := by
      by_contra hge
      obtain rfl : m = 2 ^ 52 := by omega
      norm_num at h
    have hnext' : ((2 ^ 52 + 1 : Nat) : ℚ) ≤ m := Nat.cast_le.mpr hnext
    push_cast at hnext'
    rw [show (2 : ℚ) ^ (11 : Int) = 2048 by norm_num]
    linarith
  · have hunit : (2 : ℚ) ^ (12 : Int) ≤ 2 ^ e := zpow_le_zpow_right₀ (by norm_num) hlt
    have hfull' : ((2 ^ 52 : Nat) : ℚ) ≤ m := Nat.cast_le.mpr hfull
    push_cast at hfull'
    rw [show (2 : ℚ) ^ (12 : Int) = 4096 by norm_num] at hunit
    nlinarith

end Double

end TidyTable.Decimal
