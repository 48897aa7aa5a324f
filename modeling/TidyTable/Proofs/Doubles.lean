import Mathlib.Algebra.Ring.Nat
import TidyTable.Decimal.Binary

/-!
# Integers as doubles

Integers and the numbers of rows are written as doubles. Two facts are needed about the double that
is closest to an integer. If a word holds the integer, the double is finite (`isFinite_nearest`).
And a number of less than 54 bits is not changed by it (`whole?_nearest`), so that a row that is
counted by a double is counted right. What is known of every double is how long its mantissa is
(`ofFloat_bounds`).

A double is made in two steps. The integer is rounded to a mantissa of 53 bits and an exponent, and
these are packed into 64 bits. Rounding shifts the bits that are too many out and may go up, which
can make the mantissa longer by one bit; it is then shifted once more. Packing keeps a mantissa of
full length as long as its exponent is neither too small nor too large, and for a word it never is.
-/

namespace TidyTable.Decimal

open Float.Model Float.Model.UnpackedFloat

/-! ## Bits -/

/-- The sign stands in front of the exponent and the mantissa. -/
theorem ofBitVec_unpackSign (s : Sign) (e : BitVec 11) (m : BitVec 52) :
    Sign.ofBitVec (unpackSign (packComponents .binary64 s e m)) = s := by
  have hsign : unpackSign (packComponents .binary64 s e m) = s.toBitVec := by
    ext i hi
    obtain rfl : i = 0 := by omega
    show ((s.toBitVec ++ e ++ m).extractLsb' 63 1)[0] = s.toBitVec[0]
    rw [BitVec.getElem_extractLsb', BitVec.getLsbD_append, BitVec.getLsbD_append]
    rfl
  rw [hsign]
  cases s <;> rfl

/-- A mantissa of full length whose exponent fits comes back from its bits. -/
theorem unpack_pack {s : Sign} {m : Nat} {e : Int} (hpos : 0 < m) (hm : m.log2 = 52)
    (hlow : -1074 ≤ e) (hhigh : e ≤ 971) :
    UnpackedFloat.unpack .binary64 (UnpackedFloat.pack .binary64 (.finite s m e hpos))
      = .finite s m e hpos := by
  obtain ⟨hlo, hhi⟩ := (Nat.log2_eq_iff (Nat.pos_iff_ne_zero.mp hpos)).mp hm
  -- the exponent is stored as a positive number, neither the least nor the largest
  obtain ⟨b, hb⟩ : ∃ b : Nat, e + 1075 = b := ⟨(e + 1075).toNat, by omega⟩
  have hbits : (BitVec.ofNat 11 b).toNat = b := by
    rw [BitVec.toNat_ofNat]; exact Nat.mod_eq_of_lt (by omega)
  have hne {c : BitVec 11} (hc : c.toNat ≠ b) : BitVec.ofNat 11 b ≠ c := by
    intro h
    rw [h] at hbits
    exact hc hbits
  have hmantissa : (1#1 ++ BitVec.ofNat 52 m).toNat = m := by
    rw [BitVec.toNat_append, ← Nat.shiftLeft_add_eq_or_of_lt (BitVec.isLt _),
      BitVec.toNat_ofNat]
    simp [Nat.shiftLeft_eq]
    omega
  have hpack : UnpackedFloat.pack .binary64 (.finite s m e hpos)
      = packComponents .binary64 s (BitVec.ofNat 11 b) (BitVec.ofNat 52 m) := by
    have hbias : (e + Format.binary64.exponentBias
        + Format.binary64.mantissaBitsWithoutImplicit).toNat = b := by
      show (e + 1023 + 52).toNat = b
      omega
    unfold UnpackedFloat.pack
    dsimp only
    rw [hbias, if_neg (by show ¬ 2 ^ 11 ≤ b + 1; omega), if_pos (by rw [hm]; rfl)]
  rw [hpack]
  have hfinite : ∀ {s' : Sign} {m' : Nat} {e' : Int} {hpos' : 0 < m'}, s' = s → m' = m → e' = e →
      UnpackedFloat.finite s' m' e' hpos' = .finite s m e hpos := by
    rintro _ _ _ _ rfl rfl rfl
    rfl
  unfold UnpackedFloat.unpack
  dsimp only
  rw [unpackExponent_packComponents, if_neg (hne (by show 2047 ≠ b; omega)),
    if_neg (hne (by show 0 ≠ b; omega))]
  refine hfinite (ofBitVec_unpackSign s _ _) ?_ ?_
  · rw [unpackMantissa_packComponents]
    exact hmantissa
  · rw [hbits]
    show (b : Int) - (1023 + 52) = e
    omega

/-- What the bits of a double are taken for. -/
theorem unpack_bounds {b : BitVec 64} {s : Sign} {m : Nat} {e : Int} {hpos : 0 < m}
    (h : UnpackedFloat.unpack .binary64 b = .finite s m e hpos) :
    m < 2 ^ 53 ∧ -1074 ≤ e ∧ (2 ^ 52 ≤ m ∨ e = -1074) := by
  have hmantissa : (@unpackMantissa .binary64 b).toNat < 2 ^ 52 := BitVec.isLt _
  unfold UnpackedFloat.unpack at h
  dsimp only at h
  by_cases hmax : @unpackExponent .binary64 b = -1#11
  · rw [if_pos hmax] at h
    by_cases hinfinite : @unpackMantissa .binary64 b = 0#52
    · rw [if_pos hinfinite] at h
      exact absurd h nofun
    · rw [if_neg hinfinite] at h
      exact absurd h nofun
  rw [if_neg hmax] at h
  by_cases hsmall : @unpackExponent .binary64 b = 0#11
  · rw [if_pos hsmall] at h
    by_cases hzero : @unpackMantissa .binary64 b = 0#52
    · rw [dif_pos hzero] at h
      exact absurd h nofun
    · rw [dif_neg hzero] at h
      obtain ⟨-, rfl, rfl⟩ := UnpackedFloat.finite.inj h
      rw [hsmall]
      exact ⟨by omega, by decide, Or.inr (by decide)⟩
  · rw [if_neg hsmall] at h
    obtain ⟨-, rfl, rfl⟩ := UnpackedFloat.finite.inj h
    have hexponent : (@unpackExponent .binary64 b).toNat ≠ 0 := fun hzero =>
      hsmall (BitVec.eq_of_toNat_eq hzero)
    have hbits : (1#1 ++ @unpackMantissa .binary64 b).toNat
        = 2 ^ 52 + (@unpackMantissa .binary64 b).toNat := by
      rw [BitVec.toNat_append, ← Nat.shiftLeft_add_eq_or_of_lt hmantissa]
      rfl
    refine ⟨by omega, ?_, Or.inl (by omega)⟩
    show -1074 ≤ ((@unpackExponent .binary64 b).toNat : Int) - (1023 + 52)
    omega

/-- **A double has at most 53 bits, and all of them unless it is very small.** -/
theorem ofFloat_bounds {x : Float} {negative : Bool} {m : Nat} {e : Int}
    (h : Binary.ofFloat x = .finite negative m e) :
    m < 2 ^ 53 ∧ -1074 ≤ e ∧ (2 ^ 52 ≤ m ∨ e = -1074) := by
  unfold Binary.ofFloat at h
  split at h
  · exact absurd h nofun
  · exact absurd h nofun
  · obtain ⟨-, rfl, rfl⟩ := Binary.finite.inj h
    exact ⟨by decide, by decide, Or.inr rfl⟩
  · rename_i hunpack
    obtain ⟨-, rfl, rfl⟩ := Binary.finite.inj h
    exact unpack_bounds hunpack

/-! ## Rounding -/

theorem log2_mul_two_pow {n : Nat} (h : n ≠ 0) (j : Nat) : (n * 2 ^ j).log2 = n.log2 + j := by
  obtain ⟨hlo, hhi⟩ := (Nat.log2_eq_iff h).mp rfl
  have hne : n * 2 ^ j ≠ 0 := Nat.mul_ne_zero h (Nat.pos_iff_ne_zero.mp (Nat.two_pow_pos j))
  refine (Nat.log2_eq_iff hne).mpr ⟨?_, ?_⟩
  · rw [Nat.pow_add]
    exact Nat.mul_le_mul_right _ hlo
  · rw [Nat.add_right_comm, Nat.pow_add]
    exact Nat.mul_lt_mul_of_pos_right hhi (Nat.two_pow_pos j)

/-- Shifting right divides, whatever becomes of the bits that are lost. -/
theorem mantissa_shiftRight (em : ExtendedMantissa) (j : Nat) :
    (em >>> j).mantissa = em.mantissa / 2 ^ j := by
  show (j.repeat ExtendedMantissa.shiftRightOne em).mantissa = em.mantissa / 2 ^ j
  induction j with
  | zero => rw [Nat.pow_zero, Nat.div_one]; rfl
  | succ j ih =>
    show (j.repeat ExtendedMantissa.shiftRightOne em).mantissa / 2 = _
    rw [ih, Nat.div_div_eq_div_mul, Nat.pow_succ]

theorem roundedMantissa_bounds (em : ExtendedMantissa) :
    em.mantissa ≤ em.roundedMantissa ∧ em.roundedMantissa ≤ em.mantissa + 1 := by
  obtain ⟨m, round, sticky⟩ := em
  cases round <;> cases sticky <;>
    simp only [ExtendedMantissa.roundedMantissa, ExtendedMantissa.accuracy,
      Accuracy.roundToNearestEven] <;> omega

/-- Cut by the bits that it is too long, a mantissa has full length. -/
theorem div_two_pow_bounds {m j : Nat} (hm : m.log2 = 52 + j) :
    2 ^ 52 ≤ m / 2 ^ j ∧ m / 2 ^ j < 2 ^ 53 := by
  have hm0 : m ≠ 0 := by
    rintro rfl
    rw [Nat.log2_zero] at hm
    omega
  obtain ⟨hlo, hhi⟩ := (Nat.log2_eq_iff hm0).mp hm
  rw [show 52 + j + 1 = 53 + j by omega] at hhi
  rw [Nat.le_div_iff_mul_le (Nat.two_pow_pos j), Nat.div_lt_iff_lt_mul (Nat.two_pow_pos j),
    ← Nat.pow_add, ← Nat.pow_add]
  exact ⟨hlo, hhi⟩

/-- A mantissa that is too long by `j` bits is shifted by as many. -/
theorem shiftToTargetExponent_eq {m j : Nat} {e : Int} (hm : m.log2 = 52 + j) (he : -1074 ≤ e) :
    shiftToTargetExponent .binary64 m e .exact =
      (ExtendedMantissa.mk m false false >>> j, e + j) := by
  have htarget : Format.binary64.targetExponent (totalExponent m e) = e + j := by
    show max ((m.log2 : Int) + 1 + e - 53) (-1074) = e + j
    omega
  have hshift : (e + j - e).toNat = j := by omega
  unfold shiftToTargetExponent shiftToExponent
  rw [htarget]
  dsimp only
  rw [hshift]
  rfl

/-- Rounding takes two shifts, the second one for a mantissa that rounding up made longer. -/
theorem roundWithAccuracy_eq {s : Sign} {m : Nat} {e e₁ e₂ : Int} {em₁ em₂ : ExtendedMantissa}
    (h₁ : shiftToTargetExponent .binary64 m e .exact = (em₁, e₁))
    (h₂ : shiftToTargetExponent .binary64 em₁.roundedMantissa e₁ .exact = (em₂, e₂))
    (hpos : 0 < em₂.mantissa) :
    roundWithAccuracy .binary64 s m e .exact = .finite s em₂.mantissa e₂ hpos := by
  have hne : em₂.mantissa ≠ 0 := by omega
  unfold roundWithAccuracy
  rw [h₁]
  dsimp only
  rw [h₂]
  exact dif_neg hne

/-- Rounding up may make a mantissa longer by one bit, which is then a zero. -/
theorem exists_shiftToTargetExponent {r : Nat} {e : Int} (hlo : 2 ^ 52 ≤ r) (hhi : r ≤ 2 ^ 53)
    (he : -1074 ≤ e) : ∃ em e', shiftToTargetExponent .binary64 r e .exact = (em, e') ∧
      em.mantissa.log2 = 52 ∧ e ≤ e' ∧ e' ≤ e + 1 ∧ em.mantissa * 2 ^ (e' - e).toNat = r ∧
      (r < 2 ^ 53 → em.mantissa = r ∧ e' = e) := by
  rcases Nat.lt_or_ge r (2 ^ 53) with hlt | hge
  · have hr : r.log2 = 52 + 0 := (Nat.log2_eq_iff (by omega)).mpr ⟨hlo, hlt⟩
    have hshift : (e + (0 : Nat) - e).toNat = 0 := by omega
    refine ⟨_, _, shiftToTargetExponent_eq hr he, hr, by omega, by omega, ?_,
      fun _ => ⟨rfl, by omega⟩⟩
    rw [hshift]
    exact Nat.mul_one r
  · obtain rfl : r = 2 ^ 53 := by omega
    have hshift : (e + (1 : Nat) - e).toNat = 1 := by omega
    refine ⟨_, _, shiftToTargetExponent_eq (j := 1) Nat.log2_two_pow he, ?_, by omega, by omega,
      ?_, fun h => absurd h (Nat.lt_irrefl _)⟩
    · rw [mantissa_shiftRight, Nat.pow_div (by decide) (by decide)]
      exact Nat.log2_two_pow
    · rw [mantissa_shiftRight, hshift]
      rfl

/-- A mantissa that is long enough is rounded to one of full length, and one of full length stays
as it is. -/
theorem roundWithAccuracy_spec {m j : Nat} {e : Int} (hm : m.log2 = 52 + j) (he : -1074 ≤ e)
    (s : Sign) : ∃ m' e' hpos, roundWithAccuracy .binary64 s m e .exact = .finite s m' e' hpos ∧
      m'.log2 = 52 ∧ e + j ≤ e' ∧ e' ≤ e + j + 1 ∧
      m / 2 ^ j ≤ m' * 2 ^ (e' - (e + j)).toNat ∧ m' * 2 ^ (e' - (e + j)).toNat ≤ m / 2 ^ j + 1 ∧
      (j = 0 → m' = m ∧ e' = e) := by
  have hfirst := shiftToTargetExponent_eq hm he
  obtain ⟨hq1, hq2⟩ := div_two_pow_bounds hm
  obtain ⟨hr1, hr2⟩ := roundedMantissa_bounds (ExtendedMantissa.mk m false false >>> j)
  rw [mantissa_shiftRight] at hr1 hr2
  obtain ⟨em, e', hsecond, hlog, he1, he2, hsame, hkeep⟩ :=
    exists_shiftToTargetExponent (e := e + j) (Nat.le_trans hq1 hr1) (Nat.le_trans hr2 hq2)
      (by omega)
  have hpos : 0 < em.mantissa := Nat.pos_of_ne_zero fun h => by simp [h] at hlog
  refine ⟨_, _, hpos, roundWithAccuracy_eq hfirst hsecond hpos, hlog, by omega, by omega,
    hsame ▸ hr1, hsame ▸ hr2, ?_⟩
  rintro rfl
  rw [Nat.pow_zero, Nat.div_one] at hq2
  obtain ⟨hsame, hsame'⟩ := hkeep hq2
  exact ⟨hsame, by omega⟩

/-- What a whole number is rounded to: a mantissa of full length, that is the number itself without
the bits that are too many, or the next one. Nothing is lost of a number that has no more bits than
a mantissa. -/
structure Rounded (n m : Nat) (e : Int) : Prop where
  full : m.log2 = 52
  low : (n.log2 : Int) - 52 ≤ e
  high : e ≤ 971
  near : ∀ {j : Nat}, n.log2 = 52 + j →
    ∃ l : Nat, e = j + l ∧ n / 2 ^ j ≤ m * 2 ^ l ∧ m * 2 ^ l ≤ n / 2 ^ j + 1
  kept : n < 2 ^ 53 → ∃ k : Nat, e = -k ∧ m = n * 2 ^ k

/-- A number that is no larger than a word is rounded so. -/
theorem round_spec {n : Nat} (hn : n ≠ 0) (hword : n < 2 ^ 64) (s : Sign) :
    ∃ m e hpos, UnpackedFloat.round .binary64 s n 0 = .finite s m e hpos ∧ Rounded n m e := by
  have hlog : n.log2 < 64 := (Nat.log2_lt hn).mpr hword
  have htarget : Format.binary64.targetExponent (totalExponent n 0) = (n.log2 : Int) - 52 := by
    show max ((n.log2 : Int) + 1 + 0 - 53) (-1074) = _
    omega
  have hround : UnpackedFloat.round .binary64 s n 0
      = roundWithAccuracy .binary64 s (n * 2 ^ (52 - n.log2)) (-(52 - n.log2 : Nat)) .exact := by
    have hshift : (0 - ((n.log2 : Int) - 52)).toNat = 52 - n.log2 := by omega
    unfold UnpackedFloat.round decreaseExponent
    rw [htarget]
    dsimp only
    rw [hshift, Nat.shiftLeft_eq, Int.zero_sub]
  have hlong : (n * 2 ^ (52 - n.log2)).log2 = 52 + (n.log2 - 52) := by
    rw [log2_mul_two_pow hn]
    omega
  obtain ⟨m, e, hpos, hm, hm', he1, he2, hlow, hhigh, hkeep⟩ := roundWithAccuracy_spec hlong
    (e := -(52 - n.log2 : Nat)) (by omega) s
  refine ⟨m, e, hpos, hround.trans hm, hm', by omega, by omega, fun {j} hj => ?_,
    fun hsmall => ?_⟩
  · have hnone : 52 - n.log2 = 0 := by omega
    have hbits : n.log2 - 52 = j := by omega
    rw [hnone, hbits] at hlow hhigh
    rw [Nat.pow_zero, Nat.mul_one] at hlow hhigh
    exact ⟨_, by omega, hlow, hhigh⟩
  · have hlog' : n.log2 < 53 := (Nat.log2_lt hn).mpr hsmall
    obtain ⟨rfl, rfl⟩ := hkeep (by omega)
    exact ⟨_, rfl, rfl⟩

/-! ## Integers -/

/-- What a rounded number is taken for. -/
theorem ofFloat_round {n : Nat} (hn : n ≠ 0) (hword : n < 2 ^ 64) (s : Sign) :
    ∃ negative m e,
      Binary.ofFloat (.ofModel (.pack (UnpackedFloat.round .binary64 s n 0)))
        = .finite negative m e ∧ (s = .positive → negative = false) ∧ Rounded n m e := by
  obtain ⟨m, e, hpos, hround, hrounded⟩ := round_spec hn hword s
  have hlow := hrounded.low
  have hunpack : (Float.Model.pack (UnpackedFloat.round .binary64 s n 0)).unpack
      = .finite s m e hpos := by
    rw [hround]
    exact unpack_pack hpos hrounded.full (by omega) hrounded.high
  unfold Binary.ofFloat
  dsimp only
  rw [hunpack]
  refine ⟨_, m, e, rfl, ?_, hrounded⟩
  rintro rfl
  rfl

theorem ofFloat_nearest_zero : Binary.ofFloat (nearest 0) = .finite false 0 (-1074) := by
  decide +kernel

theorem nearest_natCast {n : Nat} (hn : n ≠ 0) :
    nearest n = .ofModel (.pack (UnpackedFloat.round .binary64 .positive n 0)) := by
  have hgt : compare (n : Int) 0 = .gt := Int.compare_eq_gt.mpr (by omega)
  unfold nearest Float.Model.ofInt UnpackedFloat.ofInt UnpackedFloat.normalize
  rw [hgt]
  rfl

theorem nearest_neg_natCast {n : Nat} (hn : n ≠ 0) :
    nearest (-n) = .ofModel (.pack (UnpackedFloat.round .binary64 .negative n 0)) := by
  have hlt : compare (-(n : Int)) 0 = .lt := Int.compare_eq_lt.mpr (by omega)
  unfold nearest Float.Model.ofInt UnpackedFloat.ofInt UnpackedFloat.normalize
  rw [hlt]
  dsimp only
  rw [Int.neg_neg, Int.toNat_natCast]

/-- **The double of an integer that a word holds is finite.** -/
theorem isFinite_nearest {i : Int} (h : i.natAbs < 2 ^ 64) :
    (Binary.ofFloat (nearest i)).isFinite = true := by
  by_cases hi : i = 0
  · rw [hi, ofFloat_nearest_zero]
    rfl
  have hn : i.natAbs ≠ 0 := Int.natAbs_ne_zero.mpr hi
  rcases Int.natAbs_eq i with hsign | hsign
  · obtain ⟨_, _, _, hfinite, _⟩ := ofFloat_round hn h .positive
    rw [hsign, nearest_natCast hn, hfinite]
    rfl
  · obtain ⟨_, _, _, hfinite, _⟩ := ofFloat_round hn h .negative
    rw [hsign, nearest_neg_natCast hn, hfinite]
    rfl

/-- **A number of less than 54 bits is what its double stands for.** -/
theorem whole?_nearest {n : Nat} (h : n < 2 ^ 53) : whole? (nearest n) = some (n : Int) := by
  unfold whole?
  by_cases hn : n = 0
  · rw [hn]
    show (Binary.ofFloat (nearest 0)).whole? = _
    rw [ofFloat_nearest_zero]
    decide +kernel
  obtain ⟨negative, m, e, hfinite, hsign, hrounded⟩ := ofFloat_round hn (by omega) .positive
  obtain ⟨k, rfl, rfl⟩ := hrounded.kept h
  rw [nearest_natCast hn, hfinite, hsign rfl]
  unfold Binary.whole?
  dsimp only
  by_cases hk : k = 0
  · subst hk
    simp
  · rw [if_neg (by omega), Int.neg_neg, Int.toNat_natCast]
    have hpow : Nat.pow 2 k = 2 ^ k := rfl
    rw [hpow, if_pos (Nat.mul_mod_left _ _), Nat.mul_div_cancel _ (Nat.two_pow_pos k)]
    rfl

end TidyTable.Decimal
