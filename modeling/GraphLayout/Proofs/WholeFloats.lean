import Mathlib
import GraphLayout.Layout.FloatIds

/-!
# Whole numbers among the binary64 numbers

A whole number of at most 53 binary digits is a binary64 number, of which the mantissa is
the number with as many zeros behind it as there is room for. A greater one is rounded to 53
digits, with at least one zero behind them.
-/

namespace GraphLayout

open Float.Model (UnpackedFloat Format)
open Float.Model.UnpackedFloat (Sign ExtendedMantissa unpack pack packComponents unpackMantissa
  unpackExponent unpackSign)

/-!
# Parts
-/

namespace Decimal.Parts

def isNegative (sign : Sign) : Bool :=
  match sign with
  | .positive => false
  | .negative => true

def ofUnpacked : UnpackedFloat -> Parts
  | .notANumber => notANumber
  | .infinity sign => infinite (isNegative sign)
  | .zero sign => finite (isNegative sign) ⟨0, -1074⟩
  | .finite sign mantissa exponent _ => finite (isNegative sign) ⟨mantissa, exponent⟩

theorem isNegative_ofBitVec (bit : BitVec 1) :
    isNegative (Sign.ofBitVec bit) = (bit.toNat == 1) := by
  revert bit
  decide

theorem toNat_one_append (fraction : BitVec 52) :
    (1#1 ++ fraction).toNat = Nat.pow 2 52 + fraction.toNat := by
  rw [BitVec.toNat_append, ← Nat.shiftLeft_add_eq_or_of_lt fraction.isLt]
  simp [Nat.shiftLeft_eq]

theorem toNat_unpackMantissa (word : UInt64) :
    (@unpackMantissa Format.binary64 word.toBitVec).toNat = word.toNat % Nat.pow 2 52 := by
  change (word.toNat >>> 0) % 2 ^ 52 = _
  rw [Nat.shiftRight_zero, Nat.pow_eq]

theorem toNat_unpackExponent (word : UInt64) :
    (@unpackExponent Format.binary64 word.toBitVec).toNat =
      word.toNat / Nat.pow 2 52 % Nat.pow 2 11 := by
  change (word.toNat >>> 52) % 2 ^ 11 = _
  rw [Nat.shiftRight_eq_div_pow, Nat.pow_eq, Nat.pow_eq]

theorem toNat_unpackSign (word : UInt64) :
    (@unpackSign Format.binary64 word.toBitVec).toNat = word.toNat / Nat.pow 2 63 := by
  have hword := word.toNat_lt
  change (word.toNat >>> 63) % 2 = _
  rw [Nat.shiftRight_eq_div_pow, Nat.mod_eq_of_lt (by omega), Nat.pow_eq]

theorem unpackMantissa_eq_zero_iff (word : UInt64) :
    @unpackMantissa Format.binary64 word.toBitVec = 0#52 <-> word.toNat % Nat.pow 2 52 = 0 := by
  rw [← toNat_unpackMantissa, ← BitVec.toNat_inj]
  rfl

theorem unpackExponent_eq_iff (word : UInt64) (field : BitVec 11) :
    @unpackExponent Format.binary64 word.toBitVec = field <->
      word.toNat / Nat.pow 2 52 % Nat.pow 2 11 = field.toNat := by
  rw [← toNat_unpackExponent, ← BitVec.toNat_inj]

theorem ofFloat_eq (x : Float) : ofFloat x = ofUnpacked x.toModel.unpack := by
  change ofBits x.toModel.toBits = ofUnpacked (unpack Format.binary64 x.toModel.toBits.toBitVec)
  generalize x.toModel.toBits = word
  have hexponent := unpackExponent_eq_iff word (-1#11)
  have hzero := unpackExponent_eq_iff word 0#11
  have hfraction := unpackMantissa_eq_zero_iff word
  have hsign : isNegative (Sign.ofBitVec (@unpackSign Format.binary64 word.toBitVec)) =
      (word.toNat / Nat.pow 2 63 == 1) := by
    rw [isNegative_ofBitVec, toNat_unpackSign]
  unfold ofBits unpack
  by_cases hmax : word.toNat / Nat.pow 2 52 % Nat.pow 2 11 = 2047
  · rw [if_pos hmax, if_pos (hexponent.mpr hmax)]
    by_cases hnone : word.toNat % Nat.pow 2 52 = 0
    · rw [if_pos hnone, if_pos (hfraction.mpr hnone), ofUnpacked, hsign]
    · rw [if_neg hnone, if_neg (mt hfraction.mp hnone), ofUnpacked]
  · rw [if_neg hmax, if_neg (mt hexponent.mp hmax)]
    by_cases hmin : word.toNat / Nat.pow 2 52 % Nat.pow 2 11 = 0
    · rw [if_pos hmin, if_pos (hzero.mpr hmin)]
      by_cases hnone : word.toNat % Nat.pow 2 52 = 0
      · rw [dif_pos (hfraction.mpr hnone), ofUnpacked, hsign, hnone]
      · rw [dif_neg (mt hfraction.mp hnone), ofUnpacked, hsign, toNat_unpackMantissa,
          toNat_unpackExponent, hmin]
        rfl
    · rw [if_neg hmin, if_neg (mt hzero.mp hmin), ofUnpacked, hsign, toNat_one_append,
        toNat_unpackMantissa, toNat_unpackExponent]
      rfl

theorem mantissa_of_ofFloat {x : Float} {negative : Bool} {magnitude : Magnitude}
    (h : ofFloat x = finite negative magnitude) :
    magnitude.mantissa.log2 = 52 ∨ magnitude.mantissa < 2 ^ 52 ∧ magnitude.exponent = -1074 := by
  have hfraction : x.toBits.toNat % 2 ^ 52 < 2 ^ 52 := Nat.mod_lt _ (Nat.two_pow_pos 52)
  simp only [ofFloat, ofBits] at h
  split at h
  · split at h <;> contradiction
  · split at h
    · cases h
      exact Or.inr ⟨hfraction, rfl⟩
    · cases h
      have hbound : Nat.pow 2 52 + x.toBits.toNat % Nat.pow 2 52 < 2 ^ (52 + 1) := by
        rw [Nat.pow_eq]
        omega
      left
      rw [Nat.log2_eq_iff (by simp)]
      exact ⟨Nat.le_add_right _ _, hbound⟩

end Decimal.Parts

/-!
# Rounding

A mantissa of 53 binary digits has the logarithm 52.
-/

namespace Rounding

open Float.Model.UnpackedFloat (roundWithAccuracy shiftToTargetExponent shiftToExponent)

theorem targetExponent_eq (mantissa : Nat) (exponent : Int) :
    Format.binary64.targetExponent (Float.Model.totalExponent mantissa exponent) =
      max (mantissa.log2 + exponent - 52) (-1074) := by
  simp only [Format.targetExponent, Float.Model.totalExponent, Format.mantissaBits,
    Format.minExponent]
  omega

theorem mantissa_repeat_shiftRightOne (n : Nat) (extended : ExtendedMantissa) :
    (n.repeat ExtendedMantissa.shiftRightOne extended).mantissa = extended.mantissa / 2 ^ n := by
  induction n with
  | zero =>
      simp [Nat.repeat]
  | succ n ih =>
      rw [Nat.repeat, ExtendedMantissa.shiftRightOne, ih, Nat.div_div_eq_div_mul, Nat.pow_succ]

theorem repeat_shiftRightOne_exact (n mantissa : Nat) :
    n.repeat ExtendedMantissa.shiftRightOne ⟨mantissa * 2 ^ n, false, false⟩ =
      ⟨mantissa, false, false⟩ := by
  induction n generalizing mantissa with
  | zero =>
      simp [Nat.repeat]
  | succ n ih =>
      have hsplit : mantissa * 2 ^ (n + 1) = mantissa * 2 * 2 ^ n := by
        rw [Nat.pow_succ, Nat.mul_assoc, Nat.mul_comm (2 ^ n)]
      rw [Nat.repeat, hsplit, ih]
      simp [ExtendedMantissa.shiftRightOne]

theorem roundedMantissa_bounds (extended : ExtendedMantissa) :
    extended.mantissa ≤ extended.roundedMantissa ∧
      extended.roundedMantissa ≤ extended.mantissa + 1 := by
  rcases extended with ⟨mantissa, roundBit, stickyBit⟩
  cases roundBit with
  | false =>
      cases stickyBit with
      | false =>
          exact ⟨Nat.le_refl _, Nat.le_succ _⟩
      | true =>
          exact ⟨Nat.le_refl _, Nat.le_succ _⟩
  | true =>
      cases stickyBit with
      | false =>
          -- A tie goes to the even mantissa.
          change mantissa ≤ mantissa + mantissa % 2 ∧ mantissa + mantissa % 2 ≤ mantissa + 1
          omega
      | true =>
          exact ⟨Nat.le_succ _, Nat.le_refl _⟩

theorem ne_zero_of_log2 {mantissa : Nat} (hfull : mantissa.log2 = 52) : mantissa ≠ 0 := by
  intro h
  rw [h] at hfull
  contradiction

theorem log2_mul_two_pow {mantissa : Nat} (hne : mantissa ≠ 0) (zeros : Nat) :
    (mantissa * 2 ^ zeros).log2 = mantissa.log2 + zeros := by
  induction zeros with
  | zero =>
      rw [Nat.pow_zero, Nat.mul_one, Nat.add_zero]
  | succ zeros ih =>
      have hscaled : mantissa * 2 ^ zeros ≠ 0 := Nat.mul_ne_zero hne (Nat.two_pow_pos zeros).ne'
      rw [Nat.pow_succ', Nat.mul_left_comm, Nat.log2_two_mul hscaled, ih, Nat.add_assoc]

theorem log2_div_two_pow {mantissa : Nat} (hlarge : 52 ≤ mantissa.log2) :
    (mantissa / 2 ^ (mantissa.log2 - 52)).log2 = 52 := by
  have hquotient := Nat.log_div_base_pow 2 mantissa (mantissa.log2 - 52)
  rw [← Nat.log2_eq_log_two, ← Nat.log2_eq_log_two] at hquotient
  omega

theorem shiftToTargetExponent_exact {mantissa zeros : Nat} {exponent : Int}
    (hfull : mantissa.log2 = 52) (hlow : -1074 ≤ exponent + zeros) :
    shiftToTargetExponent Format.binary64 (mantissa * 2 ^ zeros) exponent .exact =
      (⟨mantissa, false, false⟩, exponent + zeros) := by
  have hshift : (max (((mantissa * 2 ^ zeros).log2 : Int) + exponent - 52) (-1074) -
      exponent).toNat = zeros := by
    rw [log2_mul_two_pow (ne_zero_of_log2 hfull), hfull]
    omega
  have hrepeat := repeat_shiftRightOne_exact zeros mantissa
  simp only [shiftToTargetExponent, shiftToExponent, targetExponent_eq, hshift,
    ExtendedMantissa.ofMantissaAndAccuracy, HShiftRight.hShiftRight, hrepeat]

theorem shiftToTargetExponent_full {mantissa : Nat} {exponent : Int} (hfull : mantissa.log2 = 52)
    (hlow : -1074 ≤ exponent) :
    shiftToTargetExponent Format.binary64 mantissa exponent .exact =
      (⟨mantissa, false, false⟩, exponent) := by
  simpa using @shiftToTargetExponent_exact mantissa 0 exponent hfull (by simpa using hlow)

theorem roundWithAccuracy_exact {sign : Sign} {mantissa zeros : Nat} {exponent : Int}
    (hfull : mantissa.log2 = 52) (hlow : -1074 ≤ exponent + zeros) :
    roundWithAccuracy Format.binary64 sign (mantissa * 2 ^ zeros) exponent .exact =
      .finite sign mantissa (exponent + zeros) (Nat.pos_of_ne_zero (ne_zero_of_log2 hfull)) := by
  have hrounded : ExtendedMantissa.roundedMantissa ⟨mantissa, false, false⟩ = mantissa := rfl
  simp only [roundWithAccuracy, shiftToTargetExponent_exact hfull hlow, hrounded,
    shiftToTargetExponent_full hfull hlow]
  rw [dif_neg (ne_zero_of_log2 hfull)]

/-- Further digits are shifted out, and may leave a trace. -/
theorem shiftToTargetExponent_large {mantissa : Nat} {exponent : Int}
    (hlarge : 52 ≤ mantissa.log2) (hlow : -1074 ≤ exponent + (mantissa.log2 - 52 : Nat)) :
    exists extended,
      shiftToTargetExponent Format.binary64 mantissa exponent .exact =
        (extended, exponent + (mantissa.log2 - 52 : Nat)) ∧
      extended.mantissa.log2 = 52 := by
  have hshift : (max ((mantissa.log2 : Int) + exponent - 52) (-1074) - exponent).toNat =
      mantissa.log2 - 52 := by
    omega
  refine ⟨(mantissa.log2 - 52).repeat ExtendedMantissa.shiftRightOne ⟨mantissa, false, false⟩,
    ?_, ?_⟩
  · simp only [shiftToTargetExponent, shiftToExponent, targetExponent_eq, hshift,
      ExtendedMantissa.ofMantissaAndAccuracy, HShiftRight.hShiftRight]
  · rw [mantissa_repeat_shiftRightOne, log2_div_two_pow hlarge]

theorem roundedMantissa_cases {extended : ExtendedMantissa}
    (hfull : extended.mantissa.log2 = 52) :
    extended.roundedMantissa.log2 = 52 ∨ extended.roundedMantissa = 2 ^ 52 * 2 ^ 1 := by
  have hbounds := roundedMantissa_bounds extended
  rcases (Nat.log2_eq_iff (ne_zero_of_log2 hfull)).mp hfull with ⟨hlower, hupper⟩
  rw [Nat.log2_eq_iff (by omega)]
  omega

theorem roundWithAccuracy_large {sign : Sign} {mantissa : Nat} {exponent : Int}
    (hlarge : 52 ≤ mantissa.log2) (hlow : -1074 ≤ exponent + (mantissa.log2 - 52 : Nat)) :
    exists rounded exponent' hpos,
      roundWithAccuracy Format.binary64 sign mantissa exponent .exact =
        .finite sign rounded exponent' hpos ∧
      rounded.log2 = 52 ∧ exponent + (mantissa.log2 - 52 : Nat) ≤ exponent' ∧
      exponent' ≤ exponent + (mantissa.log2 - 52 : Nat) + 1 := by
  rcases shiftToTargetExponent_large hlarge hlow with ⟨extended, hfirst, hfull⟩
  generalize exponent + (mantissa.log2 - 52 : Nat) = target at hfirst hlow
  cases roundedMantissa_cases hfull with
  | inl hrounded =>
      refine ⟨extended.roundedMantissa, target, Nat.pos_of_ne_zero (ne_zero_of_log2 hrounded), ?_,
        hrounded, Int.le_refl _, by omega⟩
      simp only [roundWithAccuracy, hfirst, shiftToTargetExponent_full hrounded hlow]
      rw [dif_neg (ne_zero_of_log2 hrounded)]
  | inr hcarry =>
      -- The mantissa is rounded up to the next power of two.
      have htop : Nat.log2 (2 ^ 52) = 52 := Nat.log2_two_pow
      have hsecond := @shiftToTargetExponent_exact _ 1 target htop (by omega)
      refine ⟨2 ^ 52, target + 1, Nat.two_pow_pos 52, ?_, htop, by omega, by omega⟩
      simp only [roundWithAccuracy, hfirst, hcarry, hsecond]
      rfl

end Rounding

/-!
# Normal numbers
-/

namespace Decimal.Magnitude

structure IsNormal (magnitude : Magnitude) : Prop where
  full : magnitude.mantissa.log2 = 52
  low : -1074 ≤ magnitude.exponent
  high : magnitude.exponent ≤ 971

/-- A whole number, with a mantissa that is filled up with zeros. -/
def ofWhole (n : Nat) : Magnitude :=
  ⟨n * 2 ^ (52 - n.log2), -(52 - n.log2 : Nat)⟩

theorem mantissa_ofWhole (n : Nat) : (ofWhole n).mantissa = n * 2 ^ (52 - n.log2) :=
  rfl

theorem exponent_ofWhole (n : Nat) : (ofWhole n).exponent = -(52 - n.log2 : Nat) :=
  rfl

theorem isNormal_ofWhole {n : Nat} (hne : n ≠ 0) (hlt : n < 2 ^ 53) : (ofWhole n).IsNormal := by
  have hlog := (Nat.log2_lt hne).mpr hlt
  constructor
  · rw [mantissa_ofWhole, Rounding.log2_mul_two_pow hne]
    omega
  · rw [exponent_ofWhole]
    omega
  · rw [exponent_ofWhole]
    omega

theorem mantissa_ofWhole_pos {n : Nat} (hne : n ≠ 0) : 0 < (ofWhole n).mantissa :=
  Nat.mul_pos (Nat.pos_of_ne_zero hne) (Nat.two_pow_pos _)

end Decimal.Magnitude

open Decimal (Magnitude)
open Decimal.Magnitude (ofWhole isNormal_ofWhole)

theorem unpack_packComponents {sign : Sign} {exponent : BitVec 11} {fraction : BitVec 52}
    (hfinite : exponent ≠ -1#11) (hnormal : exponent ≠ 0#11) (hpos) :
    unpack Format.binary64 (packComponents Format.binary64 sign exponent fraction) =
      .finite sign (1#1 ++ fraction).toNat (exponent.toNat - 1075) hpos := by
  simp only [unpack, UnpackedFloat.unpackExponent_packComponents,
    UnpackedFloat.unpackMantissa_packComponents, UnpackedFloat.unpackSign_packComponents,
    Sign.ofBitVec_toBitVec]
  rw [if_neg hfinite, if_neg hnormal]
  rfl

theorem pack_of_isNormal {sign : Sign} {magnitude : Magnitude} {biased : Nat}
    (h : magnitude.IsNormal) (hbiased : magnitude.exponent + 1075 = biased) (hpos) :
    pack Format.binary64 (.finite sign magnitude.mantissa magnitude.exponent hpos) =
      packComponents Format.binary64 sign (.ofNat 11 biased) (.ofNat 52 magnitude.mantissa) := by
  have htotal : (magnitude.exponent + 1023 + 52).toNat = biased := by
    omega
  have hhigh := h.high
  change (if 2 ^ 11 ≤ (magnitude.exponent + 1023 + 52).toNat + 1 then _
    else if magnitude.mantissa.log2 + 1 = 53 then
      packComponents Format.binary64 sign (.ofNat 11 (magnitude.exponent + 1023 + 52).toNat)
        (.ofNat 52 magnitude.mantissa)
    else _) = _
  rw [htotal, if_neg (by omega), h.full, if_pos rfl]

theorem unpack_pack {sign : Sign} {magnitude : Magnitude} (h : magnitude.IsNormal) (hpos) :
    (Float.Model.pack (.finite sign magnitude.mantissa magnitude.exponent hpos)).unpack =
      .finite sign magnitude.mantissa magnitude.exponent hpos := by
  rcases h with ⟨hfull, hlow, hhigh⟩
  rcases (Nat.log2_eq_iff hpos.ne').mp hfull with ⟨hlower, hupper⟩
  rcases Int.eq_ofNat_of_zero_le (a := magnitude.exponent + 1075) (by omega) with
    ⟨biased, hbiased⟩
  have hexponent : ((BitVec.ofNat 11 biased).toNat : Int) = magnitude.exponent + 1075 := by
    rw [BitVec.toNat_ofNat, Nat.mod_eq_of_lt (by omega), hbiased]
  have hfinite : BitVec.ofNat 11 biased ≠ -1#11 := by
    intro heq
    rw [heq] at hexponent
    change (2047 : Int) = _ at hexponent
    omega
  have hnormal : BitVec.ofNat 11 biased ≠ 0#11 := by
    intro heq
    rw [heq] at hexponent
    change (0 : Int) = _ at hexponent
    omega
  have hmantissa : (1#1 ++ BitVec.ofNat 52 magnitude.mantissa).toNat = magnitude.mantissa := by
    rw [Decimal.Parts.toNat_one_append, BitVec.toNat_ofNat, Nat.pow_eq]
    omega
  change unpack Format.binary64 (pack Format.binary64 _) = _
  rw [pack_of_isNormal ⟨hfull, hlow, hhigh⟩ hbiased,
    unpack_packComponents hfinite hnormal (by omega)]
  congr 1
  omega

/-!
# Whole numbers
-/

theorem unpack_toFloat {n : Nat} (hne : n ≠ 0) (hlt : n < 2 ^ 53) (hpos) :
    n.toUInt64.toFloat.toModel.unpack =
      .finite .positive (ofWhole n).mantissa (ofWhole n).exponent hpos := by
  have hnormal := isNormal_ofWhole hne hlt
  have hlog := (Nat.log2_lt hne).mpr hlt
  have hn : n.toUInt64.toNat = n := by
    rw [Nat.toUInt64, UInt64.toNat_ofNat']
    omega
  have hcompare : compare (n : Int) 0 = .gt := by
    rw [Int.compare_eq_gt]
    omega
  have hshift : (0 - max ((n.log2 : Int) + 0 - 52) (-1074)).toNat = 52 - n.log2 := by
    omega
  have hexact := @Rounding.roundWithAccuracy_exact .positive (ofWhole n).mantissa 0
    (ofWhole n).exponent hnormal.full (by simpa using hnormal.low)
  have hround : UnpackedFloat.ofUInt64 Format.binary64 n.toUInt64 =
      .finite .positive (ofWhole n).mantissa (ofWhole n).exponent hpos := by
    simp only [UnpackedFloat.ofUInt64, UnpackedFloat.ofNat, UnpackedFloat.ofInt,
      UnpackedFloat.normalize, hn, hcompare, UnpackedFloat.round, Rounding.targetExponent_eq,
      UnpackedFloat.decreaseExponent, Int.toNat_natCast, hshift, Nat.shiftLeft_eq]
    simpa [Magnitude.mantissa_ofWhole, Magnitude.exponent_ofWhole] using hexact
  change (Float.Model.pack (UnpackedFloat.ofUInt64 Format.binary64 n.toUInt64)).unpack = _
  rw [hround, unpack_pack hnormal]

theorem unpack_ofNat_of_lt {n : Nat} (hne : n ≠ 0) (hlt : n < 2 ^ 53) (hpos) :
    (Float.ofNat n).toModel.unpack =
      .finite .positive (ofWhole n).mantissa (ofWhole n).exponent hpos := by
  have hnormal := isNormal_ofWhole hne hlt
  -- A short number is converted as a machine word and multiplied by one.
  have hfast : Float.ofNat n = n.toUInt64.toFloat * Float.ofBits 0x3FF0000000000000 := by
    change Float.ofScientific n false 0 = _
    rw [Float.ofScientific, dif_pos ⟨hlt, by decide⟩]
    rfl
  have hone : (Float.ofBits 0x3FF0000000000000).toModel.unpack =
      .finite .positive (2 ^ 52) (-52) (Nat.two_pow_pos 52) := rfl
  have hexponent : (ofWhole n).exponent + -52 + (52 : Nat) = (ofWhole n).exponent := by
    omega
  have hproduct := @Rounding.roundWithAccuracy_exact .positive (ofWhole n).mantissa 52
    ((ofWhole n).exponent + -52) hnormal.full (by rw [hexponent]; exact hnormal.low)
  rw [hfast]
  change (Float.Model.pack (UnpackedFloat.mul Format.binary64 n.toUInt64.toFloat.toModel.unpack
    (Float.ofBits 0x3FF0000000000000).toModel.unpack)).unpack = _
  rw [hone, unpack_toFloat hne hlt hpos]
  change (Float.Model.pack (UnpackedFloat.roundWithAccuracy _ .positive _ _ .exact)).unpack = _
  simp only [hproduct, hexponent]
  exact unpack_pack hnormal hpos

theorem unpack_ofNat_of_le {n : Nat} (hlow : 2 ^ 53 ≤ n) (hhigh : n ≤ 2 ^ 63) :
    exists (magnitude : Magnitude) (hpos : 0 < magnitude.mantissa),
      (Float.ofNat n).toModel.unpack =
        .finite .positive magnitude.mantissa magnitude.exponent hpos ∧
      magnitude.IsNormal ∧ 0 < magnitude.exponent := by
  have hne : n ≠ 0 := by
    omega
  have hlog := (Nat.le_log2 hne).mpr hlow
  have hlog' : n.log2 < 64 := (Nat.log2_lt hne).mpr (by omega)
  have hshifted : (n * 2 ^ 53).log2 = n.log2 + 53 := Rounding.log2_mul_two_pow hne 53
  have hslow : Float.ofNat n = .ofModel (Float.Model.ofScientific n 0) := by
    change Float.ofScientific n false 0 = _
    rw [Float.ofScientific, dif_neg (by omega)]
    rfl
  have hproduct : UnpackedFloat.ofScientific Format.binary64 n 0 =
      UnpackedFloat.roundWithAccuracy Format.binary64 .positive (n * 2 ^ 53) (-53) .exact := by
    have hmagnitude : ¬(0 : Int) < -(2 ^ 11 + (n.log2 : Int)) := by
      omega
    rw [UnpackedFloat.ofScientific, dif_neg hne, if_neg (by decide), if_neg hmagnitude,
      if_pos (Int.le_refl 0), UnpackedFloat.mul, Nat.shiftLeft_eq, Int.toNat_zero, Nat.pow_zero,
      Nat.mul_one, Int.add_zero]
    rfl
  rcases @Rounding.roundWithAccuracy_large .positive (n * 2 ^ 53) (-53) (by omega) (by omega) with
    ⟨mantissa, exponent, hpos, hround, hfull, hlower, hupper⟩
  have hexponent : 0 < exponent ∧ -1074 ≤ exponent ∧ exponent ≤ 971 := by
    omega
  have hnormal : Magnitude.IsNormal ⟨mantissa, exponent⟩ := ⟨hfull, hexponent.2.1, hexponent.2.2⟩
  refine ⟨⟨mantissa, exponent⟩, hpos, ?_, hnormal, hexponent.1⟩
  rw [hslow]
  change (Float.Model.pack (UnpackedFloat.ofScientific Format.binary64 n 0)).unpack = _
  rw [hproduct, hround]
  exact unpack_pack hnormal hpos

/-!
# Signs
-/

def signOf (value : Int) : Sign :=
  if value < 0 then .negative else .positive

theorem signOf_negSucc (n : Nat) : signOf (.negSucc n) = .negative :=
  if_pos (Int.negSucc_lt_zero n)

/-- An operation on a normal number that changes no more than its sign loses nothing. -/
theorem unpack_of_resigned {x y : Float} {sign sign' : Sign} {magnitude : Magnitude}
    {hpos : 0 < magnitude.mantissa} (op : UnpackedFloat -> UnpackedFloat)
    (hunpack : x.toModel.unpack = .finite sign magnitude.mantissa magnitude.exponent hpos)
    (h : magnitude.IsNormal)
    (hy : y.toModel.unpack = (Float.Model.pack (op x.toModel.unpack)).unpack)
    (hop : op (.finite sign magnitude.mantissa magnitude.exponent hpos) =
      .finite sign' magnitude.mantissa magnitude.exponent hpos) :
    y.toModel.unpack = .finite sign' magnitude.mantissa magnitude.exponent hpos := by
  rw [hy, hunpack, hop]
  exact unpack_pack h hpos

theorem unpack_ofInt_of_lt {value : Int} (hne : value ≠ 0) (hlt : value.natAbs < 2 ^ 53) (hpos) :
    (Float.ofInt value).toModel.unpack =
      .finite (signOf value) (ofWhole value.natAbs).mantissa (ofWhole value.natAbs).exponent
        hpos := by
  cases value with
  | ofNat n =>
      exact unpack_ofNat_of_lt (by omega) hlt hpos
  | negSucc n =>
      rw [signOf_negSucc]
      exact unpack_of_resigned UnpackedFloat.neg (unpack_ofNat_of_lt n.succ_ne_zero hlt hpos)
        (isNormal_ofWhole n.succ_ne_zero hlt) rfl rfl

theorem unpack_ofInt_of_le {value : Int} (hlow : 2 ^ 53 ≤ value.natAbs)
    (hhigh : value.natAbs ≤ 2 ^ 63) :
    exists (magnitude : Magnitude) (hpos : 0 < magnitude.mantissa),
      (Float.ofInt value).toModel.unpack =
        .finite (signOf value) magnitude.mantissa magnitude.exponent hpos ∧
      magnitude.IsNormal ∧ 0 < magnitude.exponent := by
  rcases unpack_ofNat_of_le hlow hhigh with ⟨magnitude, hpos, hunpack, hnormal, hexponent⟩
  refine ⟨magnitude, hpos, ?_, hnormal, hexponent⟩
  cases value with
  | ofNat n =>
      exact hunpack
  | negSucc n =>
      rw [signOf_negSucc]
      exact unpack_of_resigned UnpackedFloat.neg hunpack hnormal rfl rfl

end GraphLayout
