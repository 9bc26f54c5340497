/-
This file proves the few facts about doubles on which the treatment of NULL rests. A double is given
by its bits, and only one pattern of bits is no number, so the double that stands for NULL is the
only one of its kind. It has no place in the order of the others, and every operation on it gives it
back. Taking a double apart and putting it together again gives the same bits, so adding the
negative zero, which changes no number, leaves every double as it is. Sums, products and the order
of two doubles are told from their parts, in which both doubles play the same role, so swapping the
two changes neither a sum nor a product and reverses the order.
-/

import Columnar.Word

namespace Columnar

open Float.Model Float.Model.UnpackedFloat

namespace Double

/-! ### Taking doubles apart -/

/-- The sign, the exponent and the mantissa of a double make up all of its bits. -/
theorem packComponents_unpack (bits : BitVec Format.binary64.numBits) :
    packComponents .binary64 (Sign.ofBitVec (unpackSign bits)) (unpackExponent bits)
      (unpackMantissa bits) = bits := by
  have sign : ∀ bit : BitVec 1, (Sign.ofBitVec bit).toBitVec = bit := by decide
  unfold packComponents
  rw [sign]
  refine BitVec.eq_of_getLsbD_eq fun position inside => ?_
  replace inside : position < 64 := inside
  unfold unpackSign unpackExponent unpackMantissa
  simp only [BitVec.getLsbD_append, BitVec.getLsbD_cast, BitVec.getLsbD_extractLsb]
  by_cases inMantissa : position < 52
  · rw [if_pos inMantissa, decide_eq_true (by omega), Bool.true_and, Nat.zero_add]
  · rw [if_neg inMantissa]
    by_cases inExponent : position - 52 < 11
    · rw [if_pos inExponent, decide_eq_true (by omega), Bool.true_and,
        show 52 + (position - 52) = position by omega]
    · rw [if_neg inExponent, decide_eq_true (by omega), Bool.true_and,
        show 52 + 11 + (position - 52 - 11) = position by omega]

/-- A mantissa without its leading bit is stored with the least exponent. -/
theorem pack_subnormal {sign : Sign} {mantissa : BitVec 52} (positive : 0 < mantissa.toNat) :
    UnpackedFloat.pack .binary64 (.finite sign mantissa.toNat (-1074) positive) =
      packComponents .binary64 sign 0#_ mantissa := by
  have upper : mantissa.toNat < 0x10000000000000 := mantissa.isLt
  have short : mantissa.toNat.log2 < 52 := (Nat.log2_lt (Nat.ne_of_gt positive)).mpr upper
  have notNormal : ¬ mantissa.toNat.log2 + 1 = Format.binary64.mantissaBits :=
    fun normal => Nat.ne_of_lt (Nat.succ_lt_succ short) normal
  unfold UnpackedFloat.pack
  dsimp only
  rw [if_neg (by decide), if_neg notNormal, BitVec.ofNat_toNat, BitVec.setWidth_eq]

/-- A mantissa with its leading bit is stored without it, beside its exponent. -/
theorem pack_normal {sign : Sign} {exponent : BitVec 11} {mantissa : BitVec 52}
    (notFull : exponent ≠ -1#_) (positive : 0 < (1#1 ++ mantissa).toNat) :
    UnpackedFloat.pack .binary64
        (.finite sign (1#1 ++ mantissa).toNat ((exponent.toNat : Int) - 1075) positive) =
      packComponents .binary64 sign exponent mantissa := by
  have upper : mantissa.toNat < 0x10000000000000 := mantissa.isLt
  have withLeading : (1#1 ++ mantissa).toNat = 0x10000000000000 + mantissa.toNat := by
    rw [BitVec.toNat_append, ← Nat.shiftLeft_add_eq_or_of_lt mantissa.isLt]
    rfl
  have digits : (1#1 ++ mantissa).toNat.log2 = 52 := by
    rw [withLeading, Nat.log2_eq_iff (by omega)]
    exact ⟨Nat.le_add_right _ _, Nat.add_lt_add_left upper _⟩
  have biased : ((exponent.toNat : Int) - 1075 + (Format.binary64.exponentBias : Nat) +
      (Format.binary64.mantissaBitsWithoutImplicit : Nat)).toNat = exponent.toNat := by
    have bias : ((Format.binary64.exponentBias : Nat) : Int) = 1023 := by decide
    have width : ((Format.binary64.mantissaBitsWithoutImplicit : Nat) : Int) = 52 := rfl
    rw [bias, width]
    omega
  have exponentUpper : exponent.toNat < 2048 := exponent.isLt
  have notLast : exponent.toNat ≠ 2047 := fun last => notFull (BitVec.eq_of_toNat_eq last)
  have withoutLeading : BitVec.ofNat 52 (1#1 ++ mantissa).toNat = mantissa := by
    refine BitVec.eq_of_toNat_eq ?_
    rw [BitVec.toNat_ofNat, withLeading]
    omega
  unfold UnpackedFloat.pack
  dsimp only
  rw [biased, digits, if_neg (by omega), if_pos (by decide), BitVec.ofNat_toNat,
    BitVec.setWidth_eq, withoutLeading]

/-- Putting a double together from its parts gives its bits. -/
theorem pack_unpack_bits {bits : BitVec Format.binary64.numBits}
    (valid : Format.binary64.Valid bits) :
    UnpackedFloat.pack .binary64 (UnpackedFloat.unpack .binary64 bits) = bits := by
  have together := packComponents_unpack bits
  unfold UnpackedFloat.unpack
  dsimp only
  by_cases full : unpackExponent bits = -1#_
  · rw [if_pos full]
    rw [full] at together
    by_cases empty : unpackMantissa bits = 0#_
    · rw [if_pos empty]
      rw [empty] at together
      exact together
    · rw [if_neg empty]
      exact (valid.eq_packedNaN full empty).symm
  · rw [if_neg full]
    by_cases least : unpackExponent bits = 0#_
    · rw [if_pos least]
      by_cases empty : unpackMantissa bits = 0#_
      · rw [dif_pos empty]
        rw [least, empty] at together
        exact together
      · rw [dif_neg empty, least]
        rw [least] at together
        exact (pack_subnormal _).trans together
    · rw [if_neg least]
      exact (pack_normal full _).trans together

theorem ofModel_pack_unpack (word : Float) :
    Float.ofModel (Float.Model.pack word.toModel.unpack) = word := by
  have same : UInt64.ofBitVec (UnpackedFloat.pack .binary64
      (UnpackedFloat.unpack .binary64 word.toModel.toBits.toBitVec)) = word.toModel.toBits :=
    congrArg UInt64.ofBitVec (pack_unpack_bits word.toModel.valid)
  refine congrArg Float.ofModel ?_
  rw [Float.Model.mk.injEq]
  exact same

/-! ### The double that is no number -/

theorem eq_null_of_unpack {word : Float} (missing : word.toModel.unpack = .notANumber) :
    word = Null.double := by
  rw [← ofModel_pack_unpack word, missing]
  rfl

/-- Whatever is no number is the one double that stands for NULL. -/
theorem isNaN_iff {word : Float} : word.isNaN = true ↔ word = Null.double := by
  constructor
  · intro missing
    refine eq_null_of_unpack ?_
    replace missing : word.toModel.unpack.isNaN = true := missing
    cases known : word.toModel.unpack <;> rw [known] at missing <;> first | rfl | cases missing
  · rintro rfl
    rfl

/-! ### No order -/

theorem lt_iff {left right : Float} :
    left < right ↔ left.toModel.unpack.compare right.toModel.unpack = some .lt := by
  show decide (left.toModel < right.toModel) = true ↔ _
  rw [decide_eq_true_iff]
  show (left.toModel.unpack.compare right.toModel.unpack == some .lt) = true ↔ _
  rw [beq_iff_eq]

theorem beq_iff {left right : Float} :
    Float.beq left right = true ↔
      left.toModel.unpack.compare right.toModel.unpack = some .eq := by
  show (left.toModel.unpack.compare right.toModel.unpack == some .eq) = true ↔ _
  rw [beq_iff_eq]

theorem compareDoubles_eq_none {left right : Float}
    (forward : left.toModel.unpack.compare right.toModel.unpack = none)
    (backward : right.toModel.unpack.compare left.toModel.unpack = none) :
    Word.compareDoubles left right = none := by
  have notLess : ¬ left < right := by
    rw [lt_iff, forward]
    exact nofun
  have notEqual : ¬ Float.beq left right = true := by
    rw [beq_iff, forward]
    exact nofun
  have notGreater : ¬ right < left := by
    rw [lt_iff, backward]
    exact nofun
  rw [Word.compareDoubles, if_neg notLess, if_neg notEqual, if_neg notGreater]

theorem compare_notANumber (left : UnpackedFloat) : left.compare .notANumber = none := by
  cases left <;> rfl

/-- NULL has no place in the order of doubles. -/
theorem compareDoubles_null_left (right : Float) :
    Word.compareDoubles Null.double right = none :=
  compareDoubles_eq_none rfl (compare_notANumber _)

theorem compareDoubles_null_right (left : Float) :
    Word.compareDoubles left Null.double = none :=
  compareDoubles_eq_none (compare_notANumber _) rfl

/-! ### NULL in arithmetic -/

/-- The negative of NULL is NULL. -/
theorem neg_null : -Null.double = Null.double := rfl

/-- No operation has a value on NULL. -/
theorem onDoubles_null_left (op : ArithmeticOp) (right : Float) :
    op.onDoubles Null.double right = Null.double := by
  cases op <;> rfl

theorem onDoubles_null_right (op : ArithmeticOp) (left : Float) :
    op.onDoubles left Null.double = Null.double := by
  have sum : UnpackedFloat.add .binary64 left.toModel.unpack .notANumber = .notANumber := by
    cases left.toModel.unpack <;> rfl
  have difference :
      UnpackedFloat.sub .binary64 left.toModel.unpack .notANumber = .notANumber := by
    cases left.toModel.unpack <;> rfl
  have product : UnpackedFloat.mul .binary64 left.toModel.unpack .notANumber = .notANumber := by
    cases left.toModel.unpack <;> rfl
  have quotient : UnpackedFloat.div .binary64 left.toModel.unpack .notANumber = .notANumber := by
    cases left.toModel.unpack <;> rfl
  cases op with
  | add => exact congrArg (fun result => Float.ofModel (Float.Model.pack result)) sum
  | subtract => exact congrArg (fun result => Float.ofModel (Float.Model.pack result)) difference
  | multiply => exact congrArg (fun result => Float.ofModel (Float.Model.pack result)) product
  | divide => exact congrArg (fun result => Float.ofModel (Float.Model.pack result)) quotient

/-! ### Swapped operands -/

/-- Swapped parts have the reversed order. -/
theorem compare_swap (left right : UnpackedFloat) :
    right.compare left = (left.compare right).map Ordering.swap := by
  cases left with
  | notANumber => exact compare_notANumber right
  | infinity sign =>
    cases right with
    | infinity other => cases sign <;> cases other <;> rfl
    | notANumber | zero | finite => cases sign <;> rfl
  | zero sign =>
    cases right with
    | infinity other | finite other => cases other <;> rfl
    | notANumber | zero => rfl
  | finite sign mantissa exponent =>
    cases right with
    | infinity other => cases sign <;> cases other <;> rfl
    | notANumber | zero => cases sign <;> rfl
    | finite other otherMantissa otherExponent =>
      have magnitudes : (compare otherExponent exponent).then (compare otherMantissa mantissa) =
          ((compare exponent otherExponent).then (compare mantissa otherMantissa)).swap := by
        rw [Ordering.swap_then, ← Std.OrientedCmp.eq_swap, ← Std.OrientedCmp.eq_swap]
      -- Of two negative doubles the larger magnitude is the smaller double.
      cases sign <;> cases other <;>
        first | rfl | exact congrArg some magnitudes | exact congrArg (some ·.swap) magnitudes

/-- Two doubles have the order that their parts have. -/
theorem compareDoubles_eq (left right : Float) :
    Word.compareDoubles left right = left.toModel.unpack.compare right.toModel.unpack := by
  have backward := compare_swap left.toModel.unpack right.toModel.unpack
  unfold Word.compareDoubles
  simp only [lt_iff, beq_iff, backward]
  cases left.toModel.unpack.compare right.toModel.unpack with
  | none => rfl
  | some order => cases order <;> rfl

/-- Swapped doubles have the reversed order. -/
theorem compareDoubles_swap (left right : Float) :
    Word.compareDoubles right left = (Word.compareDoubles left right).map Ordering.swap := by
  rw [compareDoubles_eq, compareDoubles_eq, compare_swap]

theorem unpacked_add_swap (left right : UnpackedFloat) :
    UnpackedFloat.add .binary64 right left = UnpackedFloat.add .binary64 left right := by
  cases left with
  | notANumber => cases right <;> rfl
  | infinity sign | zero sign =>
    cases right with
    | infinity other | zero other => cases sign <;> cases other <;> rfl
    | notANumber | finite => rfl
  | finite =>
    cases right with
    | notANumber | infinity | zero => rfl
    | finite =>
      unfold UnpackedFloat.add
      dsimp only
      rw [Int.min_comm, Int.add_comm]

theorem unpacked_mul_swap (left right : UnpackedFloat) :
    UnpackedFloat.mul .binary64 right left = UnpackedFloat.mul .binary64 left right := by
  cases left with
  | notANumber => cases right <;> rfl
  | infinity sign | zero sign =>
    cases right with
    | notANumber => rfl
    | infinity other | zero other | finite other => cases sign <;> cases other <;> rfl
  | finite sign =>
    cases right with
    | notANumber => rfl
    | infinity other | zero other => cases sign <;> cases other <;> rfl
    | finite other =>
      have signs : other * sign = sign * other := by cases sign <;> cases other <;> rfl
      unfold UnpackedFloat.mul
      dsimp only
      rw [signs, Nat.mul_comm, Int.add_comm]

/-- A sum of doubles is the sum of the swapped ones. -/
theorem add_swap (left right : Float) : right + left = left + right :=
  congrArg (fun sum => Float.ofModel (Float.Model.pack sum)) (unpacked_add_swap _ _)

/-- A product of doubles is the product of the swapped ones. -/
theorem mul_swap (left right : Float) : right * left = left * right :=
  congrArg (fun product => Float.ofModel (Float.Model.pack product)) (unpacked_mul_swap _ _)

/-! ### The negative zero -/

/-- The negative zero. -/
def negativeZero : Float :=
  Float.ofBits 0x8000000000000000

/-- Adding the negative zero changes no double. -/
theorem add_negativeZero (word : Float) : word + negativeZero = word := by
  have same : UnpackedFloat.add .binary64 word.toModel.unpack (.zero .negative) =
      word.toModel.unpack := by
    cases word.toModel.unpack with
    | zero sign => cases sign <;> rfl
    | infinity | notANumber | finite => rfl
  have packed : Float.Model.pack (UnpackedFloat.add .binary64 word.toModel.unpack
      (.zero .negative)) = Float.Model.pack word.toModel.unpack := congrArg _ same
  exact (congrArg Float.ofModel packed).trans (ofModel_pack_unpack word)

end Double

end Columnar
