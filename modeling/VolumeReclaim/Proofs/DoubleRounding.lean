import Mathlib.Algebra.Order.Ring.Nat
import Mathlib.Data.Nat.Log

/-!
The rounding of doubles. A mantissa that is not zero is never rounded to zero, and what lies between
zero and a double is rounded to no greater exponent than that of the double.
-/
set_option autoImplicit false

namespace VolumeReclaim.Double

open Float.Model Float.Model.UnpackedFloat

/-- The exponent that a mantissa with an exponent is rounded to, but for a carry. -/
def target (mantissa : Nat) (exponent : Int) : Int :=
  max (mantissa.log2 + 1 + exponent - 53) (-1074)

theorem targetExponent_eq (mantissa : Nat) (exponent : Int) :
    Format.binary64.targetExponent (totalExponent mantissa exponent) = target mantissa exponent :=
  rfl

section Shifting

variable {extended : ExtendedMantissa}

theorem shiftRight_zero (extended : ExtendedMantissa) : extended >>> 0 = extended :=
  rfl

theorem shiftRight_succ (extended : ExtendedMantissa) (places : Nat) :
    extended >>> (places + 1) = (extended >>> places).shiftRightOne :=
  rfl

theorem mantissa_shiftRight (extended : ExtendedMantissa) (places : Nat) :
    (extended >>> places).mantissa = extended.mantissa / 2 ^ places := by
  induction places with
  | zero => rw [shiftRight_zero, Nat.pow_zero, Nat.div_one]
  | succ places ih =>
    rw [shiftRight_succ, ExtendedMantissa.shiftRightOne, ih, Nat.div_div_eq_div_mul, Nat.pow_succ]

/-- Whether a mantissa with whatever was shifted out of it is at most a whole number. -/
def AtMost (extended : ExtendedMantissa) (bound : Nat) : Prop :=
  extended.mantissa < bound ∨
    extended.mantissa = bound ∧ extended.roundBit = false ∧ extended.stickyBit = false

theorem atMost_shiftRightOne {bound : Nat} (below : AtMost extended (bound * 2)) :
    AtMost extended.shiftRightOne bound := by
  obtain less | ⟨same, round, sticky⟩ := below
  · left
    exact Nat.div_lt_of_lt_mul (by omega)
  · right
    simp [ExtendedMantissa.shiftRightOne, same, round, sticky]

theorem atMost_shiftRight {bound : Nat} {places : Nat}
    (below : AtMost extended (bound * 2 ^ places)) : AtMost (extended >>> places) bound := by
  induction places generalizing bound with
  | zero => simpa [shiftRight_zero] using below
  | succ places ih =>
    rw [shiftRight_succ]
    apply atMost_shiftRightOne
    apply ih
    rwa [Nat.mul_assoc, ← Nat.pow_succ']

theorem mantissa_le_rounded (extended : ExtendedMantissa) :
    extended.mantissa ≤ extended.roundedMantissa := by
  obtain ⟨mantissa, round, sticky⟩ := extended
  cases round <;> cases sticky <;>
    simp [ExtendedMantissa.roundedMantissa, ExtendedMantissa.accuracy, Accuracy.roundToNearestEven]

theorem rounded_le {bound : Nat} (below : AtMost extended bound) :
    extended.roundedMantissa ≤ bound := by
  obtain ⟨mantissa, round, sticky⟩ := extended
  obtain less | ⟨same, rfl, rfl⟩ := below
  · dsimp only at less
    cases round <;> cases sticky <;>
      simp only [ExtendedMantissa.roundedMantissa, ExtendedMantissa.accuracy,
        Accuracy.roundToNearestEven] <;> omega
  · exact same.le

end Shifting

def rounded (mantissa places : Nat) : Nat :=
  (ExtendedMantissa.ofMantissaAndAccuracy mantissa .exact >>> places).roundedMantissa

theorem rounded_le_of_le {mantissa places bound : Nat} (below : mantissa ≤ bound * 2 ^ places) :
    rounded mantissa places ≤ bound := by
  apply rounded_le
  apply atMost_shiftRight
  obtain less | same := Nat.lt_or_eq_of_le below
  · exact .inl less
  · exact .inr ⟨same, rfl, rfl⟩

theorem rounded_pos {mantissa places : Nat} (enough : 2 ^ places ≤ mantissa) :
    0 < rounded mantissa places := by
  refine lt_of_lt_of_le ?_ (mantissa_le_rounded _)
  rw [mantissa_shiftRight]
  exact Nat.div_pos enough (Nat.two_pow_pos places)

section Rounding

variable {sign : Sign} {mantissa : Nat} {exponent : Int}

/-- The shift to the target exponent leaves a mantissa of at most fifty-three places, and not
nothing. -/
theorem shift_bounds (positive : 0 < mantissa) (least : -1074 ≤ exponent)
    (low : exponent ≤ target mantissa exponent) :
    2 ^ (target mantissa exponent - exponent).toNat ≤ mantissa ∧
      mantissa ≤ 2 ^ 53 * 2 ^ (target mantissa exponent - exponent).toNat := by
  have lower := Nat.log2_self_le positive.ne'
  have upper : mantissa < 2 ^ (mantissa.log2 + 1) := Nat.lt_log2_self
  unfold target at low ⊢
  constructor
  · exact (Nat.pow_le_pow_right Nat.two_pos (by omega)).trans lower
  · rw [← Nat.pow_add]
    exact upper.le.trans (Nat.pow_le_pow_right Nat.two_pos (by omega))

theorem second_shift {start : Int} (some : 0 < mantissa) (short : mantissa ≤ 2 ^ 53)
    (above : -1074 ≤ start) :
    (mantissa < 2 ^ 53 ∧ (target mantissa start - start).toNat = 0) ∨
      mantissa = 2 ^ 53 ∧ (target mantissa start - start).toNat = 1 := by
  obtain fits | carry := Nat.lt_or_eq_of_le short
  · have log : mantissa.log2 < 53 := (Nat.log2_lt some.ne').mpr fits
    exact .inl ⟨fits, by unfold target; omega⟩
  · have log : mantissa.log2 = 53 := by rw [carry, Nat.log2_two_pow]
    exact .inr ⟨carry, by unfold target; omega⟩

/-- A mantissa with a sign and an exponent, zero if there is nothing in it. -/
def signed (sign : Sign) (mantissa : Nat) (exponent : Int) : UnpackedFloat :=
  if none : mantissa = 0 then .zero sign
  else .finite sign mantissa exponent (Nat.pos_of_ne_zero none)

theorem signed_of_pos (sign : Sign) (positive : 0 < mantissa) (exponent : Int) :
    signed sign mantissa exponent = .finite sign mantissa exponent positive :=
  dif_neg positive.ne'

theorem shiftToTargetExponent_eq (mantissa : Nat) (exponent : Int) (accuracy : Accuracy) :
    shiftToTargetExponent Format.binary64 mantissa exponent accuracy =
      (ExtendedMantissa.ofMantissaAndAccuracy mantissa accuracy >>>
          (target mantissa exponent - exponent).toNat,
        exponent + (target mantissa exponent - exponent).toNat) :=
  rfl

theorem roundWithAccuracy_twice (sign : Sign) (mantissa : Nat) (exponent : Int) :
    roundWithAccuracy Format.binary64 sign mantissa exponent .exact =
      let first := shiftToTargetExponent Format.binary64 mantissa exponent .exact
      let second := shiftToTargetExponent Format.binary64 first.1.roundedMantissa first.2 .exact
      signed sign second.1.mantissa second.2 :=
  rfl

theorem roundWithAccuracy_signed (sign : Sign) (low : exponent ≤ target mantissa exponent) :
    roundWithAccuracy Format.binary64 sign mantissa exponent .exact =
      let first := rounded mantissa (target mantissa exponent - exponent).toNat
      let places := (target first (target mantissa exponent) - target mantissa exponent).toNat
      signed sign (first / 2 ^ places) (target mantissa exponent + places) := by
  have reached : exponent + (target mantissa exponent - exponent).toNat =
      target mantissa exponent := by omega
  rw [roundWithAccuracy_twice, shiftToTargetExponent_eq mantissa exponent]
  dsimp only
  rw [reached, shiftToTargetExponent_eq]
  dsimp only
  rw [mantissa_shiftRight]
  rfl

theorem roundWithAccuracy_eq (sign : Sign) (positive : 0 < mantissa) (least : -1074 ≤ exponent)
    (low : exponent ≤ target mantissa exponent) :
    ∃ final last nonzero,
      roundWithAccuracy Format.binary64 sign mantissa exponent .exact =
        .finite sign final last nonzero ∧
      final < 2 ^ 53 ∧
      (last = target mantissa exponent ∨ last = target mantissa exponent + 1 ∧
        rounded mantissa (target mantissa exponent - exponent).toNat = 2 ^ 53) := by
  obtain ⟨enough, short⟩ := shift_bounds positive least low
  have above : -1074 ≤ target mantissa exponent := le_max_right _ _
  have small := rounded_le_of_le short
  have some := rounded_pos enough
  rw [roundWithAccuracy_signed sign low]
  dsimp only
  generalize rounded mantissa _ = first at small some ⊢
  obtain ⟨fits, none⟩ | ⟨carry, one⟩ := second_shift some small above
  · rw [none, Nat.pow_zero, Nat.div_one]
    exact ⟨first, _, some, signed_of_pos sign some _, fits, .inl (Int.add_zero _)⟩
  · rw [one, carry]
    exact ⟨2 ^ 52, _, Nat.two_pow_pos 52, signed_of_pos sign _ _, by decide, .inr ⟨rfl, rfl⟩⟩

theorem log2_shiftLeft (positive : 0 < mantissa) (places : Nat) :
    (mantissa <<< places).log2 = mantissa.log2 + places := by
  induction places with
  | zero => rfl
  | succ places ih =>
    have some : mantissa <<< places ≠ 0 := by
      rw [Nat.shiftLeft_eq]
      exact (Nat.mul_pos positive (Nat.two_pow_pos places)).ne'
    rw [Nat.shiftLeft_succ, Nat.log2_two_mul some, ih, Nat.add_assoc]

theorem target_le {bound : Nat} {greatest : Int} (positive : 0 < mantissa)
    (least : -1074 ≤ exponent) (short : bound < 2 ^ 53) (below : exponent ≤ greatest)
    (within : mantissa ≤ bound * 2 ^ (greatest - exponent).toNat) :
    target mantissa exponent ≤ greatest := by
  have less : mantissa < 2 ^ (53 + (greatest - exponent).toNat) := by
    rw [Nat.pow_add]
    exact within.trans_lt (Nat.mul_lt_mul_of_pos_right short (Nat.two_pow_pos _))
  have log := (Nat.log2_lt positive.ne').mpr less
  unfold target
  omega

/-- Rounding gives a mantissa of at most fifty-three places and no exponent below the least one. A
value that does not exceed a double is not rounded to a greater exponent than that of the double. -/
theorem round_eq (sign : Sign) (positive : 0 < mantissa) (least : -1074 ≤ exponent) :
    ∃ final last nonzero,
      round Format.binary64 sign mantissa exponent = .finite sign final last nonzero ∧
      final < 2 ^ 53 ∧ -1074 ≤ last ∧
      ∀ bound greatest, bound < 2 ^ 53 → exponent ≤ greatest →
          mantissa ≤ bound * 2 ^ (greatest - exponent).toNat → last ≤ greatest := by
  have above : -1074 ≤ target mantissa exponent := le_max_right _ _
  unfold UnpackedFloat.round decreaseExponent
  dsimp only
  rw [targetExponent_eq]
  generalize widening : (exponent - target mantissa exponent).toNat = places
  have same : target (mantissa <<< places) (exponent - places) = target mantissa exponent := by
    unfold target
    rw [log2_shiftLeft positive]
    push_cast
    omega
  have some : 0 < mantissa <<< places := by
    rw [Nat.shiftLeft_eq]
    exact Nat.mul_pos positive (Nat.two_pow_pos places)
  have least' : -1074 ≤ exponent - places := by omega
  have low : exponent - places ≤ target (mantissa <<< places) (exponent - places) := by omega
  obtain ⟨final, last, nonzero, result, fits, reached⟩ :=
    roundWithAccuracy_eq sign some least' low
  rw [same] at reached
  refine ⟨final, last, nonzero, result, fits, by omega, ?_⟩
  intro bound greatest short below within
  have early := target_le positive least short below within
  obtain last | ⟨last, carried⟩ := reached
  · omega
  · by_cases top : target mantissa exponent = greatest
    · have none : places = 0 := by omega
      subst none
      rw [Nat.shiftLeft_zero, Int.natCast_zero, Int.sub_zero, top] at carried
      have small := rounded_le_of_le within
      omega
    · omega

end Rounding

end VolumeReclaim.Double
