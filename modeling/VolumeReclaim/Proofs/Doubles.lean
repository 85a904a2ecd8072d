import Mathlib
import VolumeReclaim.Proofs.DoubleRounding
import VolumeReclaim.Time

/-!
Doubles as points in time and spans. Which of two doubles is the greater one shows in the sign of
their difference, however close they are. A clock that starts at a number and moves by spans that
are not negative stays clear of minus infinity, and with it of what is not a number.
-/
set_option autoImplicit false

namespace VolumeReclaim.Double

open Float.Model.UnpackedFloat

open Float.Model (Format UnpackedFloat)

section Packing

theorem exponentBias_eq : Format.binary64.exponentBias = 1023 :=
  rfl

theorem le_toNat_append (mantissa : BitVec 52) : 2 ^ 52 ≤ (1#1 ++ mantissa).toNat := by
  rw [BitVec.toNat_append]
  exact Nat.left_le_or

/-- The doubles that a bit pattern stands for: those of fifty-three places that are not too great,
and shorter ones of the least exponent. -/
def Canonical : UnpackedFloat → Prop
  | .finite _ mantissa exponent _ =>
    mantissa < 2 ^ 53 ∧ -1074 ≤ exponent ∧ exponent ≤ 971 ∧
      (2 ^ 52 ≤ mantissa ∨ exponent = -1074)
  | _ => True

theorem canonical_unpack (bits : BitVec Format.binary64.numBits) :
    Canonical (unpack Format.binary64 bits) := by
  have bound := (unpackExponent bits).isLt
  unfold unpack
  rw [exponentBias_eq]
  dsimp only at bound ⊢
  split
  · split <;> trivial
  case isFalse special =>
    rw [← BitVec.toNat_inj] at special
    change (unpackExponent bits).toNat ≠ 2047 at special
    split
    case isTrue least =>
      split
      · trivial
      · have short := (unpackMantissa bits).isLt
        dsimp only at short
        refine ⟨by omega, ?_⟩
        rw [least, BitVec.toNat_zero]
        omega
    case isFalse normal =>
      rw [← BitVec.toNat_inj, BitVec.toNat_zero] at normal
      exact ⟨(1#1 ++ unpackMantissa bits).isLt, by omega, by omega, .inl (le_toNat_append _)⟩

theorem unpack_packComponents (sign : Sign) {exponent : BitVec 11} {mantissa : BitVec 52}
    (ordinary : exponent ≠ -1#11) (nonzero : exponent ≠ 0#11 ∨ mantissa ≠ 0#52) :
    ∃ digits power positive,
      unpack Format.binary64 (packComponents Format.binary64 sign exponent mantissa) =
        .finite sign digits power positive := by
  unfold unpack
  simp only [unpackExponent_packComponents, unpackMantissa_packComponents,
    unpackSign_packComponents, Sign.ofBitVec_toBitVec, if_neg ordinary]
  split
  case isTrue least =>
    have some := nonzero.resolve_left (not_not_intro least)
    rw [dif_neg some]
    exact ⟨mantissa.toNat, _, BitVec.toNat_pos_of_ne_zero some, rfl⟩
  case isFalse =>
    have long := le_toNat_append mantissa
    exact ⟨(1#1 ++ mantissa).toNat, _, (Nat.two_pow_pos 52).trans_le long, rfl⟩

variable {mantissa : Nat} {exponent : Int}

theorem unpack_pack_zero (sign : Sign) :
    unpack Format.binary64 (pack Format.binary64 (.zero sign)) = .zero sign := by
  cases sign <;> rfl

theorem unpack_pack_infinity (sign : Sign) :
    unpack Format.binary64 (pack Format.binary64 (.infinity sign)) = .infinity sign := by
  cases sign <;> rfl

theorem unpack_pack_notANumber :
    unpack Format.binary64 (pack Format.binary64 .notANumber) = .notANumber :=
  rfl

theorem unpack_pack_great (sign : Sign) (positive : 0 < mantissa) (great : 971 < exponent) :
    unpack Format.binary64 (pack Format.binary64 (.finite sign mantissa exponent positive)) =
      .infinity sign := by
  rw [← unpack_pack_infinity]
  congr 1
  unfold pack
  rw [if_pos]
  change 2 ^ 11 ≤ (exponent + (1023 : Nat) + (52 : Nat)).toNat + 1
  omega

theorem ofNat_ne_ofNat {width value other : Nat} (small : value < 2 ^ width)
    (small' : other < 2 ^ width) (differ : value ≠ other) :
    BitVec.ofNat width value ≠ BitVec.ofNat width other := by
  intro same
  have values := congrArg BitVec.toNat same
  rw [BitVec.toNat_ofNat, BitVec.toNat_ofNat, Nat.mod_eq_of_lt small, Nat.mod_eq_of_lt small']
    at values
  exact differ values

theorem unpack_pack_finite (sign : Sign) (positive : 0 < mantissa) (short : mantissa < 2 ^ 53)
    (least : -1074 ≤ exponent) (greatest : exponent ≤ 971) :
    ∃ digits power some,
      unpack Format.binary64 (pack Format.binary64 (.finite sign mantissa exponent positive)) =
        .finite sign digits power some := by
  unfold pack
  rw [exponentBias_eq]
  rw [if_neg (by change ¬ 2048 ≤ (exponent + (1023 : Nat) + (52 : Nat)).toNat + 1; omega)]
  split
  case isTrue long =>
    apply unpack_packComponents sign
    · change _ ≠ BitVec.ofNat 11 2047
      exact ofNat_ne_ofNat (by dsimp only; omega) (by decide) (by dsimp only; omega)
    · exact .inl (ofNat_ne_ofNat (by dsimp only; omega) (by decide) (by dsimp only; omega))
  case isFalse whole =>
    have log : mantissa.log2 < 53 := (Nat.log2_lt positive.ne').mpr short
    change ¬ mantissa.log2 + 1 = 53 at whole
    have shorter : mantissa < 2 ^ 52 := (Nat.log2_lt positive.ne').mp (by omega)
    apply unpack_packComponents sign
    · decide
    · exact .inr (ofNat_ne_ofNat shorter (by decide) positive.ne')

end Packing

section Signs

/-- The infinity and the numbers of a sign, without its zero. -/
inductive Nonzero (sign : Sign) : UnpackedFloat → Prop
  | infinity : Nonzero sign (.infinity sign)
  | finite {mantissa : Nat} {exponent : Int} (positive : 0 < mantissa) :
    Nonzero sign (.finite sign mantissa exponent positive)

/-- What rounding gives, before a number that is too great becomes infinity. -/
def Rounded : UnpackedFloat → Prop
  | .finite _ mantissa exponent _ => mantissa < 2 ^ 53 ∧ -1074 ≤ exponent
  | _ => True

theorem nonzero_unpack_pack {sign : Sign} {value : UnpackedFloat} (nonzero : Nonzero sign value)
    (rounded : Rounded value) :
    Nonzero sign (unpack Format.binary64 (pack Format.binary64 value)) := by
  cases nonzero with
  | infinity =>
    rw [unpack_pack_infinity]
    exact .infinity
  | @finite mantissa exponent positive =>
    obtain ⟨short, least⟩ := rounded
    by_cases great : 971 < exponent
    · rw [unpack_pack_great sign positive great]
      exact .infinity
    · obtain ⟨digits, power, some, same⟩ :=
        unpack_pack_finite sign positive short least (by omega)
      rw [same]
      exact .finite some

theorem compare_zero_iff {sign : Sign} {value : UnpackedFloat} :
    UnpackedFloat.compare (.zero sign) value = some .lt ↔ Nonzero .positive value := by
  constructor
  · intro less
    match value, less with
    | .infinity .positive, _ => exact .infinity
    | .finite .positive _ _ positive, _ => exact .finite positive
  · intro nonzero
    cases nonzero <;> rfl

end Signs

section Differences

variable {mantissa mantissa' : Nat} {exponent exponent' : Int}

/-- Of two canonical numbers the one with the lesser exponent is the lesser one, and with equal
exponents the mantissas decide. -/
theorem widened_lt (short : mantissa < 2 ^ 53) (least : -1074 ≤ exponent)
    (long : 2 ^ 52 ≤ mantissa' ∨ exponent' = -1074)
    (less : exponent < exponent' ∨ exponent = exponent' ∧ mantissa < mantissa') :
    mantissa <<< (exponent - min exponent exponent').toNat <
      mantissa' <<< (exponent' - min exponent exponent').toNat := by
  obtain less | ⟨rfl, less⟩ := less
  · have place : (exponent - min exponent exponent').toNat = 0 := by omega
    obtain ⟨places, more⟩ : ∃ places, (exponent' - min exponent exponent').toNat = places + 1 :=
      ⟨(exponent' - min exponent exponent').toNat - 1, by omega⟩
    have long := long.resolve_right (by omega)
    rw [place, more, Nat.shiftLeft_zero, Nat.shiftLeft_eq, Nat.pow_succ']
    calc mantissa
      _ < mantissa' * 2 := by omega
      _ ≤ mantissa' * (2 * 2 ^ places) :=
        Nat.mul_le_mul_left _ (Nat.le_mul_of_pos_right 2 (Nat.two_pow_pos places))
  · rw [min_self, Int.sub_self]
    exact less

theorem normalize_pos {mantissa : Int} (positive : 0 < mantissa) (least : -1074 ≤ exponent)
    (zero : Sign) :
    Nonzero .positive (normalize Format.binary64 mantissa exponent zero) ∧
      Rounded (normalize Format.binary64 mantissa exponent zero) := by
  have whole : 0 < mantissa.toNat := by omega
  obtain ⟨final, last, some, result, short, above, -⟩ := round_eq .positive whole least
  have greater : compare mantissa 0 = .gt := compare_gt_iff_gt.mpr positive
  unfold UnpackedFloat.normalize
  rw [greater]
  dsimp only
  rw [result]
  exact ⟨.finite some, short, above⟩

theorem sub_finite_pos (sign sign' : Sign) (positive : 0 < mantissa) (positive' : 0 < mantissa')
    (least : -1074 ≤ exponent) (least' : -1074 ≤ exponent')
    (greater : 0 <
      sign.apply (mantissa <<< (exponent - min exponent exponent').toNat : Nat) -
        sign'.apply (mantissa' <<< (exponent' - min exponent exponent').toNat : Nat)) :
    Nonzero .positive (sub Format.binary64 (.finite sign mantissa exponent positive)
        (.finite sign' mantissa' exponent' positive')) ∧
      Rounded (sub Format.binary64 (.finite sign mantissa exponent positive)
        (.finite sign' mantissa' exponent' positive')) :=
  normalize_pos greater (le_min least least') .positive

theorem compare_then_eq_lt :
    (compare exponent exponent').then (compare mantissa mantissa') = .lt ↔
      exponent < exponent' ∨ exponent = exponent' ∧ mantissa < mantissa' := by
  rw [Ordering.then_eq_lt, compare_lt_iff_lt, compare_lt_iff_lt, compare_eq_iff_eq]

theorem compare_then_eq_gt :
    (compare exponent' exponent).then (compare mantissa' mantissa) = .gt ↔
      exponent < exponent' ∨ exponent = exponent' ∧ mantissa < mantissa' := by
  rw [Ordering.then_eq_gt, compare_gt_iff_gt, compare_gt_iff_gt, compare_eq_iff_eq]
  exact or_congr_right (and_congr_left' eq_comm)

theorem nonzero_sub {later earlier : UnpackedFloat} (canonical : Canonical later)
    (canonical' : Canonical earlier) (greater : later.compare earlier = some .gt) :
    Nonzero .positive (sub Format.binary64 later earlier) ∧
      Rounded (sub Format.binary64 later earlier) := by
  match later, earlier, greater with
  | .infinity .positive, .infinity .negative, _ => exact ⟨.infinity, trivial⟩
  | .infinity .positive, .zero _, _ => exact ⟨.infinity, trivial⟩
  | .infinity .positive, .finite _ _ _ _, _ => exact ⟨.infinity, trivial⟩
  | .zero _, .infinity .negative, _ => exact ⟨.infinity, trivial⟩
  | .finite _ _ _ _, .infinity .negative, _ => exact ⟨.infinity, trivial⟩
  | .finite .positive _ _ _, .zero _, _ => exact ⟨.finite _, canonical.1, canonical.2.1⟩
  | .zero _, .finite .negative _ _ _, _ => exact ⟨.finite _, canonical'.1, canonical'.2.1⟩
  | .finite .positive mantissa exponent positive, .finite .negative mantissa' exponent' _, _ =>
    refine sub_finite_pos _ _ _ _ canonical.2.1 canonical'.2.1 ?_
    have widened : 0 < mantissa <<< (exponent - min exponent exponent').toNat := by
      rw [Nat.shiftLeft_eq]
      exact Nat.mul_pos positive (Nat.two_pow_pos _)
    simp only [Sign.apply, Int.sub_neg]
    exact Int.add_pos_of_pos_of_nonneg (Int.natCast_pos.mpr widened) (Int.natCast_nonneg _)
  | .finite .positive mantissa exponent _, .finite .positive mantissa' exponent' _, greater =>
    refine sub_finite_pos _ _ _ _ canonical.2.1 canonical'.2.1 ?_
    have less := widened_lt canonical'.1 canonical'.2.1 canonical.2.2.2
      (compare_then_eq_gt.mp (Option.some.inj greater))
    rw [min_comm] at less
    simp only [Sign.apply]
    omega
  | .finite .negative mantissa exponent _, .finite .negative mantissa' exponent' _, greater =>
    refine sub_finite_pos _ _ _ _ canonical.2.1 canonical'.2.1 ?_
    have less := widened_lt canonical.1 canonical.2.1 canonical'.2.2.2
      (compare_then_eq_lt.mp (Ordering.swap_eq_gt.mp (Option.some.inj greater)))
    simp only [Sign.apply]
    omega

end Differences

section Sums

variable {value span : UnpackedFloat}

def Definite : UnpackedFloat → Prop
  | .notANumber => False
  | .infinity .negative => False
  | _ => True

theorem definite_of_nonzero (nonzero : Nonzero .positive value) : Definite value := by
  cases nonzero <;> trivial

def Bounded : UnpackedFloat → Prop
  | .finite .negative mantissa exponent _ =>
    mantissa < 2 ^ 53 ∧ -1074 ≤ exponent ∧ exponent ≤ 971
  | .finite .positive mantissa exponent _ => mantissa < 2 ^ 53 ∧ -1074 ≤ exponent
  | value => Definite value

theorem definite_unpack_pack (bounded : Bounded value) :
    Definite (unpack Format.binary64 (pack Format.binary64 value)) := by
  match value, bounded with
  | .infinity .positive, _ =>
    rw [unpack_pack_infinity]
    trivial
  | .zero _, _ =>
    rw [unpack_pack_zero]
    trivial
  | .finite .positive _ _ positive, rounded =>
    exact definite_of_nonzero (nonzero_unpack_pack (.finite positive) rounded)
  | .finite .negative _ _ positive, ⟨short, least, greatest⟩ =>
    obtain ⟨digits, power, some, same⟩ :=
      unpack_pack_finite .negative positive short least greatest
    rw [same]
    trivial

theorem bounded_of_canonical (canonical : Canonical value) (definite : Definite value) :
    Bounded value := by
  match value, canonical, definite with
  | .infinity .positive, _, _ => trivial
  | .zero _, _, _ => trivial
  | .finite .positive _ _ _, ⟨short, least, _⟩, _ => exact ⟨short, least⟩
  | .finite .negative _ _ _, ⟨short, least, greatest, _⟩, _ => exact ⟨short, least, greatest⟩

theorem bounded_normalize {sum exponent greatest : Int} {bound : Nat} (least : -1074 ≤ exponent)
    (short : bound < 2 ^ 53) (below : exponent ≤ greatest) (fits : greatest ≤ 971)
    (within : -sum ≤ (bound * 2 ^ (greatest - exponent).toNat : Nat)) (zero : Sign) :
    Bounded (normalize Format.binary64 sum exponent zero) := by
  obtain less | rfl | positive := lt_trichotomy sum 0
  · have whole : 0 < (-sum).toNat := by omega
    obtain ⟨final, last, some, result, short', above, limited⟩ := round_eq .negative whole least
    have negative : compare sum 0 = .lt := compare_lt_iff_lt.mpr less
    unfold UnpackedFloat.normalize
    rw [negative]
    dsimp only
    rw [result]
    exact ⟨short', above, (limited bound greatest short below (by omega)).trans fits⟩
  · trivial
  · obtain ⟨nonzero, rounded⟩ := normalize_pos positive least zero
    generalize normalize Format.binary64 sum exponent zero = result at nonzero rounded
    cases nonzero with
    | infinity => trivial
    | finite => exact rounded

theorem add_finite {mantissa mantissa' : Nat} {exponent exponent' : Int} (sign sign' : Sign)
    (positive : 0 < mantissa) (positive' : 0 < mantissa') :
    add Format.binary64 (.finite sign mantissa exponent positive)
        (.finite sign' mantissa' exponent' positive') =
      normalize Format.binary64
        (sign.apply (mantissa <<< (exponent - min exponent exponent').toNat : Nat) +
          sign'.apply (mantissa' <<< (exponent' - min exponent exponent').toNat : Nat))
        (min exponent exponent') .positive :=
  rfl

theorem bounded_add (canonical : Canonical value) (canonical' : Canonical span)
    (definite : Definite value) (forward : (UnpackedFloat.zero .positive).le span = true) :
    Bounded (add Format.binary64 value span) := by
  match value, span, definite, forward with
  | .infinity .positive, .infinity .positive, _, _ => trivial
  | .infinity .positive, .zero _, _, _ => trivial
  | .infinity .positive, .finite _ _ _ _, _, _ => trivial
  | .zero sign, .zero sign', _, _ => cases sign <;> cases sign' <;> trivial
  | .zero _, .infinity .positive, _, _ => trivial
  | .zero _, .finite .positive _ _ _, _, _ => exact ⟨canonical'.1, canonical'.2.1⟩
  | .finite _ _ _ _, .infinity .positive, _, _ => trivial
  | .finite _ _ _ _, .zero _, definite, _ => exact bounded_of_canonical canonical definite
  | .finite sign mantissa exponent _, .finite .positive mantissa' exponent' _, _, _ =>
    rw [add_finite]
    refine bounded_normalize (le_min canonical.2.1 canonical'.2.1) canonical.1
      (min_le_left exponent exponent') canonical.2.2.1 ?_ _
    rw [← Nat.shiftLeft_eq]
    generalize mantissa <<< (exponent - min exponent exponent').toNat = wide
    generalize mantissa' <<< (exponent' - min exponent exponent').toNat = wide'
    cases sign <;> simp only [Sign.apply] <;> omega

end Sums

section Order

variable {value value' : UnpackedFloat}

theorem ne_of_definite (definite : Definite value) : value ≠ .notANumber := by
  rintro rfl
  exact definite

theorem compare_eq_gt (number : value ≠ .notANumber) (number' : value' ≠ .notANumber)
    (greater : value.le value' = false) : value.compare value' = some .gt := by
  obtain ⟨order, compared⟩ : ∃ order, value.compare value' = some order := by
    unfold UnpackedFloat.compare
    split <;> simp_all
  rw [UnpackedFloat.le, compared] at greater
  rw [compared]
  cases order with
  | gt => rfl
  | _ => cases greater

theorem add_notANumber (value : UnpackedFloat) :
    add Format.binary64 value .notANumber = .notANumber := by
  cases value <;> rfl

theorem notANumber_sub (value : UnpackedFloat) :
    sub Format.binary64 .notANumber value = .notANumber :=
  rfl

end Order

section Time

variable {time span : Float}

def parts (time : Float) : UnpackedFloat :=
  time.toModel.unpack

theorem parts_add (time span : Float) :
    parts (time + span) =
      unpack Format.binary64
        (pack Format.binary64 (add Format.binary64 (parts time) (parts span))) :=
  rfl

theorem parts_sub (later earlier : Float) :
    parts (later - earlier) =
      unpack Format.binary64
        (pack Format.binary64 (sub Format.binary64 (parts later) (parts earlier))) :=
  rfl

theorem parts_zero : parts 0.0 = .zero .positive := by
  rfl

theorem le_iff {time time' : Float} : time ≤ time' ↔ (parts time).le (parts time') = true :=
  decide_eq_true_iff

theorem lt_iff {time time' : Float} :
    time < time' ↔ (parts time).compare (parts time') = some .lt :=
  decide_eq_true_iff.trans beq_iff_eq

theorem canonical_parts (time : Float) : Canonical (parts time) :=
  canonical_unpack _

/-- A double that a clock may show: a number or infinity, but not minus infinity. -/
def Moment (time : Float) : Prop :=
  Definite (parts time)

theorem zero_lt_iff : 0.0 < span ↔ Nonzero .positive (parts span) := by
  rw [lt_iff, parts_zero, compare_zero_iff]

theorem zero_le_of_pos (positive : 0.0 < span) : 0.0 ≤ span := by
  rw [lt_iff] at positive
  rw [le_iff, UnpackedFloat.le, positive]
  rfl

theorem moment_add (moment : Moment time) (forward : 0.0 ≤ span) : Moment (time + span) := by
  rw [le_iff, parts_zero] at forward
  unfold Moment
  rw [parts_add]
  exact definite_unpack_pack
    (bounded_add (canonical_parts time) (canonical_parts span) moment forward)

theorem sub_pos_of_not_le {earlier later : Float} (moment : Moment later)
    (moment' : Moment earlier) (open_ : ¬ later ≤ earlier) : 0.0 < later - earlier := by
  have greater := compare_eq_gt (ne_of_definite moment) (ne_of_definite moment')
    (Bool.eq_false_iff.mpr (mt le_iff.mpr open_))
  obtain ⟨nonzero, rounded⟩ :=
    nonzero_sub (canonical_parts later) (canonical_parts earlier) greater
  rw [zero_lt_iff, parts_sub]
  exact nonzero_unpack_pack nonzero rounded

theorem moment_of_lt {time time' : Float} (less : time < time') : Moment time' := by
  rw [lt_iff] at less
  unfold Moment
  match parts time, parts time', less with
  | _, .infinity .positive, _ => trivial
  | _, .zero _, _ => trivial
  | _, .finite .positive _ _ _, _ => trivial
  | _, .finite .negative _ _ _, _ => trivial
  | .infinity .positive, .infinity .negative, less => cases less

theorem moment_of_isFinite (finite : time.isFinite) : Moment time := by
  change (parts time).isFinite = true at finite
  unfold Moment
  match parts time, finite with
  | .zero _, _ => trivial
  | .finite _ _ _ _, _ => trivial

theorem isNaN_iff_parts : time.isNaN = true ↔ parts time = .notANumber :=
  UnpackedFloat.isNaN_iff

theorem zero_le_of_not_lt (number : ¬ time.isNaN) (least : ¬ time < 0.0) : 0.0 ≤ time := by
  rw [isNaN_iff_parts] at number
  rw [lt_iff, parts_zero] at least
  rw [le_iff, parts_zero]
  match parts time, number, least with
  | .infinity .positive, _, _ => rfl
  | .zero _, _, _ => rfl
  | .finite .positive _ _ _, _, _ => rfl

theorem isNaN_add (time : Float) (strange : span.isNaN = true) : (time + span).isNaN = true := by
  rw [isNaN_iff_parts] at strange ⊢
  rw [parts_add, strange, add_notANumber, unpack_pack_notANumber]

theorem isNaN_sub (time : Float) (strange : span.isNaN = true) : (span - time).isNaN = true := by
  rw [isNaN_iff_parts] at strange ⊢
  rw [parts_sub, strange, notANumber_sub, unpack_pack_notANumber]

theorem not_le_of_isNaN (time : Float) (strange : span.isNaN = true) : ¬ span ≤ time := by
  rw [isNaN_iff_parts] at strange
  rw [le_iff, strange]
  cases parts time <;> nofun

theorem not_lt_of_isNaN (time : Float) (strange : span.isNaN = true) : ¬ time < span := by
  rw [isNaN_iff_parts] at strange
  rw [lt_iff, strange]
  cases parts time <;> nofun

end Time

end VolumeReclaim.Double
