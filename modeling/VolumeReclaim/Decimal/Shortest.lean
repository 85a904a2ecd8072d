/-!
The shortest decimal that reads back as a given double. A positive double `m * 2 ^ q` owns an
interval of reals that round to it, whose ends belong to it exactly if `m` is even. Among the
decimals with one digit, then two, and so on up to seventeen, the first grid that meets the
interval wins; of its two points next to the double the nearer one is taken, and of two equally
near ones the even one.
-/
set_option autoImplicit false

namespace VolumeReclaim.Decimal

structure Scaled where
  digits : Nat
  exponent : Int
deriving DecidableEq, Repr

def leadingExponent (num den : Nat) : Int :=
  if den ≤ num then (Nat.toDigits 10 (num / den)).length - 1
  else -(Nat.toDigits 10 ((den - 1) / num)).length

/-- The point of the grid of multiples of `10 ^ place` that stands for `m * 2 ^ q`, if one of the
two next to it lies in the interval of `m * 2 ^ q`. All lengths are quarters of the double's last
place, brought to integers by the factors `unit` and `step`. -/
def onGrid? (m : Nat) (q place : Int) : Option Scaled :=
  let unit := Nat.pow 2 (q - 2).toNat * Nat.pow 10 (-place).toNat
  let step := Nat.pow 2 (2 - q).toNat * Nat.pow 10 place.toNat
  let value := 4 * m * unit
  let low := (4 * m - if m = Nat.pow 2 52 ∧ -1074 < q then 1 else 2) * unit
  let high := (4 * m + 2) * unit
  let inside := fun point : Nat =>
    if m % 2 = 0 then low ≤ point * step ∧ point * step ≤ high
    else low < point * step ∧ point * step < high
  let below := value / step
  let above := below + 1
  let toBelow := value - below * step
  let toAbove := above * step - value
  let belowFits := decide (inside below) && below ≠ 0
  let aboveFits := decide (inside above)
  if belowFits && (!aboveFits || toBelow < toAbove || (toBelow = toAbove && below % 2 = 0)) then
    some ⟨below, place⟩
  else if aboveFits then some ⟨above, place⟩
  else none

def shortest (m : Nat) (q : Int) : Scaled :=
  let first := leadingExponent (m * Nat.pow 2 q.toNat) (Nat.pow 2 (-q).toNat)
  ((List.range 17).findSome? fun (more : Nat) => onGrid? m q (first - more)).getD ⟨m, q⟩

end VolumeReclaim.Decimal
