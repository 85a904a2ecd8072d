/-!
What the bits of a double denote: a signed integer multiple of a power of two, an infinity, or no
number at all.
-/
set_option autoImplicit false

namespace VolumeReclaim.Decimal

inductive Binary where
  | nan
  | infinite (negative : Bool)
  /-- The number `mantissa * 2 ^ exponent`, negated if `negative` is set. -/
  | finite (negative : Bool) (mantissa : Nat) (exponent : Int)
deriving DecidableEq, Repr

def Binary.ofBits (bits : Nat) : Binary :=
  let negative : Bool := bits / Nat.pow 2 63 % 2 == 1
  let biased : Nat := bits / Nat.pow 2 52 % Nat.pow 2 11
  let fraction := bits % Nat.pow 2 52
  if biased = 2047 then
    if fraction = 0 then .infinite negative else .nan
  else if biased = 0 then .finite negative fraction (-1074)
  else .finite negative (fraction + Nat.pow 2 52) (biased - 1075)

def Binary.ofFloat (x : Float) : Binary :=
  .ofBits x.toBits.toNat

def Binary.denotes (n : Int) : Binary → Bool
  | .finite negative mantissa exponent =>
    let signed : Int := if negative then -mantissa else mantissa
    if 0 ≤ exponent then signed * Nat.pow 2 exponent.toNat = n
    else signed = n * Nat.pow 2 exponent.natAbs
  | _ => false

end VolumeReclaim.Decimal
