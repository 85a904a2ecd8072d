/-!
Reading decimals: the parts of a written number, and the double nearest to what they denote.
-/
set_option autoImplicit false

namespace VolumeReclaim.Decimal

/-- The double nearest to `digits * 10 ^ exponent`, negated if `negative` is set; ties go to the
even neighbour, and what is too large becomes infinite. -/
def nearest (negative : Bool) (digits : Nat) (exponent : Int) : Float :=
  let magnitude := Float.ofScientific digits (exponent < 0) exponent.natAbs
  if negative then -magnitude else magnitude

def ofDigits (digits : List Char) : Nat :=
  Nat.ofDigitChars 10 digits 0

def spanDigits (text : List Char) : List Char × List Char :=
  (text.takeWhile Char.isDigit, text.dropWhile Char.isDigit)

def fraction? : List Char → Option (List Char × List Char)
  | '.' :: rest =>
    let (digits, rest) := spanDigits rest
    if digits.isEmpty then none else some (digits, rest)
  | _ => none

def exponent? : List Char → Option (Int × List Char)
  | letter :: rest =>
    if letter = 'e' ∨ letter = 'E' then
      let (negative, rest) := match rest with
        | '-' :: rest => (true, rest)
        | '+' :: rest => (false, rest)
        | rest => (false, rest)
      let (digits, rest) := spanDigits rest
      if digits.isEmpty then none
      else
        let size : Int := ofDigits digits
        some (if negative then -size else size, rest)
    else none
  | [] => none

end VolumeReclaim.Decimal
