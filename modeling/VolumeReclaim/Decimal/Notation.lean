import VolumeReclaim.Decimal.Binary
import VolumeReclaim.Decimal.Shortest

/-!
The written form of a double: the shortest decimal that reads back, positional where its first
digit stands for `10 ^ (-4)` up to `10 ^ 15`, with an exponent of at least two digits elsewhere.
A whole number keeps one zero after the point.
-/
set_option autoImplicit false

namespace VolumeReclaim.Decimal

/-- Digits with a point after the first `whole` of them, filled up with zeros on both sides. -/
def positional (digits : List Char) (whole : Int) : List Char :=
  if whole ≤ 0 then
    '0' :: '.' :: List.replicate whole.natAbs '0' ++ digits
  else
    let front := digits.take whole.toNat
    let back := digits.drop whole.toNat
    front ++ List.replicate (whole.toNat - front.length) '0' ++
      '.' :: (if back.isEmpty then ['0'] else back)

def withExponent (digits : List Char) (exponent : Int) : List Char :=
  let written := Nat.toDigits 10 exponent.natAbs
  let mantissa := match digits with
    | first :: second :: rest => first :: '.' :: second :: rest
    | few => few
  mantissa ++ 'e' :: (if exponent < 0 then '-' else '+') ::
    List.replicate (2 - written.length) '0' ++ written

def Scaled.written (x : Scaled) : List Char :=
  let all := Nat.toDigits 10 x.digits
  let digits := (all.reverse.dropWhile (· = '0')).reverse
  let exponent := x.exponent + all.length - 1
  if -4 ≤ exponent ∧ exponent < 16 then positional digits (exponent + 1)
  else withExponent digits exponent

structure SpecialNames where
  nan : String
  infinity : String

def written (names : SpecialNames) (x : Float) : List Char :=
  let signed := fun (negative : Bool) (magnitude : List Char) =>
    if negative then '-' :: magnitude else magnitude
  match Binary.ofFloat x with
  | .nan => names.nan.toList
  | .infinite negative => signed negative names.infinity.toList
  | .finite negative m q =>
    signed negative (if m = 0 then ['0', '.', '0'] else (shortest m q).written)

def writtenInt : Int → List Char
  | .ofNat n => Nat.toDigits 10 n
  | .negSucc n => '-' :: Nat.toDigits 10 (n + 1)

end VolumeReclaim.Decimal
