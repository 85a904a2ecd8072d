import VolumeReclaim.Decimal.Notation
import VolumeReclaim.Decimal.Reader
import VolumeReclaim.Text.Blank
import VolumeReclaim.Text.Digit

/-!
Numbers on the command line: decimals with an optional fraction and exponent, infinities, and the
name for no number, with blanks around and single underscores between digits. Digits of all scripts
count.
-/
set_option autoImplicit false

namespace VolumeReclaim.CommandLine

/-- The blanks that may surround a number. Of those in ASCII the separators U+001C to U+001F are
excluded. -/
def isNumberBlank (c : Char) : Bool :=
  Text.isBlank c && !(0x1c ≤ c.toNat && c.toNat ≤ 0x1f)

def plainDigit (c : Char) : Char :=
  match Text.digitValue? c with
  | some value => Nat.digitChar value
  | none => c

/-- A text without its underscores, each of which has to stand between two digits. -/
def withoutUnderscores : (before : Char) → List Char → Option (List Char)
  | before, [] => if before = '_' then none else some []
  | before, c :: rest =>
    if c = '_' then if before.isDigit then withoutUnderscores c rest else none
    else if before = '_' ∧ !c.isDigit then none
    else (withoutUnderscores c rest).map (c :: ·)

def decimal? (negative : Bool) (text : List Char) : Option Float :=
  let (whole, rest) := Decimal.spanDigits text
  let (fraction, rest) := match rest with
    | '.' :: rest => Decimal.spanDigits rest
    | rest => ([], rest)
  if whole.isEmpty ∧ fraction.isEmpty then none
  else
    let (exponent, rest) := (Decimal.exponent? rest).getD (0, rest)
    if rest.isEmpty then
      some (Decimal.nearest negative (Decimal.ofDigits (whole ++ fraction))
        (exponent - fraction.length))
    else none

def magnitude? (negative : Bool) (text : List Char) : Option Float :=
  let word := String.ofList (text.map Char.toLower)
  if word = "inf" ∨ word = "infinity" then some (if negative then -1.0 / 0.0 else 1.0 / 0.0)
  else if word = "nan" then some (0.0 / 0.0)
  else decimal? negative text

def number? (text : String) : Option Float := do
  let plain := (Text.trimEnds isNumberBlank text.toList).map plainDigit
  match ← withoutUnderscores ' ' plain with
  | '-' :: rest => magnitude? true rest
  | '+' :: rest => magnitude? false rest
  | rest => magnitude? false rest

end VolumeReclaim.CommandLine
