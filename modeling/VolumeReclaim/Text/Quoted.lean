import VolumeReclaim.Text.Hex
import VolumeReclaim.Text.Printable

/-!
Text between quotes, as messages show it: single quotes, or double quotes if the text holds a
single one and no double one, with a backslash before whatever could be misread.
-/
set_option autoImplicit false

namespace VolumeReclaim.Text

def quoteMark (cs : List Char) : Char :=
  if cs.contains '\'' && !cs.contains '"' then '"' else '\''

/-- One character between quotes. What cannot be printed is given by its code point, with two,
four or eight hexadecimal digits. -/
def quoteChar (mark c : Char) : List Char :=
  if c = mark ∨ c = '\\' then ['\\', c]
  else if c = '\t' then ['\\', 't']
  else if c = '\n' then ['\\', 'n']
  else if c = '\r' then ['\\', 'r']
  else if isPrintable c then [c]
  else if c.toNat ≤ 0xff then '\\' :: 'x' :: hex 2 c.toNat
  else if c.toNat ≤ 0xffff then '\\' :: 'u' :: hex 4 c.toNat
  else '\\' :: 'U' :: hex 8 c.toNat

def quote (text : String) : String :=
  let mark := quoteMark text.toList
  String.ofList (mark :: text.toList.flatMap (quoteChar mark) ++ [mark])

end VolumeReclaim.Text
