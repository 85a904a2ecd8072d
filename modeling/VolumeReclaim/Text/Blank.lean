/-!
Blank characters, and text with the blanks at both ends taken off. Trimming keeps every character
between the first and the last one that is not blank.
-/
set_option autoImplicit false

namespace VolumeReclaim.Text

/-- White space in the sense of the Unicode standard, together with the four separators
U+001C to U+001F. Zero-width characters and the byte order mark are not blank. -/
def isBlank (c : Char) : Bool :=
  let n := c.toNat
  (0x09 ≤ n && n ≤ 0x0d) || (0x1c ≤ n && n ≤ 0x20) || n == 0x85 || n == 0xa0 || n == 0x1680 ||
    (0x2000 ≤ n && n ≤ 0x200a) || n == 0x2028 || n == 0x2029 || n == 0x202f || n == 0x205f ||
    n == 0x3000

def trimEnds (drop : Char → Bool) (cs : List Char) : List Char :=
  ((cs.dropWhile drop).reverse.dropWhile drop).reverse

def strip (text : String) : String :=
  String.ofList (trimEnds isBlank text.toList)

def occursIn (wanted : List Char) : List Char → Bool
  | [] => wanted.isEmpty
  | c :: rest => wanted.isPrefixOf (c :: rest) || occursIn wanted rest

end VolumeReclaim.Text
