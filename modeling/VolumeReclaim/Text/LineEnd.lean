/-!
Line ends. A line ends with a line feed, and some writers put a carriage return before it. Here such
a pair becomes the line feed alone. Any other carriage return is a character of its line and stays,
also one of several before a line feed that is not the last of them.
-/
set_option autoImplicit false

namespace VolumeReclaim.Text

/-- The characters with each carriage return left out that stands right before a line feed. -/
def dropReturns : List Char → List Char
  | [] => []
  | '\r' :: '\n' :: rest => '\n' :: dropReturns rest
  | c :: rest => c :: dropReturns rest

def unifyLineEnds (text : String) : String :=
  String.ofList (dropReturns text.toList)

end VolumeReclaim.Text
