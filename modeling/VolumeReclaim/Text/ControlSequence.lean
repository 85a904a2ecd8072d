/-!
Control sequences, which tell a terminal about colours and the like, and text without them. A
sequence is an escape and an opening bracket, then parameters, then intermediate characters, and one
final character. Other uses of the escape are no control sequences.
-/
set_option autoImplicit false

namespace VolumeReclaim.Text

def isParameter (c : Char) : Bool :=
  '0' ≤ c && c ≤ '?'

def isIntermediate (c : Char) : Bool :=
  ' ' ≤ c && c ≤ '/'

def isFinal (c : Char) : Bool :=
  '@' ≤ c && c ≤ '~'

def sequenceLength : List Char → Nat
  | '\x1b' :: '[' :: rest =>
    let parameters := (rest.takeWhile isParameter).length
    let intermediates := ((rest.drop parameters).takeWhile isIntermediate).length
    match rest.drop (parameters + intermediates) with
    | final :: _ => if isFinal final then parameters + intermediates + 3 else 0
    | [] => 0
  | _ => 0

/-- The characters outside of control sequences, of which the first few are left out anyway. -/
def outsideSequences : (skipped : Nat) → List Char → List Char
  | _, [] => []
  | skipped + 1, _ :: rest => outsideSequences skipped rest
  | 0, c :: rest =>
    match sequenceLength (c :: rest) with
    | 0 => c :: outsideSequences 0 rest
    | more + 1 => outsideSequences more rest

def plain (text : String) : String :=
  String.ofList (outsideSequences 0 text.toList)

end VolumeReclaim.Text
