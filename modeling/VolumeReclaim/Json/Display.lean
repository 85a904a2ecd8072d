import VolumeReclaim.Decimal.Notation
import VolumeReclaim.Json.Basic
import VolumeReclaim.Text.Quoted

/-!
Values as messages show them. A text stands for itself; inside an array or object it is quoted.
-/
set_option autoImplicit false

namespace VolumeReclaim.Json

def displayNames : Decimal.SpecialNames := ⟨"nan", "inf"⟩

mutual

def displayQuoted : Json → List Char
  | .null => "None".toList
  | .bool true => "True".toList
  | .bool false => "False".toList
  | .int value => Decimal.writtenInt value
  | .float value => Decimal.written displayNames value
  | .str value => (Text.quote value).toList
  | .arr [] => ['[', ']']
  | .arr (first :: rest) => '[' :: displayQuoted first ++ displayElements rest
  | .obj [] => ['\x7b', '\x7d']
  | .obj ((name, first) :: rest) =>
    '\x7b' :: (Text.quote name).toList ++ ':' :: ' ' :: displayQuoted first ++ displayMembers rest
termination_by structural value => value

def displayElements : List Json → List Char
  | [] => [']']
  | next :: rest => ',' :: ' ' :: displayQuoted next ++ displayElements rest
termination_by structural elements => elements

def displayMembers : List (String × Json) → List Char
  | [] => ['\x7d']
  | (name, next) :: rest =>
    ',' :: ' ' :: (Text.quote name).toList ++ ':' :: ' ' :: displayQuoted next ++
      displayMembers rest
termination_by structural members => members

end

def inQuotes (content : Json) : String :=
  String.ofList content.displayQuoted

def display : Json → String
  | .str value => value
  | other => other.inQuotes

end VolumeReclaim.Json
