import VolumeReclaim.Decimal.Notation
import VolumeReclaim.Json.Basic
import VolumeReclaim.Text.Hex

/-!
Writing JSON text in printable ASCII: one blank after each comma and colon, members in their order,
and every other character escaped, those above U+FFFF as a surrogate pair.
-/
set_option autoImplicit false

namespace VolumeReclaim.Json

def specialNames : Decimal.SpecialNames := ⟨"NaN", "Infinity"⟩

def escapeUnit (unit : Nat) : List Char :=
  '\\' :: 'u' :: Text.hex 4 unit

def escapeChar (c : Char) : List Char :=
  if c = '"' then ['\\', '"']
  else if c = '\\' then ['\\', '\\']
  else if c = '\n' then ['\\', 'n']
  else if c = '\r' then ['\\', 'r']
  else if c = '\t' then ['\\', 't']
  else if c = '\x0c' then ['\\', 'f']
  else if c = '\x08' then ['\\', 'b']
  else if ' ' ≤ c ∧ c ≤ '~' then [c]
  else if c.toNat < 0x10000 then escapeUnit c.toNat
  else
    let above := c.toNat - 0x10000
    escapeUnit (0xd800 + above / 0x400) ++ escapeUnit (0xdc00 + above % 0x400)

def writeString (text : String) : List Char :=
  '"' :: text.toList.flatMap escapeChar ++ ['"']

mutual

def write : Json → List Char
  | .null => "null".toList
  | .bool true => "true".toList
  | .bool false => "false".toList
  | .int value => Decimal.writtenInt value
  | .float value => Decimal.written specialNames value
  | .str value => writeString value
  | .arr [] => ['[', ']']
  | .arr (first :: rest) => '[' :: write first ++ writeElements rest
  | .obj [] => ['\x7b', '\x7d']
  | .obj ((name, first) :: rest) =>
    '\x7b' :: writeString name ++ ':' :: ' ' :: write first ++ writeMembers rest
termination_by structural value => value

def writeElements : List Json → List Char
  | [] => [']']
  | next :: rest => ',' :: ' ' :: write next ++ writeElements rest
termination_by structural elements => elements

def writeMembers : List (String × Json) → List Char
  | [] => ['\x7d']
  | (name, next) :: rest =>
    ',' :: ' ' :: writeString name ++ ':' :: ' ' :: write next ++ writeMembers rest
termination_by structural members => members

end

def render (content : Json) : String :=
  String.ofList content.write

end VolumeReclaim.Json
