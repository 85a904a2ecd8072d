import VolumeReclaim.Decimal.Reader
import VolumeReclaim.Json.Basic
import VolumeReclaim.Text.Hex

/-!
Reading JSON text. Each reader takes the text from some place on and gives back what it read with
the rest, or the first violation with the text from the place at fault; the length of that rest is
the place. Values recurse on the levels of nesting they may still open. The loops over characters,
elements and members take at least one character a turn, so that a size greater than the length of
the text is fuel enough for all of them. Strings are made of characters, and no character is a
surrogate: whatever is read of one that stands alone is the same replacement character.
-/
set_option autoImplicit false

namespace VolumeReclaim.Json

inductive Violation where
  | byteOrderMark
  | value
  | propertyName
  | colon
  | comma
  | unterminatedString
  | controlCharacter
  | escape
  | unicodeEscape
  | trailingData
deriving DecidableEq, Repr

def Violation.message : Violation → String
  | .byteOrderMark => "Unexpected UTF-8 BOM (decode using utf-8-sig)"
  | .value => "Expecting value"
  | .propertyName => "Expecting property name enclosed in double quotes"
  | .colon => "Expecting ':' delimiter"
  | .comma => "Expecting ',' delimiter"
  | .unterminatedString => "Unterminated string starting at"
  | .controlCharacter => "Invalid control character at"
  | .escape => "Invalid \\escape"
  | .unicodeEscape => "Invalid \\uXXXX escape"
  | .trailingData => "Extra data"

/-- Why reading stopped. `rest` is the text from the place at fault on. -/
inductive Stop where
  | violation (violation : Violation) (rest : List Char)
  | integerTooLong
  | nestedTooDeep
deriving DecidableEq, Repr

abbrev Reading (α : Type) := List Char → Except Stop (α × List Char)

def maxIntegerDigits : Nat := 4300

def isSpace (c : Char) : Bool :=
  c == ' ' || c == '\t' || c == '\n' || c == '\r'

def skipSpace (text : List Char) : List Char :=
  text.dropWhile isSpace

def unescape? : Char → Option Char
  | '"' => some '"'
  | '\\' => some '\\'
  | '/' => some '/'
  | 'b' => some '\x08'
  | 'f' => some '\x0c'
  | 'n' => some '\n'
  | 'r' => some '\r'
  | 't' => some '\t'
  | _ => none

def isHighSurrogate (unit : Nat) : Bool :=
  0xd800 ≤ unit && unit ≤ 0xdbff

def isLowSurrogate (unit : Nat) : Bool :=
  0xdc00 ≤ unit && unit ≤ 0xdfff

def joinSurrogates (high low : Nat) : Char :=
  Char.ofNat (0x10000 + (high - 0xd800) * 0x400 + (low - 0xdc00))

/-- The character of a code unit that is not part of a pair. All surrogates become the same one. -/
def loneUnit (unit : Nat) : Char :=
  if isHighSurrogate unit || isLowSurrogate unit then '\ufffd' else Char.ofNat unit

/-- The low surrogate escaped at the start of a text, if another character follows the escape, with
the text after it. -/
def lowSurrogate? : List Char → Option (Nat × List Char)
  | '\\' :: 'u' :: a :: b :: c :: d :: next :: rest =>
    match Text.hexValue4? a b c d with
    | some unit => if isLowSurrogate unit then some (unit, next :: rest) else none
    | none => none
  | _ => none

def ofUnit (unit : Nat) (rest : List Char) : Char × List Char :=
  if isHighSurrogate unit then
    match lowSurrogate? rest with
    | some (low, rest) => (joinSurrogates unit low, rest)
    | none => (loneUnit unit, rest)
  else (loneUnit unit, rest)

/-- The character of an escape by code unit, from behind its `u` on. It takes four hexadecimal
digits with one more character after them. -/
def unicodeEscape (text : List Char) : Except Stop (Char × List Char) :=
  match text with
  | a :: b :: c :: d :: next :: rest =>
    match Text.hexValue4? a b c d with
    | some unit => .ok (ofUnit unit (next :: rest))
    | none => .error (.violation .unicodeEscape ('u' :: text))
  | _ => .error (.violation .unicodeEscape ('u' :: text))

def escape (opening : List Char) : List Char → Except Stop (Char × List Char)
  | [] => .error (.violation .unterminatedString opening)
  | c :: rest =>
    if c = 'u' then unicodeEscape rest
    else
      match unescape? c with
      | some plain => .ok (plain, rest)
      | none => .error (.violation .escape ('\\' :: c :: rest))

def character (opening : List Char) : List Char → Except Stop (Char × List Char)
  | [] => .error (.violation .unterminatedString opening)
  | c :: rest =>
    if c = '\\' then escape opening rest
    else if c < ' ' then .error (.violation .controlCharacter (c :: rest))
    else .ok (c, rest)

/-- The characters of a string up to its closing quote, and the text after that. The text from its
opening quote on is `opening`. -/
def stringBody (opening : List Char) : (fuel : Nat) → List Char → Except Stop (List Char × List Char)
  | 0, _ => .error (.violation .unterminatedString opening)
  | _ + 1, '"' :: rest => .ok ([], rest)
  | fuel + 1, text => do
    let (first, rest) ← character opening text
    let (more, rest) ← stringBody opening fuel rest
    return (first :: more, rest)

def string (size : Nat) (text : List Char) : Except Stop (String × List Char) := do
  let (body, rest) ← stringBody text size text.tail
  return (String.ofList body, rest)

def unsignedNumber (negative : Bool) (text : List Char) : Option (Except Stop (Json × List Char)) :=
  let (digits, rest) := match text with
    | '0' :: rest => (['0'], rest)
    | text => Decimal.spanDigits text
  if digits.isEmpty then none
  else
    let (fraction, afterFraction) := (Decimal.fraction? rest).getD ([], rest)
    let (exponent, afterExponent) := (Decimal.exponent? afterFraction).getD (0, afterFraction)
    if (Decimal.fraction? rest).isNone ∧ (Decimal.exponent? afterFraction).isNone then
      if maxIntegerDigits < digits.length then some (.error .integerTooLong)
      else
        let size : Int := Decimal.ofDigits digits
        some (.ok (.int (if negative then -size else size), rest))
    else
      let value := Decimal.nearest negative (Decimal.ofDigits (digits ++ fraction))
        (exponent - fraction.length)
      some (.ok (.float value, afterExponent))

def number (text : List Char) : Except Stop (Json × List Char) :=
  let attempt := match text with
    | '-' :: rest => unsignedNumber true rest
    | text => unsignedNumber false text
  attempt.getD (.error (.violation .value text))

def words : List (List Char × Json) := [
  ("null".toList, .null), ("true".toList, .bool true), ("false".toList, .bool false),
  ("NaN".toList, .float (0.0 / 0.0)), ("Infinity".toList, .float (1.0 / 0.0)),
  ("-Infinity".toList, .float (-1.0 / 0.0))]

def after? : (word text : List Char) → Option (List Char)
  | [], text => some text
  | _ :: _, [] => none
  | c :: word, d :: text => if c = d then after? word text else none

def scalar (text : List Char) : Except Stop (Json × List Char) :=
  match words.findSome? fun (word, meaning) => (after? word text).map (meaning, ·) with
  | some found => .ok found
  | none => number text

def moreElements (element : Reading Json) : (fuel : Nat) → Reading (List Json)
  | 0, text => .error (.violation .comma text)
  | fuel + 1, text =>
    match text with
    | ']' :: rest => .ok ([], rest)
    | ',' :: rest => do
      let (next, rest) ← element (skipSpace rest)
      let (more, rest) ← moreElements element fuel (skipSpace rest)
      return (next :: more, rest)
    | text => .error (.violation .comma text)

def elements (size : Nat) (element : Reading Json) (text : List Char) :
    Except Stop (List Json × List Char) :=
  match skipSpace text with
  | ']' :: rest => .ok ([], rest)
  | text => do
    let (first, rest) ← element text
    let (more, rest) ← moreElements element size (skipSpace rest)
    return (first :: more, rest)

def member (size : Nat) (content : Reading Json) (text : List Char) :
    Except Stop ((String × Json) × List Char) :=
  match text with
  | '"' :: _ => do
    let (name, rest) ← string size text
    match skipSpace rest with
    | ':' :: rest => do
      let (content, rest) ← content (skipSpace rest)
      return ((name, content), rest)
    | rest => .error (.violation .colon rest)
  | text => .error (.violation .propertyName text)

def moreMembers (member : Reading (String × Json)) :
    (fuel : Nat) → Reading (List (String × Json))
  | 0, text => .error (.violation .comma text)
  | fuel + 1, text =>
    match text with
    | '\x7d' :: rest => .ok ([], rest)
    | ',' :: rest => do
      let (next, rest) ← member (skipSpace rest)
      let (more, rest) ← moreMembers member fuel (skipSpace rest)
      return (next :: more, rest)
    | text => .error (.violation .comma text)

def members (size : Nat) (content : Reading Json) (text : List Char) :
    Except Stop (List (String × Json) × List Char) :=
  match skipSpace text with
  | '\x7d' :: rest => .ok ([], rest)
  | text => do
    let (first, rest) ← member size content text
    let (more, rest) ← moreMembers (member size content) size (skipSpace rest)
    return (first :: more, rest)

def value (size : Nat) : (levels : Nat) → Reading Json
  | _, '"' :: rest => do
    let (content, rest) ← string size ('"' :: rest)
    return (.str content, rest)
  | 0, '[' :: _ => .error .nestedTooDeep
  | 0, '\x7b' :: _ => .error .nestedTooDeep
  | levels + 1, '[' :: rest => do
    let (items, rest) ← elements size (value size levels) rest
    return (.arr items, rest)
  | levels + 1, '\x7b' :: rest => do
    let (written, rest) ← members size (value size levels) rest
    return (.obj (ofMembers written), rest)
  | _, text => scalar text

def document (levels : Nat) (text : List Char) : Except Stop Json :=
  match text with
  | '\ufeff' :: _ => .error (.violation .byteOrderMark text)
  | text => do
    let (content, rest) ← value (text.length + 1) levels (skipSpace text)
    match skipSpace rest with
    | [] => return content
    | rest => .error (.violation .trailingData rest)

/-- Why a text is not a JSON document, with the place at fault: its offset from the start, its line
counted from one and its column counted from one. -/
inductive ParseError where
  | malformed (violation : Violation) (line column offset : Nat)
  | integerTooLong
  | nestedTooDeep
deriving DecidableEq, Repr

def ParseError.at (violation : Violation) (text rest : List Char) : ParseError :=
  let before := text.take (text.length - rest.length)
  let column := (before.reverse.takeWhile (· ≠ '\n')).length + 1
  .malformed violation (before.count '\n' + 1) column before.length

def parse (levels : Nat) (text : String) : Except ParseError Json :=
  match document levels text.toList with
  | .ok content => .ok content
  | .error (.violation violation rest) => .error (.at violation text.toList rest)
  | .error .integerTooLong => .error .integerTooLong
  | .error .nestedTooDeep => .error .nestedTooDeep

end VolumeReclaim.Json
