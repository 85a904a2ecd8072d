import VolumeReclaim.Decimal.Binary
import VolumeReclaim.Json.Shape
import VolumeReclaim.Json.Writer

/-!
Values as keys. Two keys are the same if they are the same text or the same number, whatever the
kind of number; true and false count as one and zero. Arrays and objects are no keys.
-/
set_option autoImplicit false

namespace VolumeReclaim.Json

def isKey : Json → Bool
  | .arr _ | .obj _ => false
  | _ => true

def ofTruth (value : Bool) : Int := if value then 1 else 0

/-- Whether two values are the same key. What is no number is the same key as itself, and as no
other. -/
def sameKey : Json → Json → Bool
  | .null, .null => true
  | .str a, .str b => a == b
  | .bool a, .bool b => a == b
  | .bool a, .int b | .int b, .bool a => ofTruth a == b
  | .int a, .int b => a == b
  | .float a, .float b => a == b || (a.isNaN && b.isNaN)
  | .int a, .float b | .float b, .int a => (Decimal.Binary.ofFloat b).denotes a
  | .bool a, .float b | .float b, .bool a => (Decimal.Binary.ofFloat b).denotes (ofTruth a)
  | _, _ => false

def addKey (keys : List Json) (key : Json) : List Json :=
  if keys.any (sameKey key) then keys else keys ++ [key]

def asKey (value : Json) : Except ShapeFault Json :=
  if value.isKey then .ok value else .error .containerAsKey

def distinctKeys (keys : List Json) : List Json :=
  keys.foldl addKey []

def distinct (items : List Json) : Except ShapeFault (List Json) := do
  return distinctKeys (← items.mapM asKey)

/-- Entries with one more at the end. A key that is already there keeps its place and its first
form and takes the new value. -/
def putEntry (key value : Json) : List (Json × Json) → List (Json × Json)
  | [] => [(key, value)]
  | (known, old) :: rest =>
    if sameKey key known then (known, value) :: rest else (known, old) :: putEntry key value rest

def entry (item : Json) : Except ShapeFault (Json × Json) := do
  match ← item.parts with
  | [key, value] => return (← key.asKey, value)
  | _ => .error .partsOfPair

def keyName : Json → String
  | .null => "null"
  | .bool true => "true"
  | .bool false => "false"
  | .int value => String.ofList (Decimal.writtenInt value)
  | .float value => String.ofList (Decimal.written specialNames value)
  | .str value => value
  | _ => ""

def toObject : Json → Except ShapeFault Json
  | .obj members => .ok (.obj members)
  | other => do
    let entries ← (← other.parts).mapM entry
    let put := entries.foldl (fun known (key, value) => putEntry key value known) []
    return .obj (put.map fun (key, value) => (keyName key, value))

end VolumeReclaim.Json
