import VolumeReclaim.Json.Basic

/-!
What a step needs of a value of any shape: a member, the elements, the first element. Each is
refused, with the reason, where the value has the wrong shape.
-/
set_option autoImplicit false

namespace VolumeReclaim

inductive ShapeFault where
  | memberOfNonObject
  | elementsOfScalar
  | containerAsKey
  | partsOfPair
  | firstOfObject
  | firstOfScalar
  | segmentOfNonText
  | joinOfNonText
  | elementByName
  | missingDetail
  | firstOfNothing
  | stripOfNonText
  | parseOfNonText
  | countOfFraction
  | countTooLarge
  | integerTooLong
  | nestedTooDeep
deriving DecidableEq, Repr

namespace Json

def member? (name : String) : Json → Except ShapeFault (Option Json)
  | .obj members => .ok (find? name members)
  | _ => .error .memberOfNonObject

def memberOr (content : Json) (name : String) (default : Json) : Except ShapeFault Json := do
  return (← content.member? name).getD default

/-- What a value is made of: the elements of an array, the characters of a text, the names of an
object. -/
def parts : Json → Except ShapeFault (List Json)
  | .arr elements => .ok elements
  | .str text => .ok (text.toList.map fun c => .str (String.singleton c))
  | .obj members => .ok (members.map fun (name, _) => .str name)
  | _ => .error .elementsOfScalar

def first : Json → Except ShapeFault Json
  | .arr (element :: _) => .ok element
  | .arr [] => .error .firstOfNothing
  | .str text =>
    match text.toList with
    | c :: _ => .ok (.str (String.singleton c))
    | [] => .error .firstOfNothing
  | .obj _ => .error .firstOfObject
  | _ => .error .firstOfScalar

def joined (separator : String) : List Json → Except ShapeFault String := fun items => do
  let texts ← items.mapM fun
    | .str text => .ok text
    | _ => .error .joinOfNonText
  return separator.intercalate texts

end Json

end VolumeReclaim
