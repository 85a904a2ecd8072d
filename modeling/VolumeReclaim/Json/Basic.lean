/-!
JSON values. Whole numbers and doubles are kept apart, and an object keeps its members in the order
in which they were written.
-/
set_option autoImplicit false

namespace VolumeReclaim

inductive Json where
  | null
  | bool (value : Bool)
  | int (value : Int)
  | float (value : Float)
  | str (value : String)
  | arr (elements : List Json)
  | obj (members : List (String × Json))
deriving Inhabited

namespace Json

def find? (name : String) : List (String × Json) → Option Json
  | [] => none
  | (key, value) :: rest => if key = name then some value else find? name rest

/-- Members with one more at the end. A name that is already there keeps its place and takes the
new value. -/
def insert (name : String) (value : Json) : List (String × Json) → List (String × Json)
  | [] => [(name, value)]
  | (key, old) :: rest =>
    if key = name then (key, value) :: rest else (key, old) :: insert name value rest

def ofMembers (written : List (String × Json)) : List (String × Json) :=
  written.foldl (fun members (name, value) => insert name value members) []

/-- Whether a value stands for something: null, false, zero and whatever is empty do not. -/
def isPresent : Json → Bool
  | .null => false
  | .bool value => value
  | .int value => value != 0
  | .float value => !(value == 0.0)
  | .str value => value != ""
  | .arr elements => !elements.isEmpty
  | .obj members => !members.isEmpty

def orElse (value default : Json) : Json :=
  if value.isPresent then value else default

def ofText? : Option String → Json
  | some text => .str text
  | none => .null

end Json

end VolumeReclaim
