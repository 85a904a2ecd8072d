import VolumeReclaim.Json.Basic

/-!
Answers laid out in advance for each volume. Every question about a volume takes the first answer
left for it, and the last one is given again and again.
-/
set_option autoImplicit false

namespace VolumeReclaim

abbrev Script (ρ : Type) := List (String × List ρ)

namespace Script

variable {ρ : Type}

def afterFirst : List ρ → List ρ
  | _ :: next :: rest => next :: rest
  | few => few

/-- The answer to a question about a volume, and the script after it. There is none for an id
without answers or one that is not text. -/
def take (script : Script ρ) (volumeId : Json) : Option ρ × Script ρ :=
  match volumeId with
  | .str id => go id script
  | _ => (none, script)
where
  go (id : String) : Script ρ → Option ρ × Script ρ
    | [] => (none, [])
    | (known, answers) :: rest =>
      if known = id then (answers.head?, (known, afterFirst answers) :: rest)
      else
        let (answer, rest) := go id rest
        (answer, (known, answers) :: rest)

end Script

end VolumeReclaim
