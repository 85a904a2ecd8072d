import VolumeReclaim.Poll
import VolumeReclaim.Script

/-!
A checker that answers from a script and keeps account of the questions. An answer can take time
and can cancel the run before it is given.
-/
set_option autoImplicit false

namespace VolumeReclaim.Poll

inductive Verdict where
  | found (present : Bool)
  | queryFailed (message : String)
  | failure (cause : Failure)

structure Scripted.Answer (τ : Type) where
  cost : Option τ := none
  cancels : Bool := false
  verdict : Verdict := .found false

structure Scripted (τ : Type) where
  script : Script (Scripted.Answer τ) := []
  asked : Array (τ × Json) := #[]

/-- Answers a question from the script. A volume without answers is gone. -/
def Scripted.check {τ : Type} [Time τ] : Checker τ (Scripted τ) := fun volumeId world =>
  let (answer, script) := world.services.script.take volumeId
  let answer := answer.getD {}
  let asked := world.services.asked.push (world.context.now, volumeId)
  let context := match answer.cost with
    | some cost => world.context.advance (world.context.now + cost)
    | none => world.context
  let context := if answer.cancels then context.cancel else context
  let result := match answer.verdict with
    | .found present => .ok present
    | .queryFailed message => .error (.volumeQuery volumeId message)
    | .failure cause => .error cause
  (result, ⟨context, ⟨script, asked⟩⟩)

end VolumeReclaim.Poll
