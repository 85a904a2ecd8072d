import VolumeReclaim.Failure

/-!
What EC2 answers when it is asked about one volume, and what that says of the volume. A volume is
gone if EC2 does not know it, lists none, or lists it as deleted; as long as EC2 lists it in any
other state, or in none, it exists.
-/
set_option autoImplicit false

namespace VolumeReclaim.Ec2

def notFoundCode : String := "InvalidVolume.NotFound"

def deletedState : String := "deleted"

inductive Answer where
  | result (content : Json)
  | serviceError (response operation : Json)
  | clientFault (fault : ClientFault)
  | failure (cause : Failure)
deriving Inhabited

def Answer.volumes (content : Json) : Answer :=
  .result (.obj [("Volumes", content)])

def hasMetadata (response : Json) : Except ShapeFault Bool :=
  match response with
  | .obj members => .ok (Json.find? "ResponseMetadata" members).isSome
  | .arr elements => .ok (elements.any fun | .str text => text == "ResponseMetadata" | _ => false)
  | .str text => .ok (Text.occursIn "ResponseMetadata".toList text.toList)
  | _ => .error .elementsOfScalar

def retryRemark (response : Json) : Except ShapeFault String := do
  if ← hasMetadata response then
    match response with
    | .obj members =>
      let metadata := (Json.find? "ResponseMetadata" members).getD .null
      if (← metadata.memberOr "MaxAttemptsReached" (.bool false)).isPresent then
        match ← metadata.member? "RetryAttempts" with
        | some attempts => return s!" (reached max retries: {attempts.display})"
        | none => return ""
      else return ""
    | _ => .error .elementByName
  else return ""

def serviceErrorText (response operation : Json) : Except ShapeFault String := do
  let remark ← retryRemark response
  let error ← response.memberOr "Error" (.obj [])
  let code ← error.memberOr "Code" (.str "Unknown")
  let message ← error.memberOr "Message" (.str "Unknown")
  return s!"An error occurred ({code.display}) when calling the {operation.display} " ++
    s!"operation{remark}: {message.display}"

def isNotFound (response : Json) : Except ShapeFault Bool := do
  let error ← response.memberOr "Error" (.obj [])
  match ← error.memberOr "Code" .null with
  | .str code => return code == notFoundCode
  | _ => return false

def queryFailure (volumeId : Json) (text : String) : Failure :=
  .volumeQuery volumeId s!"cannot describe EBS volume {volumeId.display}: {text}"

/-- The state in a listing of volumes, that of its first volume; null without one. -/
def listedState (content : Json) : Except ShapeFault Json := do
  let volumes ← content.memberOr "Volumes" .null
  if volumes.isPresent then (← volumes.first).memberOr "State" .null
  else return .null

/-- The state of a volume as an answer about it has it; null if EC2 does not know the volume. -/
def Answer.state (volumeId : Json) : Answer → Except Failure Json
  | .result content => shaped (listedState content)
  | .serviceError response operation => do
    let text ← shaped (serviceErrorText response operation)
    if ← shaped (isNotFound response) then return .null
    else throw (queryFailure volumeId text)
  | .clientFault fault => .error (queryFailure volumeId fault.message)
  | .failure cause => .error cause

def existsIn : Json → Bool
  | .null => false
  | .str state => state != deletedState
  | _ => true

end VolumeReclaim.Ec2
