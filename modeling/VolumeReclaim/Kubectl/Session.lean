import VolumeReclaim.Json.Display
import VolumeReclaim.Json.Key
import VolumeReclaim.Kubectl.Command
import VolumeReclaim.Text.Blank

/-!
A session with kubectl: the replies that invocations are going to get, in order, and the
invocations made so far. Once the replies are used up, every invocation succeeds without output.
-/
set_option autoImplicit false

namespace VolumeReclaim.Kubectl

/-- What a process left behind: a number and two texts, or null for a text that was not captured. -/
structure Completed where
  status : Json := .int 0
  stdout : Json := .str ""
  stderr : Json := .str ""
deriving Inhabited

def Completed.succeeded (process : Completed) : Bool :=
  Json.sameKey (.int 0) process.status

def Completed.complaint (process : Completed) : Except ShapeFault String :=
  match process.stderr.orElse (.str "") with
  | .str text => .ok (Text.strip text)
  | _ => .error .stripOfNonText

inductive Ending where
  | completed (process : Completed)
  | timedOut
  | notStarted (details : List Json)
deriving Inhabited

structure Reply (τ : Type) where
  cost : Option τ := none
  ending : Ending := .completed {}

structure Invocation where
  commandLine : List Json
  captured : Bool
  ending : Ending

def usualLevels : Nat := 980

/-- The replies still to come and the invocations made. Output is read as far as its arrays and
objects are nested so many levels deep; the number is a matter of the platform. -/
structure Session (τ : Type) where
  replies : List (Reply τ) := []
  invocations : Array Invocation := #[]
  levels : Nat := usualLevels

def Session.invoke {τ : Type} (session : Session τ) (commandLine : List Json) (captured : Bool) :
    Reply τ × Session τ :=
  let reply := session.replies.headD {}
  let invocation : Invocation := ⟨commandLine, captured, reply.ending⟩
  (reply, { session with
    replies := session.replies.tail, invocations := session.invocations.push invocation })

def wouldWait : List Int := [11, 114, 115]

/-- A file concerned when a process could not be started, if there is one. For an operation that
would have to wait, a number in the place of the file is a count. -/
def concernedFile? (number file : Json) : Except ShapeFault (Option Json) :=
  let waits := match number with
    | .int number => decide (number ∈ wouldWait)
    | _ => false
  match file with
  | .null => .ok none
  | .bool _ => .ok (if waits then none else some file)
  | .int count =>
    if !waits then .ok (some file)
    else if -Nat.pow 2 63 ≤ count ∧ count < Nat.pow 2 63 then .ok none
    else .error .countTooLarge
  | .float _ => if waits then .error .countOfFraction else .ok (some file)
  | _ => .ok (some file)

/-- The files concerned when a process could not be started. A second one counts only beside a
first. -/
def describeFiles (number : Json) : List Json → Except ShapeFault String
  | [] => .ok ""
  | file :: more => do
    match ← concernedFile? number file with
    | none => return ""
    | some file =>
      match more with
      | [_, .null] => return s!": {file.inQuotes}"
      | [_, second] => return s!": {file.inQuotes} -> {second.inQuotes}"
      | _ => return s!": {file.inQuotes}"

def describeStart : List Json → Except ShapeFault String
  | [] => .ok ""
  | [text] => .ok text.display
  | number :: meaning :: files => do
    if files.length ≤ 3 then
      let concerned ← describeFiles number files
      return s!"[Errno {number.display}] {meaning.display}{concerned}"
    else
      let details := ", ".intercalate ((number :: meaning :: files).map Json.inQuotes)
      return s!"({details})"

end VolumeReclaim.Kubectl
