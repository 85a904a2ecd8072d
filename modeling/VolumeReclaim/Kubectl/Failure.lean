import VolumeReclaim.Json.Display
import VolumeReclaim.Json.Reader
import VolumeReclaim.Text.Blank

/-!
Ways in which a kubectl invocation fails, with what is said of each. A failure is a matter of
permissions exactly if the error output holds the server's own word for that.
-/
set_option autoImplicit false

namespace VolumeReclaim.Kubectl

def timeoutSeconds : Nat := 60

def forbiddenMarker : String := "Error from server (Forbidden)"

inductive Failure where
  | timedOut (subcommand : Json)
  | cannotRun (reason : String)
  /-- It ended with a bad status; its error output is stripped. -/
  | exited (status : Json) (stderr : String)
  | unreadable (fault : Json.Violation) (line column offset : Nat)
  | reported (message stderr : String)
deriving Inhabited

namespace Failure

def stderr : Failure → String
  | .exited _ stderr | .reported _ stderr => stderr
  | _ => ""

def message : Failure → String
  | .timedOut subcommand => s!"kubectl {subcommand.display} timed out after {timeoutSeconds}s"
  | .cannotRun reason => s!"cannot run kubectl: {reason}"
  | .exited status stderr =>
    if stderr = "" then s!"kubectl exited with status {status.display}" else stderr
  | .unreadable fault line column offset =>
    s!"invalid JSON from kubectl get persistentvolumes: {fault.message}: " ++
      s!"line {line} column {column} (char {offset})"
  | .reported message _ => message

def forbidden (failure : Failure) : Bool :=
  Text.occursIn forbiddenMarker.toList failure.stderr.toList

end Failure

end VolumeReclaim.Kubectl
