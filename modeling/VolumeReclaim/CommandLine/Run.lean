import VolumeReclaim.Reclamation
import VolumeReclaim.CommandLine.Options
import VolumeReclaim.Ec2.Client
import VolumeReclaim.Text.ControlSequence
import VolumeReclaim.Text.LineEnd

/-!
The command: it reads its options, takes over the interrupt signal, reclaims the volumes under a
deadline, and tells the outcome by its exit status. While it runs, an interrupt cancels the run; at
the end, on every path, the signal is handled as it was before.
-/
set_option autoImplicit false

namespace VolumeReclaim.CommandLine

def exitDeleted : Nat := 0

def exitFatal : Nat := 1

def exitUnfinished : Nat := 2

def exitUsage : Nat := 2

def successLine : String :=
  "All EBS volumes backing Kubernetes Persistent Volumes are deleted.\n"

def adviceLine : String := "Re-run pv-reaper or delete these volumes manually.\n"

inductive Handler where
  /-- What it did before the command started. -/
  | former
  | cancelRun
deriving DecidableEq, Repr

/-- When a run is cancelled under a handler, if an interrupt comes at a given time. -/
def Handler.cancellation {τ : Type} (handler : Handler) (interruptAt : Option τ) : Option τ :=
  match handler with
  | .former => none
  | .cancelRun => interruptAt

/-- The console of the command: what an interrupt does, whether the error output is a terminal, and
what has been printed. -/
structure Console where
  handler : Handler := .former
  terminal : Bool := false
  stdout : String := ""
  stderr : String := ""

namespace Console

def print (console : Console) (text : String) : Console :=
  { console with stdout := console.stdout ++ text }

def report (console : Console) (text : String) : Console :=
  { console with stderr := console.stderr ++ text }

/-- Prints a message to the error output. Only a terminal is given its control sequences. -/
def complain (console : Console) (text : String) : Console :=
  console.report (if console.terminal then text else Text.plain text)

def shownOutput (console : Console) : String :=
  Text.unifyLineEnds console.stdout

def shownErrors (console : Console) : String :=
  Text.unifyLineEnds console.stderr

def handle (console : Console) (handler : Handler) : Console :=
  { console with handler }

end Console

structure Setting where
  now : Float := 0.0
  interruptAt : Option Float := none
  kubectl : Kubectl.Session Float := {}
  ec2 : Ec2.Session Float := {}
  sessionFailure : Option Failure := none

/-- What a call of the command leaves behind. A failure that no exit status stands for escapes. -/
structure Report where
  status : Nat
  console : Console
  escaped : Option Failure := none
  setup : List Ec2.Setup := []
  world : Option (World Float) := none

def logText (line : LogLine) : String :=
  s!"{line.level.name} {defaultLogger}: {line.text}\n"

def printed (verbose : Bool) (lines : List LogLine) : List LogLine :=
  lines.filter fun line => verbose || line.level ≠ .debug

/-- How the command ends after a failure: with which status, after printing what, and whether the
failure escapes. -/
def conclude (failure : Failure) (console : Console) : Nat × Console × Option Failure :=
  let reported := console.complain s!"Error: {failure.message}\n"
  match failure with
  | .notDeleted _ _ => (exitUnfinished, reported.report adviceLine, none)
  | .cluster _ _ | .missingDeadline _ => (exitFatal, reported, none)
  | _ => (exitFatal, console, some failure)

def execute (options : Options) (setting : Setting) (limit : Nat) (console : Console) : Report :=
  let before := console.handler
  let console := console.handle .cancelRun
  let cancelAt := console.handler.cancellation setting.interruptAt
  let context := Context.lasting setting.now options.timeout cancelAt
  let world : World Float := ⟨context, ⟨setting.kubectl, setting.ec2⟩⟩
  match Ec2.connect (.ofText? options.region) (.ofText? options.profile) setting.sessionFailure with
  | (.error failure, setup) =>
    let (status, console, escaped) := conclude failure console
    ⟨status, console.handle before, escaped, setup, some world⟩
  | (.ok (), setup) =>
    let (outcome, run) :=
      World.reclaim (.ofText? options.kubeContext) options.pollInterval limit { state := world }
    let diary := (printed options.verbose run.lines.toList).map logText
    let console := console.report (String.join diary)
    match outcome with
    | .error failure =>
      let (status, console, escaped) := conclude failure console
      ⟨status, console.handle before, escaped, setup, some run.state⟩
    | .ok () =>
      ⟨exitDeleted, (console.handle before).print successLine, none, setup, some run.state⟩

def call (arguments : List String) (environment : Environment) (setting : Setting) (limit : Nat)
    (console : Console) : Report :=
  match parse arguments environment with
  | .error fault => { status := exitUsage, console := console.complain fault.text }
  | .ok .help => { status := exitDeleted, console := console.print helpPage }
  | .ok (.run options) => execute options setting limit console

end VolumeReclaim.CommandLine
