import VolumeReclaim.Context
import VolumeReclaim.Ec2.Session
import VolumeReclaim.Kubectl.Session

/-!
All that a run touches: its context, and the cluster and EC2 behind their sessions. An operation
takes a world and gives back what came of it with the world it leaves.
-/
set_option autoImplicit false

namespace VolumeReclaim

structure Timed (τ σ : Type) where
  context : Context τ
  services : σ

structure Services (τ : Type) where
  kubectl : Kubectl.Session τ := {}
  ec2 : Ec2.Session τ := {}

abbrev World (τ : Type) := Timed τ (Services τ)

variable {τ : Type} [Time τ]

def Timed.wait {σ : Type} (world : Timed τ σ) (seconds : τ) : Bool × Timed τ σ :=
  let (answer, context) := world.context.wait seconds
  (answer, { world with context })

namespace Kubectl

def invoke (commandLine : List Json) (captured : Bool) (world : World τ) : Ending × World τ :=
  let (reply, kubectl) := world.services.kubectl.invoke commandLine captured
  let context := match reply.cost with
    | some cost => world.context.advance (world.context.now + cost)
    | none => world.context
  (reply.ending, ⟨context, { world.services with kubectl }⟩)

def Ending.outcome (arguments : Json) : Ending → Except VolumeReclaim.Failure Completed
  | .completed process => .ok process
  | .timedOut => do
    let subcommand ← shaped arguments.first
    throw (.kubectl (.timedOut subcommand))
  | .notStarted details => do
    let reason ← shaped (describeStart details)
    throw (.kubectl (.cannotRun reason))

def run (context arguments : Json) (captured : Bool) (world : World τ) :
    Except VolumeReclaim.Failure Completed × World τ :=
  match arguments.parts with
  | .error fault => (.error (.shape fault), world)
  | .ok parts =>
    let (ending, world) := invoke (commandLine context parts) captured world
    (ending.outcome arguments, world)

def Completed.check (process : Completed) : Except VolumeReclaim.Failure Completed := do
  if process.succeeded then return process
  let stderr ← shaped process.complaint
  throw (.kubectl (.exited process.status stderr))

def execute (context : Json) (command : Command) (world : World τ) :
    Except VolumeReclaim.Failure Completed × World τ :=
  match run context (.arr command.arguments) true world with
  | (.ok process, world) => (process.check, world)
  | (.error failure, world) => (.error failure, world)

/-- The persistent volumes in the output of a listing. No output is an empty listing. -/
def readListing (levels : Nat) (stdout : Json) :
    Except VolumeReclaim.Failure (List PersistentVolume) :=
  match stdout.orElse (.str "\x7b\x7d") with
  | .str text =>
    match Json.parse levels text with
    | .ok listing => shaped (PersistentVolume.ofListing listing)
    | .error (.malformed fault line column offset) =>
      .error (.kubectl (.unreadable fault line column offset))
    | .error .integerTooLong => .error (.shape .integerTooLong)
    | .error .nestedTooDeep => .error (.shape .nestedTooDeep)
  | _ => .error (.shape .parseOfNonText)

def list (context : Json) (world : World τ) :
    Except VolumeReclaim.Failure (List PersistentVolume) × World τ :=
  let levels := world.services.kubectl.levels
  match execute context .list world with
  | (.ok process, world) => (readListing levels process.stdout, world)
  | (.error failure, world) => (.error failure, world)

def update (context : Json) (volume : PersistentVolume) (world : World τ) :
    Except VolumeReclaim.Failure Unit × World τ :=
  match execute context (.update volume) world with
  | (.ok _, world) => (.ok (), world)
  | (.error failure, world) => (.error failure, world)

def delete (context : Json) (name : Json) (world : World τ) :
    Except VolumeReclaim.Failure Unit × World τ :=
  match execute context (.delete name) world with
  | (.ok _, world) => (.ok (), world)
  | (.error failure, world) => (.error failure, world)

end Kubectl

namespace Ec2

def volumeState (limit : Nat) (volumeId : Json) (world : World τ) :
    Except Failure Json × World τ :=
  let (answer, context, ec2) := world.services.ec2.ask limit world.context volumeId
  (answer.bind (·.state volumeId), ⟨context, { world.services with ec2 }⟩)

def stillExists (limit : Nat) (volumeId : Json) (world : World τ) :
    Except Failure Bool × World τ :=
  let (state, world) := volumeState limit volumeId world
  (state.map existsIn, world)

end Ec2

end VolumeReclaim
