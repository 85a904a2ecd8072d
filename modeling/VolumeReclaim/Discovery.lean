import VolumeReclaim.Failure
import VolumeReclaim.Json.Key
import VolumeReclaim.Log
import VolumeReclaim.PersistentVolume.Provisioner

/-!
Discovery: every persistent volume on EBS loses its finalizers and is deleted, in the order of the
listing. What is not on EBS is left alone. The first failure of the cluster ends the run.
-/
set_option autoImplicit false

namespace VolumeReclaim

structure Cluster (S : Type) where
  list : S → Except Failure (List PersistentVolume) × S
  update : PersistentVolume → S → Except Failure Unit × S
  delete : Json → S → Except Failure Unit × S

namespace Discovery

inductive Step where
  | list
  | update (name : Json)
  | delete (name : Json)

def Step.failed : Step → String
  | .list => "cannot list Kubernetes Persistent Volumes"
  | .update name => s!"cannot update Kubernetes Persistent Volume {name.display}"
  | .delete name => s!"cannot delete Kubernetes Persistent Volume {name.display}"

def Step.verb : Step → String
  | .list => "list"
  | .update _ => "patch"
  | .delete _ => "delete"

def Step.hint (step : Step) : String :=
  s!" (deleting a cluster requires permission to {step.verb} Kubernetes Persistent Volumes)"

def Step.clusterFailure (step : Step) (cause : Kubectl.Failure) : Failure :=
  let message := s!"{step.failed}: {cause.message}"
  .cluster (if cause.forbidden then message ++ step.hint else message) cause.forbidden

def Step.failure (step : Step) : Failure → Failure
  | .kubectl cause => step.clusterFailure cause
  | other => other

variable {S : Type}

def skip (volume : PersistentVolume) (run : Logged S) : Except ShapeFault (Logged S) := do
  let plugin ← volume.provisionedBy
  let name := volume.name.display
  match ← volume.provisioner with
  | .unrecognized =>
    return run.note .debug
      s!"PV {name} is not EBS, it is '{provisionedByAnnotation}': '{plugin.display}', skip"
  | _ =>
    return run.note .warning
      s!"PV {name} is provisioned by '{plugin.display}' but has no EBS volume id, skip"

def attempt {α : Type} (step : Step) (action : S → Except Failure α × S) (run : Logged S) :
    Except Failure α × Logged S :=
  let (result, run) := run.perform action
  (result.mapError step.failure, run)

def release (cluster : Cluster S) (volume : PersistentVolume) (run : Logged S) :
    Except Failure Unit × Logged S :=
  let name := volume.name.display
  let run := run.note .debug
    s!"updating Kubernetes Persistent Volume (setting finalizers to null) {name}"
  let unprotected := { volume with finalizers := .arr [] }
  match attempt (.update volume.name) (cluster.update unprotected) run with
  | (.error failure, run) => (.error failure, run)
  | (.ok (), run) =>
    let run := run.note .debug s!"deleting Kubernetes Persistent Volume {name}"
    attempt (.delete volume.name) (cluster.delete volume.name) run

def releaseAll (cluster : Cluster S) :
    List PersistentVolume → (tracked : List Json) → Logged S → Except Failure (List Json) × Logged S
  | [], tracked, run => (.ok tracked, run)
  | volume :: rest, tracked, run =>
    match volume.volumeId with
    | .error fault => (.error (.shape fault), run)
    | .ok none =>
      match skip volume run with
      | .error fault => (.error (.shape fault), run)
      | .ok run => releaseAll cluster rest tracked run
    | .ok (some id) =>
      if id.isKey then
        match release cluster volume run with
        | (.error failure, run) => (.error failure, run)
        | (.ok (), run) => releaseAll cluster rest (Json.addKey tracked id) run
      else (.error (.shape .containerAsKey), run)

/-- Lists the volumes of a cluster and releases those on EBS. The result is their ids, each once,
in the order of the listing. -/
def releaseListed (cluster : Cluster S) (run : Logged S) :
    Except Failure (List Json) × Logged S :=
  match attempt .list cluster.list run with
  | (.error failure, run) => (.error failure, run)
  | (.ok volumes, run) =>
    match releaseAll cluster volumes [] run with
    | (.error failure, run) => (.error failure, run)
    | (.ok tracked, run) =>
      (.ok tracked, run.note .info
        s!"deleted {tracked.length} EBS-backed Kubernetes Persistent Volume(s)")

end Discovery

end VolumeReclaim
