import VolumeReclaim.Discovery
import VolumeReclaim.Poll

/-!
A whole run: with a deadline at hand, the persistent volumes on EBS are deleted, and then the run
waits for the EBS volumes behind them to go.
-/
set_option autoImplicit false

namespace VolumeReclaim

variable {τ σ : Type} [Time τ]

def reclaim (cluster : Cluster (Timed τ σ)) (check : Poll.Checker τ σ) (interval : τ)
    (limit : Nat) (run : Logged (Timed τ σ)) : Except Failure Unit × Logged (Timed τ σ) :=
  match run.state.context.deadline with
  | none => (.error (.missingDeadline Failure.noDeadline), run)
  | some _ =>
    match Discovery.releaseListed cluster run with
    | (.error failure, run) => (.error failure, run)
    | (.ok volumeIds, run) =>
      match Poll.untilGone check interval limit volumeIds run with
      | (.error failure, run) => (.error failure, run)
      | (.ok (), run) =>
        (.ok (), run.note .info s!"all {volumeIds.length} tracked AWS EBS volume(s) are deleted")

def Kubectl.cluster (context : Json) : Cluster (World τ) :=
  ⟨Kubectl.list context, Kubectl.update context, Kubectl.delete context⟩

def World.reclaim (context : Json) (interval : τ) (limit : Nat)
    (run : Logged (World τ)) : Except Failure Unit × Logged (World τ) :=
  VolumeReclaim.reclaim (Kubectl.cluster context) (Ec2.stillExists limit) interval limit run

def publicNames : List String :=
  Failure.Kind.all.map Failure.Kind.name ++ ["Context", "cleanup"]

end VolumeReclaim
