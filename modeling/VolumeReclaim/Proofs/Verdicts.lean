import VolumeReclaim.Proofs.InvocationJournal
import VolumeReclaim.Proofs.ReleaseCases
import VolumeReclaim.Reclamation

/-!
The one failure that names volumes as not deleted. Nothing but a wait gives it: neither kubectl nor
any part of a discovery does, whatever replies they get, and an answer of EC2 only hands it on.
-/
set_option autoImplicit false

namespace VolumeReclaim

def Failure.isVerdict : Failure → Bool
  | .notDeleted _ _ => true
  | _ => false

/-- An outcome that says of no volume that it is not deleted. -/
def Unjudged {α : Type} (outcome : Except Failure α) : Prop :=
  ∀ failure, outcome = .error failure → failure.isVerdict = false

section Outcome

variable {α β S : Type}

theorem unjudged_ok (value : α) : Unjudged (.ok value) := by
  intro failure given
  cases given

theorem unjudged_error {failure : Failure} (plain : failure.isVerdict = false) :
    Unjudged (.error failure : Except Failure α) := by
  intro other given
  cases given
  exact plain

theorem unjudged_shaped (outcome : Except ShapeFault α) : Unjudged (shaped outcome) := by
  cases outcome with
  | error fault => exact unjudged_error rfl
  | ok value => exact unjudged_ok value

theorem Unjudged.failed {result : Except Failure α × S} {failure : Failure} {after : S}
    (plain : Unjudged result.1) (given : result = (.error failure, after)) :
    Unjudged (.error failure : Except Failure β) :=
  unjudged_error (plain failure (given ▸ rfl))

theorem Unjudged.bind {outcome : Except Failure α} {next : α → Except Failure β}
    (first : Unjudged outcome) (then_ : ∀ value, Unjudged (next value)) :
    Unjudged (outcome.bind next) := by
  cases outcome with
  | error failure => exact unjudged_error (first failure rfl)
  | ok value => exact then_ value

theorem Unjudged.map {outcome : Except Failure α} (plain : Unjudged outcome) (change : α → β) :
    Unjudged (outcome.map change) := by
  cases outcome with
  | error failure => exact unjudged_error (plain failure rfl)
  | ok value => exact unjudged_ok _

end Outcome

namespace Kubectl

theorem unjudged_verdict (arguments : List Json) (ending : Ending) :
    Unjudged (ending.verdict arguments) := by
  by_cases well : ending.succeeded = true
  · obtain ⟨process, -, verdict⟩ := verdict_of_succeeded arguments well
    rw [verdict]
    exact unjudged_ok process
  · rw [verdict_of_failed arguments (Bool.eq_false_iff.mpr well), Ending.failure]
    cases ending.reason arguments <;> exact unjudged_error rfl

theorem unjudged_readListing (levels : Nat) (stdout : Json) :
    Unjudged (readListing levels stdout) := by
  unfold readListing
  split
  · split
    · exact unjudged_shaped _
    all_goals exact unjudged_error rfl
  · exact unjudged_error rfl

end Kubectl

/-- A cluster that says of no volume that it is not deleted. -/
structure Cluster.Impartial {S : Type} (cluster : Cluster S) : Prop where
  lists : ∀ state, Unjudged (cluster.list state).1
  updates : ∀ volume state, Unjudged (cluster.update volume state).1
  deletes : ∀ name state, Unjudged (cluster.delete name state).1

namespace Kubectl

variable {τ : Type} [Time τ]

theorem unjudged_reading {α : Type} (context : Json) (command : Command)
    {read : Completed → Except VolumeReclaim.Failure α} (plain : ∀ process, Unjudged (read process))
    (world : World τ) :
    Unjudged (match execute context command world with
      | (.ok process, world) => (read process, world)
      | (.error failure, world) => (.error failure, world)).1 := by
  have verdict := unjudged_verdict command.arguments world.services.kubectl.nextEnding
  rw [execute_eq]
  generalize Ending.verdict _ _ = outcome at verdict ⊢
  cases outcome with
  | error failure => exact unjudged_error (verdict failure rfl)
  | ok process => exact plain process

theorem impartial_cluster (context : Json) : (cluster (τ := τ) context).Impartial where
  lists world := unjudged_reading context .list
    (fun process => unjudged_readListing world.services.kubectl.levels process.stdout) world
  updates volume := unjudged_reading context (.update volume) fun _ => unjudged_ok ()
  deletes name := unjudged_reading context (.delete name) fun _ => unjudged_ok ()

end Kubectl

namespace Discovery

variable {S : Type} {cluster : Cluster S}

theorem unjudged_attempt {α : Type} (step : Step) {action : S → Except Failure α × S}
    (plain : ∀ state, Unjudged (action state).1) (run : Logged S) :
    Unjudged (attempt step action run).1 := by
  have outcome := plain run.state
  simp only [attempt, Logged.perform]
  generalize (action run.state).1 = result at outcome ⊢
  cases result with
  | ok value => exact unjudged_ok value
  | error failure =>
    have fair := outcome failure rfl
    apply unjudged_error
    cases failure <;> first | rfl | exact fair

theorem unjudged_release (impartial : cluster.Impartial) (volume : PersistentVolume)
    (run : Logged S) : Unjudged (release cluster volume run).1 := by
  unfold release
  dsimp only
  have updated := unjudged_attempt (.update volume.name)
    (impartial.updates { volume with finalizers := .arr [] }) (run.note .debug
      s!"updating Kubernetes Persistent Volume (setting finalizers to null) {volume.name.display}")
  split
  · next failure after given => exact updated.failed given
  · exact unjudged_attempt _ (impartial.deletes volume.name) _

theorem unjudged_releaseAll (impartial : cluster.Impartial) (volumes : List PersistentVolume)
    (tracked : List Json) (run : Logged S) :
    Unjudged (releaseAll cluster volumes tracked run).1 := by
  induction volumes, tracked, run using releaseAll_induction cluster with
  | nil tracked => exact unjudged_ok tracked
  | refused => exact unjudged_error rfl
  | skipped volume rest tracked run later _ _ ih => exact ih
  | failed volume rest tracked run id failure after _ given =>
    exact (unjudged_release impartial volume run).failed given
  | released volume rest tracked run id after _ _ ih => exact ih

theorem unjudged_releaseListed (impartial : cluster.Impartial) (run : Logged S) :
    Unjudged (releaseListed cluster run).1 := by
  unfold releaseListed
  have listed := unjudged_attempt .list impartial.lists run
  split
  · next failure after given => exact listed.failed given
  · next volumes after given =>
    have released := unjudged_releaseAll impartial volumes [] after
    split
    · next failure final given => exact released.failed given
    · exact unjudged_ok _

end Discovery

namespace Ec2

theorem unjudged_state {answer : Answer} (volumeId : Json)
    (foreign : ∀ cause, answer = .failure cause → cause.isVerdict = false) :
    Unjudged (answer.state volumeId) := by
  cases answer with
  | result content => exact unjudged_shaped _
  | serviceError response operation =>
    refine (unjudged_shaped (serviceErrorText response operation)).bind fun text => ?_
    refine (unjudged_shaped (isNotFound response)).bind fun unknown => ?_
    cases unknown with
    | false => exact unjudged_error rfl
    | true => exact unjudged_ok Json.null
  | clientFault fault => exact unjudged_error rfl
  | failure cause => exact unjudged_error (foreign cause rfl)

end Ec2

end VolumeReclaim
