import VolumeReclaim.Proofs.Clock
import VolumeReclaim.Proofs.TypedVolume
import VolumeReclaim.World

/-!
What one kubectl invocation does to a world: it takes the next reply, is written down with its
ending, and lets its time pass. Nothing else changes.
-/
set_option autoImplicit false

namespace VolumeReclaim.Kubectl

variable {τ : Type}

def Ending.succeeded : Ending → Bool
  | .completed process => process.succeeded
  | _ => false

/-- Whether an ending is one that an operating system gives: a process leaves a number and texts,
where a text may be missing, and a process that could not be started has a describable reason. -/
def Ending.wellFormed : Ending → Bool
  | .completed process =>
    (match process.status with | .int _ => true | _ => false) &&
      process.stdout.isTextOrNull && process.stderr.isTextOrNull
  | .timedOut => true
  | .notStarted details => (describeStart details).isOk

def Ending.reason (arguments : List Json) : Ending → Except ShapeFault Failure
  | .completed process => process.complaint.map (.exited process.status)
  | .timedOut => (Json.arr arguments).first.map .timedOut
  | .notStarted details => (describeStart details).map .cannotRun

/-- The failure of an ending that is no success: kubectl's, if its reason can be said. -/
def Ending.failure (arguments : List Json) (ending : Ending) : VolumeReclaim.Failure :=
  match ending.reason arguments with
  | .ok cause => .kubectl cause
  | .error fault => .shape fault

/-- What an ending comes to for a command with these arguments: the process, if it ended well. -/
def Ending.verdict (arguments : List Json) (ending : Ending) :
    Except VolumeReclaim.Failure Completed :=
  (ending.outcome (.arr arguments)).bind Completed.check

theorem verdict_of_succeeded (arguments : List Json) {ending : Ending}
    (well : ending.succeeded = true) :
    ∃ process, ending = .completed process ∧ ending.verdict arguments = .ok process := by
  cases ending with
  | completed process =>
    refine ⟨process, rfl, ?_⟩
    rw [Ending.succeeded] at well
    simp only [Ending.verdict, Ending.outcome, Except.bind, Completed.check, well]
    rfl
  | _ => simp [Ending.succeeded] at well

theorem verdict_of_failed (arguments : List Json) {ending : Ending}
    (bad : ending.succeeded = false) :
    ending.verdict arguments = .error (ending.failure arguments) := by
  cases ending with
  | completed process =>
    rw [Ending.succeeded] at bad
    simp only [Ending.verdict, Ending.outcome, Except.bind, Completed.check, bad, Ending.failure,
      Ending.reason]
    cases process.complaint <;> rfl
  | timedOut =>
    simp only [Ending.verdict, Ending.outcome, Ending.failure, Ending.reason]
    cases (Json.arr arguments).first <;> rfl
  | notStarted details =>
    simp only [Ending.verdict, Ending.outcome, Ending.failure, Ending.reason]
    cases describeStart details <;> rfl

theorem failure_of_wellFormed {arguments : List Json} {ending : Ending}
    (some : arguments ≠ []) (formed : ending.wellFormed = true) :
    ∃ cause, ending.failure arguments = .kubectl cause := by
  have sayable : ∃ cause, ending.reason arguments = .ok cause := by
    cases ending with
    | completed process =>
      simp only [Ending.wellFormed, Bool.and_eq_true] at formed
      have said : ∃ text, process.complaint = .ok text := by
        rw [Completed.complaint, Json.orElse]
        obtain missing | ⟨text, held⟩ := Json.null_or_str formed.2
        · exact ⟨_, by rw [missing]; rfl⟩
        · rw [held]
          cases (Json.str text).isPresent <;> exact ⟨_, rfl⟩
      obtain ⟨text, said⟩ := said
      exact ⟨.exited process.status text, by rw [Ending.reason, said]; rfl⟩
    | timedOut =>
      cases arguments with
      | nil => exact absurd rfl some
      | cons first rest => exact ⟨.timedOut first, rfl⟩
    | notStarted details =>
      rw [Ending.wellFormed] at formed
      cases said : describeStart details with
      | ok text => exact ⟨.cannotRun text, by rw [Ending.reason, said]; rfl⟩
      | error fault => simp [said, Except.isOk, Except.toBool] at formed
  obtain ⟨cause, said⟩ := sayable
  exact ⟨cause, by rw [Ending.failure, said]⟩

def Session.nextEnding (session : Session τ) : Ending :=
  (session.replies.headD {}).ending

/-- One world comes after another with these invocations in between, and with nothing else done to
EC2, the deadline or the sleeps. -/
structure Journaled (made : List Invocation) (before after : World τ) : Prop where
  invocations : after.services.kubectl.invocations.toList =
    before.services.kubectl.invocations.toList ++ made
  replies : after.services.kubectl.replies = before.services.kubectl.replies.drop made.length
  ec2 : after.services.ec2 = before.services.ec2
  deadline : after.context.deadline = before.context.deadline
  sleeps : after.context.sleeps = before.context.sleeps

theorem Journaled.refl (world : World τ) : Journaled [] world world :=
  ⟨by simp, rfl, rfl, rfl, rfl⟩

theorem Journaled.trans {first second : List Invocation} {before between after : World τ}
    (start : Journaled first before between) (rest : Journaled second between after) :
    Journaled (first ++ second) before after where
  invocations := by rw [rest.invocations, start.invocations, List.append_assoc]
  replies := by rw [rest.replies, start.replies, List.drop_drop, List.length_append]
  ec2 := rest.ec2.trans start.ec2
  deadline := rest.deadline.trans start.deadline
  sleeps := rest.sleeps.trans start.sleeps

variable [Time τ]

def afterCommand (context : Json) (command : Command) (world : World τ) : World τ :=
  (invoke (commandLine context command.arguments) true world).2

theorem execute_eq (context : Json) (command : Command) (world : World τ) :
    execute context command world =
      (world.services.kubectl.nextEnding.verdict command.arguments,
        afterCommand context command world) := by
  have ran : run context (.arr command.arguments) true world =
      (world.services.kubectl.nextEnding.outcome (.arr command.arguments),
        afterCommand context command world) := rfl
  rw [execute, ran, Ending.verdict]
  cases world.services.kubectl.nextEnding.outcome (.arr command.arguments) <;> rfl

theorem list_world (context : Json) (world : World τ) :
    (list context world).2 = afterCommand context .list world := by
  rw [list, execute_eq]
  cases Ending.verdict _ _ <;> rfl

theorem list_of_completed (context : Json) {process : Completed} {world : World τ}
    (ending : world.services.kubectl.nextEnding = .completed process)
    (well : process.succeeded = true) :
    (list context world).1 = readListing world.services.kubectl.levels process.stdout := by
  have succeeded : world.services.kubectl.nextEnding.succeeded = true := by
    rw [ending]
    exact well
  obtain ⟨other, same, verdict⟩ := verdict_of_succeeded Command.list.arguments succeeded
  cases ending.symm.trans same
  rw [list, execute_eq, verdict]

theorem readListing_of_list {context : Json} {volumes : List PersistentVolume} {world : World τ}
    (listed : (list context world).1 = .ok volumes) :
    ∀ process, world.services.kubectl.nextEnding = .completed process →
      process.succeeded = true →
      readListing world.services.kubectl.levels process.stdout = .ok volumes := by
  intro process ending well
  rw [← list_of_completed context ending well]
  exact listed

theorem list_of_printed {context : Json} {text : String} {world : World τ}
    {volumes : List PersistentVolume}
    (printed : world.services.kubectl.nextEnding = .completed { stdout := .str text })
    (read : readListing world.services.kubectl.levels (.str text) = .ok volumes) :
    (list context world).1 = .ok volumes := by
  rw [list_of_completed context printed rfl]
  exact read

theorem succeeded_of_list {context : Json} {world : World τ} {volumes : List PersistentVolume}
    (listed : (list context world).1 = .ok volumes) :
    world.services.kubectl.nextEnding.succeeded = true := by
  cases well : world.services.kubectl.nextEnding.succeeded with
  | true => rfl
  | false =>
    rw [list, execute_eq, verdict_of_failed _ well] at listed
    cases listed

theorem afterCommand_kubectl (context : Json) (command : Command) (world : World τ) :
    (afterCommand context command world).services.kubectl =
      { world.services.kubectl with
        replies := world.services.kubectl.replies.tail
        invocations := world.services.kubectl.invocations.push
          ⟨commandLine context command.arguments, true, world.services.kubectl.nextEnding⟩ } :=
  rfl

theorem afterCommand_context (context : Json) (command : Command) (world : World τ) :
    (afterCommand context command world).context =
      match (world.services.kubectl.replies.headD {}).cost with
      | some cost => world.context.advance (world.context.now + cost)
      | none => world.context :=
  rfl

theorem journaled_afterCommand (context : Json) (command : Command) (world : World τ) :
    Journaled [⟨commandLine context command.arguments, true, world.services.kubectl.nextEnding⟩]
      world (afterCommand context command world) := by
  constructor
  · rw [afterCommand_kubectl, Array.toList_push]
  · rw [afterCommand_kubectl, List.length_singleton, List.drop_one]
  · rfl
  · rw [afterCommand_context]
    split <;> simp
  · rw [afterCommand_context]
    split <;> simp

end VolumeReclaim.Kubectl
