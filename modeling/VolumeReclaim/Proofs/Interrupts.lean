import VolumeReclaim.Proofs.MutationSources
import VolumeReclaim.Proofs.NeverSpins

/-!
What an interrupt does to a run. Once the clock shows its time or a later one, the context is
cancelled, and it stays so. Nothing else comes of it: kubectl is asked to do the same as without it.
-/
set_option autoImplicit false

namespace VolumeReclaim

variable {τ : Type} [Time τ]

namespace Context

/-- What an interrupt at a given time, if at all, makes of a context. It is still to come, and ahead
of the clock, or it has cancelled the context at a time that is not before its own. -/
inductive Interrupted (interruptAt : Option τ) (context : Context τ) : Prop where
  | awaited (uncancelled : context.cancelledAt = none) (coming : context.pending = interruptAt)
      (early : context.due = false)
  | delivered {moment time : τ} (given : interruptAt = some moment) (reached : moment ≤ time)
      (cancelled : context.cancelledAt = some time) (quiet : context.pending = none)

section Interrupted

variable {interruptAt : Option τ} {context : Context τ}

/-- An interrupt that is still to come takes effect when the context is settled, if its time has
come. -/
theorem interrupted_settle (uncancelled : context.cancelledAt = none)
    (coming : context.pending = interruptAt) : context.settle.Interrupted interruptAt := by
  rw [settle_eq]
  cases early : context.due with
  | false => exact .awaited uncancelled coming early
  | true =>
    cases given : context.pending with
    | none => simp [due, given] at early
    | some moment =>
      have reached : moment ≤ context.now := by simpa [due, given] using early
      exact .delivered (coming.symm.trans given) reached (by simp [cancel, uncancelled]) rfl

theorem Interrupted.advance (interrupted : context.Interrupted interruptAt) (time : τ) :
    (context.advance time).Interrupted interruptAt := by
  cases interrupted with
  | awaited uncancelled coming => exact interrupted_settle uncancelled coming
  | delivered given reached cancelled quiet =>
    have settled : context.advance time = { context with now := time } := by
      simp [VolumeReclaim.Context.advance, settle, quiet]
    rw [settled]
    exact .delivered given reached cancelled quiet

theorem Interrupted.rested (interrupted : context.Interrupted interruptAt) (seconds : τ) :
    (context.rested seconds).Interrupted interruptAt := by
  have asleep : ∀ span, (context.withSleep span).Interrupted interruptAt := by
    intro span
    cases interrupted with
    | awaited uncancelled coming early => exact .awaited uncancelled coming early
    | delivered given reached cancelled quiet => exact .delivered given reached cancelled quiet
  obtain same | ⟨-, span, same⟩ | ⟨-, span, time, same⟩ := rested_cases context seconds
  · rwa [same]
  · rw [same]
    exact asleep span
  · rw [same]
    exact (asleep span).advance time

theorem interrupted_create (now : τ) (deadline interruptAt : Option τ) :
    (create now deadline interruptAt).Interrupted interruptAt :=
  interrupted_settle rfl rfl

end Interrupted

end Context

namespace Ec2

variable {interruptAt : Option τ}

theorem interrupted_await {finish : Option τ} {looks polls : Nat} {context : Context τ}
    {wait : Wait τ} (interrupted : context.Interrupted interruptAt)
    (awaited : await finish looks polls context = some wait) :
    wait.context.Interrupted interruptAt :=
  await_induction (·.Interrupted interruptAt) (·.context.Interrupted interruptAt)
    (fun _ _ _ before _ => before.advance _) (fun _ _ before _ => before.advance _)
    (fun _ before _ => before.advance _) looks polls interrupted awaited

theorem steady_interrupted (looks : Nat) :
    Poll.Steady (stillExists looks) fun world : World τ =>
      world.context.Interrupted interruptAt :=
  steady_context looks interrupted_await fun seconds interrupted => interrupted.rested seconds

end Ec2

theorem Kubectl.interrupted_afterCommand {interruptAt : Option τ} (context : Json)
    (command : Command) (world : World τ) (interrupted : world.context.Interrupted interruptAt) :
    (afterCommand context command world).context.Interrupted interruptAt := by
  rw [afterCommand_context]
  split
  · exact interrupted.advance _
  · exact interrupted

section Reclaiming

variable {run run' : Logged (World τ)}

theorem World.reclaim_keeps {P : World τ → Prop} (context : Json) (interval : τ) (limit : Nat)
    (commands : ∀ command world, P world → P (Kubectl.afterCommand context command world))
    (steady : Poll.Steady (Ec2.stillExists limit) P) (holds : P run.state) :
    P (World.reclaim context interval limit run).2.state := by
  cases held : run.state.context.deadline with
  | none =>
    rw [World.reclaim_of_missing interval limit held]
    exact holds
  | some deadline =>
    obtain ⟨remaining, after, discovered, -, ended⟩ :=
      World.reclaim_course context interval limit held
    have between : P after.state := discovered ▸ Discovery.releaseListed_keeps
      (Kubectl.respects_of_keeps context commands) holds
    rw [ended]
    exact Poll.sweeps_keeps steady interval limit remaining after between

/-- What kubectl is asked to do, and what it is left with, does not depend on the context of a run
with a deadline. -/
theorem World.reclaim_kubectl_congr (context : Json) (interval : τ) (limit : Nat)
    {deadline deadline' : τ} (held : run.state.context.deadline = some deadline)
    (held' : run'.state.context.deadline = some deadline')
    (services : run'.state.services = run.state.services) (lines : run'.lines = run.lines) :
    (World.reclaim context interval limit run').2.state.services.kubectl =
      (World.reclaim context interval limit run).2.state.services.kubectl := by
  obtain ⟨remaining, after, discovered, -, ended⟩ :=
    World.reclaim_course context interval limit held
  obtain ⟨remaining', after', discovered', -, ended'⟩ :=
    World.reclaim_course context interval limit held'
  have executes : ∀ command, Preserves (fun world world' : World τ =>
      world'.services = world.services) (Kubectl.execute context command) := by
    intro command world world' same
    rw [Kubectl.execute_eq, Kubectl.execute_eq, same]
    refine ⟨rfl, ?_⟩
    simp only [Kubectl.afterCommand, Kubectl.invoke, same]
  have respects := Kubectl.respects_of_executes executes fun world world' same => by rw [same]
  have together := (Discovery.agree_releaseListed respects ⟨services, lines⟩).run.state
  rw [discovered, discovered'] at together
  rw [ended, ended', Poll.sweeps_keeps (Ec2.steady_kubectl limit (· = after.state.services.kubectl))
      interval limit remaining after rfl,
    Poll.sweeps_keeps (Ec2.steady_kubectl limit (· = after'.state.services.kubectl))
      interval limit remaining' after' rfl, together]

end Reclaiming

end VolumeReclaim
