import VolumeReclaim.Proofs.ReleaseSteps

/-!
The phases of a run. Without a deadline there is none. A discovery that fails is the last one, with
its failure as the run's; otherwise the wait for the EBS volumes decides, of which the run's outcome
and final state are those.
-/
set_option autoImplicit false

namespace VolumeReclaim

variable {τ : Type} [Time τ] {context : Json} (interval : τ) (limit : Nat) {run : Logged (World τ)}

theorem World.reclaim_of_missing (missing : run.state.context.deadline = none) :
    World.reclaim context interval limit run =
      (.error (.missingDeadline Failure.noDeadline), run) := by
  unfold World.reclaim VolumeReclaim.reclaim
  rw [missing]

theorem World.reclaim_of_unreleased {failure : Failure}
    (bounded : run.state.context.deadline ≠ none)
    (stopped : (Discovery.releaseListed (Kubectl.cluster context) run).1 = .error failure) :
    World.reclaim context interval limit run =
      (.error failure, (Discovery.releaseListed (Kubectl.cluster context) run).2) := by
  obtain ⟨deadline, held⟩ := Option.ne_none_iff_exists'.mp bounded
  unfold World.reclaim VolumeReclaim.reclaim
  rw [held]
  dsimp only
  generalize Discovery.releaseListed (Kubectl.cluster context) run = discovery at stopped ⊢
  obtain ⟨outcome, after⟩ := discovery
  cases stopped
  rfl

theorem World.reclaim_of_released {volumeIds : List Json}
    (bounded : run.state.context.deadline ≠ none)
    (released : (Discovery.releaseListed (Kubectl.cluster context) run).1 = .ok volumeIds) :
    (World.reclaim context interval limit run).1 =
        (Poll.untilGone (Ec2.stillExists limit) interval limit volumeIds
          (Discovery.releaseListed (Kubectl.cluster context) run).2).1 ∧
      (World.reclaim context interval limit run).2.state =
        (Poll.untilGone (Ec2.stillExists limit) interval limit volumeIds
          (Discovery.releaseListed (Kubectl.cluster context) run).2).2.state := by
  obtain ⟨deadline, held⟩ := Option.ne_none_iff_exists'.mp bounded
  unfold World.reclaim VolumeReclaim.reclaim
  rw [held]
  dsimp only
  generalize Discovery.releaseListed (Kubectl.cluster context) run = discovery at released ⊢
  obtain ⟨outcome, between⟩ := discovery
  cases released
  dsimp only
  generalize Poll.untilGone _ interval limit volumeIds between = wait
  obtain ⟨outcome, final⟩ := wait
  cases outcome with
  | error failure => exact ⟨rfl, rfl⟩
  | ok => exact ⟨rfl, rfl⟩

theorem World.reclaim_of_unlisted {failure : Failure} (bounded : run.state.context.deadline ≠ none)
    (unlisted : (Kubectl.list context run.state).1 = .error failure) :
    World.reclaim context interval limit run =
      (.error (Discovery.Step.list.failure failure),
        { run with state := Kubectl.afterCommand context .list run.state }) := by
  have stopped := Discovery.releaseListed_of_unlisted unlisted
  rw [World.reclaim_of_unreleased interval limit bounded (congrArg Prod.fst stopped), stopped]

end VolumeReclaim
