import VolumeReclaim.Proofs.SweepSteps
import VolumeReclaim.Reclamation

/-!
Two runs in step. If the operations of a cluster give the same results in related states and leave
related states behind, so does a whole discovery, and it writes the same diary. A wait stays in step
with another one that ends well if it does so in every question and every sleep after which the
other one does not have to stop.
-/
set_option autoImplicit false

namespace VolumeReclaim

variable {S : Type} {R : S → S → Prop}

structure Paired (R : S → S → Prop) (run run' : Logged S) : Prop where
  state : R run.state run'.state
  lines : run'.lines = run.lines

theorem Paired.note {run run' : Logged S} (paired : Paired R run run') (level : Level)
    (text : String) : Paired R (run.note level text) (run'.note level text) :=
  ⟨paired.state, congrArg (·.push ⟨level, text⟩) paired.lines⟩

/-- Two parts of runs with the same outcome, which leave related runs behind. -/
structure Accord {α : Type} (R : Logged S → Logged S → Prop)
    (result result' : Except Failure α × Logged S) : Prop where
  outcome : result'.1 = result.1
  run : R result.2 result'.2

theorem Accord.cases {α : Type} {R : Logged S → Logged S → Prop}
    {result result' : Except Failure α × Logged S} (accord : Accord R result result') :
    (∃ failure after after', result = (.error failure, after) ∧
        result' = (.error failure, after') ∧ R after after') ∨
      ∃ value after after', result = (.ok value, after) ∧ result' = (.ok value, after') ∧
        R after after' := by
  obtain ⟨outcome, after⟩ := result
  obtain ⟨outcome', after'⟩ := result'
  obtain ⟨same, related⟩ := accord
  cases same
  cases outcome with
  | error failure => exact .inl ⟨failure, after, after', rfl, rfl, related⟩
  | ok value => exact .inr ⟨value, after, after', rfl, rfl, related⟩

/-- Two parts of runs with the same outcome, which end in related states with the same diary. -/
structure Agree {α : Type} (R : S → S → Prop)
    (result result' : Except Failure α × Logged S) : Prop where
  outcome : result'.1 = result.1
  run : Paired R result.2 result'.2

theorem Agree.cases {α : Type} {result result' : Except Failure α × Logged S}
    (agree : Agree R result result') :
    (∃ failure after after', result = (.error failure, after) ∧
        result' = (.error failure, after') ∧ Paired R after after') ∨
      ∃ value after after', result = (.ok value, after) ∧ result' = (.ok value, after') ∧
        Paired R after after' :=
  (Accord.mk agree.outcome agree.run).cases

/-- A step on states that gives the same result in related states and leaves related ones. -/
def Preserves {α : Type} (R : S → S → Prop) (action : S → Except Failure α × S) : Prop :=
  ∀ state state', R state state' →
    (action state').1 = (action state).1 ∧ R (action state).2 (action state').2

structure Cluster.Respects (R : S → S → Prop) (cluster : Cluster S) : Prop where
  lists : Preserves R cluster.list
  updates : ∀ volume, Preserves R (cluster.update volume)
  deletes : ∀ name, Preserves R (cluster.delete name)

theorem Kubectl.preserves_reading {τ α : Type} [Time τ] {R : World τ → World τ → Prop}
    {context : Json} {command : Command} (read : Nat → Completed → Except VolumeReclaim.Failure α)
    (preserves : Preserves R (execute context command))
    (alike : ∀ world world', R world world' →
      read world'.services.kubectl.levels = read world.services.kubectl.levels) :
    Preserves R fun world =>
      match execute context command world with
      | (.ok process, after) => (read world.services.kubectl.levels process, after)
      | (.error failure, after) => (.error failure, after) := by
  intro world world' related
  obtain ⟨same, after⟩ := preserves world world' related
  dsimp only
  rw [alike world world' related]
  generalize execute context command world = result at same after ⊢
  generalize execute context command world' = result' at same after ⊢
  obtain ⟨outcome, final⟩ := result
  obtain ⟨outcome', final'⟩ := result'
  cases same
  cases outcome with
  | error failure => exact ⟨rfl, after⟩
  | ok process => exact ⟨rfl, after⟩

theorem Kubectl.respects_of_executes {τ : Type} [Time τ] {R : World τ → World τ → Prop}
    {context : Json} (executes : ∀ command, Preserves R (execute context command))
    (levels : ∀ world world', R world world' →
      world'.services.kubectl.levels = world.services.kubectl.levels) :
    (cluster context).Respects R where
  lists := preserves_reading (fun levels process => readListing levels process.stdout)
    (executes .list) fun world world' related => by rw [levels world world' related]
  updates volume := preserves_reading (fun _ _ => .ok ()) (executes (.update volume))
    fun _ _ _ => rfl
  deletes name := preserves_reading (fun _ _ => .ok ()) (executes (.delete name))
    fun _ _ _ => rfl

namespace Discovery

variable {cluster : Cluster S} {run run' : Logged S}

theorem agree_attempt {α : Type} (step : Step) {action : S → Except Failure α × S}
    (preserves : Preserves R action) (paired : Paired R run run') :
    Agree R (attempt step action run) (attempt step action run') := by
  obtain ⟨same, related⟩ := preserves run.state run'.state paired.state
  exact ⟨congrArg (·.mapError step.failure) same, related, paired.lines⟩

theorem skip_paired (volume : PersistentVolume) (paired : Paired R run run') :
    (∃ fault, skip volume run = .error fault ∧ skip volume run' = .error fault) ∨
      ∃ after after', skip volume run = .ok after ∧ skip volume run' = .ok after' ∧
        Paired R after after' := by
  unfold skip
  cases volume.provisionedBy with
  | error fault => exact .inl ⟨fault, rfl, rfl⟩
  | ok plugin =>
    cases volume.provisioner with
    | error fault => exact .inl ⟨fault, rfl, rfl⟩
    | ok kind =>
      right
      cases kind with
      | unrecognized => exact ⟨_, _, rfl, rfl, paired.note .debug _⟩
      | csi => exact ⟨_, _, rfl, rfl, paired.note .warning _⟩
      | inTree => exact ⟨_, _, rfl, rfl, paired.note .warning _⟩

theorem agree_release (respects : cluster.Respects R) (volume : PersistentVolume)
    (paired : Paired R run run') :
    Agree R (release cluster volume run) (release cluster volume run') := by
  have updated := agree_attempt (.update volume.name)
    (respects.updates { volume with finalizers := .arr [] }) (paired.note .debug
      s!"updating Kubernetes Persistent Volume (setting finalizers to null) {volume.name.display}")
  unfold release
  dsimp only
  obtain ⟨failure, after, after', first, second, paired⟩ |
    ⟨done, after, after', first, second, paired⟩ := updated.cases
  · rw [first, second]
    exact ⟨rfl, paired⟩
  · rw [first, second]
    exact agree_attempt (.delete volume.name) (respects.deletes volume.name) (paired.note _ _)

theorem agree_releaseAll (respects : cluster.Respects R) (volumes : List PersistentVolume)
    (tracked : List Json) (paired : Paired R run run') :
    Agree R (releaseAll cluster volumes tracked run) (releaseAll cluster volumes tracked run') := by
  induction volumes generalizing tracked run run' with
  | nil => exact ⟨rfl, paired⟩
  | cons volume rest ih =>
    rw [releaseAll, releaseAll]
    cases volume.volumeId with
    | error fault => exact ⟨rfl, paired⟩
    | ok found =>
      cases found with
      | none =>
        dsimp only
        obtain ⟨fault, first, second⟩ | ⟨after, after', first, second, paired⟩ :=
          skip_paired volume paired
        · rw [first, second]
          exact ⟨rfl, paired⟩
        · rw [first, second]
          exact ih tracked paired
      | some id =>
        dsimp only
        by_cases key : id.isKey = true
        · rw [if_pos key, if_pos key]
          obtain ⟨failure, after, after', first, second, paired⟩ |
            ⟨done, after, after', first, second, paired⟩ :=
            (agree_release respects volume paired).cases
          · rw [first, second]
            exact ⟨rfl, paired⟩
          · rw [first, second]
            exact ih (Json.addKey tracked id) paired
        · rw [if_neg key, if_neg key]
          exact ⟨rfl, paired⟩

theorem agree_releaseListed (respects : cluster.Respects R) (paired : Paired R run run') :
    Agree R (releaseListed cluster run) (releaseListed cluster run') := by
  unfold releaseListed
  obtain ⟨failure, after, after', first, second, paired⟩ |
    ⟨volumes, after, after', first, second, paired⟩ :=
    (agree_attempt .list respects.lists paired).cases
  · rw [first, second]
    exact ⟨rfl, paired⟩
  · rw [first, second]
    dsimp only
    obtain ⟨failure, after, after', first, second, paired⟩ |
      ⟨ids, after, after', first, second, paired⟩ :=
      (agree_releaseAll respects volumes [] paired).cases
    · rw [first, second]
      exact ⟨rfl, paired⟩
    · rw [first, second]
      exact ⟨rfl, paired.note _ _⟩

end Discovery

namespace Poll

variable {τ σ : Type} [Time τ] {R : Timed τ σ → Timed τ σ → Prop} {check : Checker τ σ}

/-- A sweep after which some volumes remain and the context is done. -/
def CutShort (result : Except Failure (List Json) × Logged (Timed τ σ)) : Prop :=
  ∃ kept after, result = (.ok kept, after) ∧ kept ≠ [] ∧ after.state.context.done = true

theorem follows_retain (id : Json) {result result' : Except Failure (List Json) × Logged (Timed τ σ)}
    (follows : Agree R result result' ∨ CutShort result) :
    Agree R (retain id result) (retain id result') ∨ CutShort (retain id result) := by
  obtain agree | ⟨kept, after, rfl, -, halted⟩ := follows
  · exact .inl ⟨congrArg (·.map (id :: ·)) agree.outcome, agree.run⟩
  · exact .inr ⟨id :: kept, after, rfl, List.cons_ne_nil id kept, halted⟩

/-- A relation between two runs of which the second stays in step with the first until the first has
to stop. -/
structure Follows (R : Timed τ σ → Timed τ σ → Prop) (check : Checker τ σ) : Prop where
  asks : ∀ id world world', R world world' →
    ((check id world').1 = (check id world).1 ∧ R (check id world).2 (check id world').2) ∨
      ∃ message, (check id world).1 = .error (.contextDone message) ∧
        (check id world).2.context.done = true
  waits : ∀ seconds world world', R world world' →
    (world.wait seconds).2.context.done = false →
      R (world.wait seconds).2 (world'.wait seconds).2
  continues : ∀ world world', R world world' →
    world.context.done = false → world'.context.done = false
  stops : ∀ seconds (world : Timed τ σ),
    world.context.done = true → (world.wait seconds).2.context.done = true

theorem sweep_follows (follows : Follows R check) (ids : List Json)
    {run run' : Logged (Timed τ σ)} (paired : Paired R run run') :
    Agree R (sweep check ids run) (sweep check ids run') ∨ CutShort (sweep check ids run) := by
  induction ids generalizing run run' with
  | nil => exact .inl ⟨rfl, paired⟩
  | cons id rest ih =>
    obtain ⟨same, related⟩ | ⟨message, answer, halted⟩ :=
      follows.asks id run.state run'.state paired.state
    · have next : Paired R (asked check id run) (asked check id run') := ⟨related, paired.lines⟩
      generalize answer : (check id run.state).1 = verdict at same
      cases heard verdict with
      | present =>
        rw [sweep_present answer, sweep_present same]
        exact follows_retain id (ih next)
      | gone =>
        rw [sweep_gone answer, sweep_gone same]
        exact ih (next.note _ _)
      | failed volumeId message =>
        rw [sweep_failed answer, sweep_failed same]
        exact follows_retain id (ih (next.note _ _))
      | cut message =>
        rw [sweep_cut answer, sweep_cut same]
        exact .inl ⟨rfl, next⟩
      | stray failure escaping =>
        rw [sweep_stray answer escaping, sweep_stray same escaping]
        exact .inl ⟨rfl, next⟩
    · rw [sweep_cut answer]
      exact .inr ⟨id :: rest, asked check id run, rfl, List.cons_ne_nil id rest, halted⟩

theorem not_done_of_returns {interval : τ} {limit : Nat} {remaining : List Json}
    {run : Logged (Timed τ σ)} (some : remaining ≠ [])
    (returns : (sweeps check interval limit remaining run).1 = .ok ()) :
    run.state.context.done = false := by
  apply Bool.eq_false_iff.mpr
  intro halted
  rw [sweeps_done some halted] at returns
  cases returns

theorem sweeps_follows (follows : Follows R check) (interval : τ) (limit : Nat)
    (remaining : List Json) {run run' : Logged (Timed τ σ)} (paired : Paired R run run')
    (returns : (sweeps check interval limit remaining run).1 = .ok ()) :
    Agree R (sweeps check interval limit remaining run)
      (sweeps check interval limit remaining run') := by
  induction limit, remaining, run using sweeps_induction check interval generalizing run' with
  | nil limit run =>
    rw [sweeps_nil]
    exact ⟨rfl, paired⟩
  | done => cases returns
  | spent => cases returns
  | error => cases returns
  | next limit remaining run kept after some halted swept ih =>
    have halted' := follows.continues run.state run'.state paired.state halted
    obtain agree | ⟨kept', after', same, left, halted⟩ := sweep_follows follows remaining paired
    · rw [swept] at agree
      have swept' : sweep check remaining run' = (.ok kept, (sweep check remaining run').2) :=
        Prod.ext agree.outcome rfl
      rw [sweeps_next some halted' swept']
      apply ih _ returns
      by_cases none : kept = []
      · rw [none]
        exact agree.run
      · have open_ := not_done_of_returns none returns
        rw [pause_of_some none] at open_ ⊢
        rw [pause_of_some none]
        exact ⟨follows.waits interval _ _ agree.run.state open_, agree.run.lines⟩
    · rw [swept] at same
      cases same
      have open_ := not_done_of_returns left returns
      rw [pause_of_some left, follows.stops interval after.state halted] at open_
      cases open_

theorem untilGone_follows (follows : Follows R check) (interval : τ) (limit : Nat)
    (ids : List Json) {run run' : Logged (Timed τ σ)} (paired : Paired R run run')
    (returns : (untilGone check interval limit ids run).1 = .ok ()) :
    Agree R (untilGone check interval limit ids run) (untilGone check interval limit ids run') := by
  unfold untilGone at returns ⊢
  cases found : Json.distinct ids with
  | error fault =>
    rw [found] at returns
    cases returns
  | ok remaining =>
    rw [found] at returns
    exact sweeps_follows follows interval limit remaining paired returns

end Poll

end VolumeReclaim
