import Mathlib.Data.List.Chain
import VolumeReclaim.Proofs.Clock
import VolumeReclaim.Proofs.SweepSteps

/-!
The sweeps of a wait one by one, each with the run it starts from and the run it leaves. A sweep is
followed by the next one through the sleep between them, and all sleeps of a wait are of that kind.
-/
set_option autoImplicit false

namespace VolumeReclaim

namespace Poll

/-- A sweep of a wait: the volumes it goes over, the run it starts from, the volumes it keeps unless
a failure escapes from it, and the run it leaves. -/
structure Round (τ σ : Type) where
  remaining : List Json
  before : Logged (Timed τ σ)
  outcome : Except Failure (List Json)
  after : Logged (Timed τ σ)

variable {τ σ : Type} [Time τ]

def rounds (check : Checker τ σ) (interval : τ) :
    (limit : Nat) → List Json → Logged (Timed τ σ) → List (Round τ σ)
  | 0, _, _ => []
  | limit + 1, remaining, run =>
    if remaining.isEmpty || run.state.context.done then []
    else
      match sweep check remaining run with
      | (.error failure, after) => [⟨remaining, run, .error failure, after⟩]
      | (.ok kept, after) =>
        ⟨remaining, run, .ok kept, after⟩ ::
          rounds check interval limit kept (pause interval kept after)

/-- The span slept after a sweep, if there is a sleep after it. -/
def Round.rest (interval : τ) (round : Round τ σ) : Option τ :=
  match round.outcome with
  | .ok kept => if kept.isEmpty then none else round.after.state.context.rest interval
  | .error _ => none

theorem pause_sleeps (interval : τ) (kept : List Json) (run : Logged (Timed τ σ)) :
    (pause interval kept run).state.context.sleeps.toList =
      run.state.context.sleeps.toList ++
        (if kept.isEmpty then none else run.state.context.rest interval).toList := by
  unfold pause
  split
  · simp
  · exact Context.rested_sleeps run.state.context interval

section Rounds

variable {check : Checker τ σ} {interval : τ} {limit : Nat} {remaining : List Json}
  {run : Logged (Timed τ σ)}

theorem rounds_nil : rounds check interval limit [] run = [] := by
  cases limit <;> rfl

theorem rounds_done (done : run.state.context.done = true) :
    rounds check interval limit remaining run = [] := by
  cases limit with
  | zero => rfl
  | succ limit => simp [rounds, done]

theorem rounds_error {failure : Failure} {after : Logged (Timed τ σ)} (some : remaining ≠ [])
    (open_ : run.state.context.done = false)
    (swept : sweep check remaining run = (.error failure, after)) :
    rounds check interval (limit + 1) remaining run =
      [⟨remaining, run, .error failure, after⟩] := by
  simp [rounds, some, open_, swept]

theorem rounds_next {kept : List Json} {after : Logged (Timed τ σ)} (some : remaining ≠ [])
    (open_ : run.state.context.done = false)
    (swept : sweep check remaining run = (.ok kept, after)) :
    rounds check interval (limit + 1) remaining run =
      ⟨remaining, run, .ok kept, after⟩ ::
        rounds check interval limit kept (pause interval kept after) := by
  simp [rounds, some, open_, swept]

theorem started_of_rounds {round : Round τ σ} {later : List (Round τ σ)}
    (course : rounds check interval limit remaining run = round :: later) :
    remaining ≠ [] ∧ run.state.context.done = false ∧ round.before = run := by
  have some : remaining ≠ [] := by
    intro none
    rw [none, rounds_nil] at course
    cases course
  have open_ : run.state.context.done = false := by
    apply Bool.eq_false_iff.mpr
    intro done
    rw [rounds_done done] at course
    cases course
  refine ⟨some, open_, ?_⟩
  cases limit with
  | zero => cases course
  | succ limit =>
    obtain ⟨outcome, swept⟩ : ∃ outcome, (sweep check remaining run).1 = outcome := ⟨_, rfl⟩
    cases outcome with
    | error failure =>
      rw [rounds_error some open_ (Prod.ext swept rfl)] at course
      cases course
      rfl
    | ok kept =>
      rw [rounds_next some open_ (Prod.ext swept rfl)] at course
      cases course
      rfl

/-- What is true of a wait without a sweep, of one whose only sweep fails, and of one that goes on
after a sweep whenever it is true of the rest, is true of all sweeps of every wait. -/
theorem rounds_induction (check : Checker τ σ) (interval : τ)
    {motive : Nat → List Json → Logged (Timed τ σ) → List (Round τ σ) → Prop}
    (none : ∀ limit remaining run, motive limit remaining run [])
    (error : ∀ limit remaining run failure after, remaining ≠ [] →
      run.state.context.done = false → sweep check remaining run = (.error failure, after) →
      motive (limit + 1) remaining run [⟨remaining, run, .error failure, after⟩])
    (next : ∀ limit remaining run kept after, remaining ≠ [] →
      run.state.context.done = false → sweep check remaining run = (.ok kept, after) →
      motive limit kept (pause interval kept after)
        (rounds check interval limit kept (pause interval kept after)) →
      motive (limit + 1) remaining run (⟨remaining, run, .ok kept, after⟩ ::
        rounds check interval limit kept (pause interval kept after)))
    (limit : Nat) (remaining : List Json) (run : Logged (Timed τ σ)) :
    motive limit remaining run (rounds check interval limit remaining run) := by
  induction limit generalizing remaining run with
  | zero => exact none 0 remaining run
  | succ limit ih =>
    by_cases some : remaining = []
    · rw [some, rounds_nil]
      exact none (limit + 1) [] run
    · cases halted : run.state.context.done with
      | true =>
        rw [rounds_done halted]
        exact none (limit + 1) remaining run
      | false =>
        obtain ⟨outcome, swept⟩ : ∃ outcome, (sweep check remaining run).1 = outcome := ⟨_, rfl⟩
        cases outcome with
        | error failure =>
          rw [rounds_error some halted (Prod.ext swept rfl)]
          exact error limit remaining run failure _ some halted (Prod.ext swept rfl)
        | ok kept =>
          rw [rounds_next some halted (Prod.ext swept rfl)]
          exact next limit remaining run kept _ some halted (Prod.ext swept rfl) (ih kept _)

theorem not_done_of_mem_rounds :
    ∀ round ∈ rounds check interval limit remaining run,
      round.before.state.context.done = false := by
  induction limit, remaining, run using rounds_induction check interval with
  | none => simp
  | error limit remaining run failure after some halted swept => simpa using halted
  | next limit remaining run kept after some halted swept ih =>
    exact List.forall_mem_cons.mpr ⟨halted, ih⟩

/-- Each sweep but the first starts where the sleep after the one before it ends, and goes over the
volumes that one kept. -/
theorem rounds_chain :
    (rounds check interval limit remaining run).IsChain fun earlier later =>
      ∃ kept, kept ≠ [] ∧ earlier.outcome = .ok kept ∧
        later.before = pause interval kept earlier.after := by
  induction limit, remaining, run using rounds_induction check interval with
  | none => exact List.isChain_nil
  | error => exact List.isChain_singleton _
  | next limit remaining run kept after some halted swept ih =>
    generalize course : rounds check interval limit kept (pause interval kept after) = later at ih ⊢
    cases later with
    | nil => exact List.isChain_singleton _
    | cons second rest =>
      obtain ⟨left, -, start⟩ := started_of_rounds course
      exact List.isChain_cons_cons.mpr ⟨⟨kept, left, rfl, start⟩, ih⟩

theorem rounds_keep {P : Timed τ σ → Prop} (steady : Steady check P) (holds : P run.state) :
    ∀ round ∈ rounds check interval limit remaining run,
      P round.before.state ∧ P round.after.state := by
  induction limit, remaining, run using rounds_induction check interval with
  | none => simp
  | error limit remaining run failure after some halted swept =>
    have kept := sweep_keeps steady.asks remaining run holds
    rw [swept] at kept
    simpa using ⟨holds, kept⟩
  | next limit remaining run kept after some halted swept ih =>
    have after_holds := sweep_keeps steady.asks remaining run holds
    rw [swept] at after_holds
    exact List.forall_mem_cons.mpr
      ⟨⟨holds, after_holds⟩, ih (pause_keeps steady interval kept after after_holds)⟩

theorem sweeps_sleeps
    (awake : ∀ id world, (check id world).2.context.sleeps = world.context.sleeps) :
    (sweeps check interval limit remaining run).2.state.context.sleeps.toList =
      run.state.context.sleeps.toList ++
        (rounds check interval limit remaining run).filterMap (Round.rest interval) := by
  have unslept : ∀ remaining run, (sweep check remaining run).2.state.context.sleeps =
      run.state.context.sleeps := by
    intro remaining run
    exact sweep_keeps (P := fun world => world.context.sleeps = run.state.context.sleeps)
      (fun id world same => (awake id world).trans same) remaining run rfl
  induction limit, remaining, run using sweeps_induction check interval with
  | nil => simp [rounds_nil]
  | done limit remaining run some halted => simp [rounds_done halted]
  | spent => simp [rounds]
  | error limit remaining run failure after some halted swept =>
    have same := unslept remaining run
    rw [swept] at same
    rw [rounds_error some halted swept, same]
    simp [Round.rest]
  | next limit remaining run kept after some halted swept ih =>
    have same := unslept remaining run
    rw [swept] at same
    rw [ih, pause_sleeps, rounds_next some halted swept, ← same, List.append_assoc]
    congr 1
    simp only [List.filterMap_cons, Round.rest]
    cases (if kept.isEmpty then none else after.state.context.rest interval) <;> rfl

end Rounds

end Poll

end VolumeReclaim
