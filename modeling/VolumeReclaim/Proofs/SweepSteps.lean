import VolumeReclaim.Poll

/-!
One question of a sweep at a time. An answer either keeps the volume, drops it, cuts the sweep
short, or escapes from it; what holds of every question and every sleep holds of the whole wait.
-/
set_option autoImplicit false

namespace VolumeReclaim

theorem Timed.wait_snd {τ σ : Type} [Time τ] (world : Timed τ σ) (seconds : τ) :
    (world.wait seconds).2 = { world with context := world.context.rested seconds } :=
  rfl

namespace Poll

/-- Whether a failure escapes from a sweep. A failed query and a context that is done do not. -/
def escapes : Failure → Bool
  | .volumeQuery _ _ | .contextDone _ => false
  | _ => true

inductive Heard : Except Failure Bool → Prop where
  | present : Heard (.ok true)
  | gone : Heard (.ok false)
  | failed (volumeId : Json) (message : String) : Heard (.error (.volumeQuery volumeId message))
  | cut (message : String) : Heard (.error (.contextDone message))
  | stray (failure : Failure) (escaping : escapes failure = true) : Heard (.error failure)

theorem heard (answer : Except Failure Bool) : Heard answer := by
  cases answer with
  | ok present => cases present with
    | true => exact .present
    | false => exact .gone
  | error failure => cases failure with
    | volumeQuery volumeId message => exact .failed volumeId message
    | contextDone message => exact .cut message
    | _ => exact .stray _ rfl

theorem eq_ok_of_isOk {outcome : Except Failure Unit} (good : outcome.isOk = true) :
    outcome = .ok () := by
  cases outcome with
  | error failure => cases good
  | ok => rfl

def deletedText (id : Json) : String :=
  s!"AWS EBS volume {id.display} was deleted"

def failedText (id : Json) (message : String) : String :=
  s!"error when checking existence of AWS EBS volume {id.display}: {message}"

variable {τ σ : Type}

def asked (check : Checker τ σ) (id : Json) (run : Logged (Timed τ σ)) : Logged (Timed τ σ) :=
  { run with state := (check id run.state).2 }

section Sweep

variable {check : Checker τ σ} {id : Json} {rest : List Json} {run : Logged (Timed τ σ)}

theorem sweep_present (answer : (check id run.state).1 = .ok true) :
    sweep check (id :: rest) run = retain id (sweep check rest (asked check id run)) := by
  rw [sweep, Logged.perform]
  simp only [answer]
  rfl

theorem sweep_gone (answer : (check id run.state).1 = .ok false) :
    sweep check (id :: rest) run =
      sweep check rest ((asked check id run).note .debug (deletedText id)) := by
  rw [sweep, Logged.perform]
  simp only [answer]
  rfl

theorem sweep_failed {volumeId : Json} {message : String}
    (answer : (check id run.state).1 = .error (.volumeQuery volumeId message)) :
    sweep check (id :: rest) run = retain id
      (sweep check rest ((asked check id run).note .warning (failedText id message))) := by
  rw [sweep, Logged.perform]
  simp only [answer]
  rfl

theorem sweep_cut {message : String}
    (answer : (check id run.state).1 = .error (.contextDone message)) :
    sweep check (id :: rest) run = (.ok (id :: rest), asked check id run) := by
  rw [sweep, Logged.perform]
  simp only [answer]
  rfl

theorem sweep_stray {failure : Failure} (answer : (check id run.state).1 = .error failure)
    (escaping : escapes failure = true) :
    sweep check (id :: rest) run = (.error failure, asked check id run) := by
  rw [sweep, Logged.perform]
  simp only [answer]
  cases failure <;> first | rfl | simp [escapes] at escaping

end Sweep

theorem retain_eq_ok {S : Type} {volumeId : Json} {rest : Except Failure (List Json) × S}
    {kept : List Json} {after : S} (outcome : retain volumeId rest = (.ok kept, after)) :
    ∃ left, rest = (.ok left, after) ∧ kept = volumeId :: left := by
  obtain ⟨result, state⟩ := rest
  cases result with
  | error failure => cases outcome
  | ok left =>
    cases outcome
    exact ⟨left, rfl, rfl⟩

theorem retain_eq_error {S : Type} {volumeId : Json} {rest : Except Failure (List Json) × S}
    {failure : Failure} {after : S} (outcome : retain volumeId rest = (.error failure, after)) :
    rest = (.error failure, after) := by
  obtain ⟨result, state⟩ := rest
  cases result with
  | error other =>
    cases outcome
    rfl
  | ok left => cases outcome

variable [Time τ]

/-- A run after the sleep that follows a sweep, if volumes remain. -/
def pause (interval : τ) (kept : List Json) (run : Logged (Timed τ σ)) : Logged (Timed τ σ) :=
  if kept.isEmpty then run else (run.perform (·.wait interval)).2

theorem pause_of_some {interval : τ} {kept : List Json} {run : Logged (Timed τ σ)}
    (some : kept ≠ []) :
    pause interval kept run = { run with state := (run.state.wait interval).2 } := by
  unfold pause
  exact if_neg (by simpa using some)

section Sweeps

variable {check : Checker τ σ} {interval : τ} {limit : Nat} {remaining : List Json}
  {run : Logged (Timed τ σ)}

theorem sweeps_nil : sweeps check interval limit [] run = (.ok (), run) := by
  cases limit <;> rfl

theorem sweeps_done (some : remaining ≠ []) (done : run.state.context.done = true) :
    sweeps check interval limit remaining run =
      (.error (.ofRemaining remaining run.state.context.cancelled), run) := by
  cases remaining with
  | nil => exact absurd rfl some
  | cons id rest => cases limit <;> simp [sweeps, done]

theorem sweeps_spent (some : remaining ≠ []) (open_ : run.state.context.done = false) :
    sweeps check interval 0 remaining run = (.error .turnLimit, run) := by
  cases remaining with
  | nil => exact absurd rfl some
  | cons id rest => simp [sweeps, open_]

theorem sweeps_error {failure : Failure} {after : Logged (Timed τ σ)} (some : remaining ≠ [])
    (open_ : run.state.context.done = false)
    (swept : sweep check remaining run = (.error failure, after)) :
    sweeps check interval (limit + 1) remaining run = (.error failure, after) := by
  cases remaining with
  | nil => exact absurd rfl some
  | cons id rest => simp [sweeps, open_, swept]

theorem sweeps_next {kept : List Json} {after : Logged (Timed τ σ)} (some : remaining ≠ [])
    (open_ : run.state.context.done = false)
    (swept : sweep check remaining run = (.ok kept, after)) :
    sweeps check interval (limit + 1) remaining run =
      sweeps check interval limit kept (pause interval kept after) := by
  cases remaining with
  | nil => exact absurd rfl some
  | cons id rest => simp [sweeps, open_, swept, pause]

/-- What is true of a wait that is over before its first sweep or that fails in it, and is handed
back from the wait after that sweep, is true of every wait. -/
theorem sweeps_induction (check : Checker τ σ) (interval : τ)
    {motive : Nat → List Json → Logged (Timed τ σ) →
      Except Failure Unit × Logged (Timed τ σ) → Prop}
    (nil : ∀ limit run, motive limit [] run (.ok (), run))
    (done : ∀ limit remaining run, remaining ≠ [] → run.state.context.done = true →
      motive limit remaining run
        (.error (.ofRemaining remaining run.state.context.cancelled), run))
    (spent : ∀ remaining run, remaining ≠ [] → run.state.context.done = false →
      motive 0 remaining run (.error .turnLimit, run))
    (error : ∀ limit remaining run failure after, remaining ≠ [] →
      run.state.context.done = false → sweep check remaining run = (.error failure, after) →
      motive (limit + 1) remaining run (.error failure, after))
    (next : ∀ limit remaining run kept after, remaining ≠ [] →
      run.state.context.done = false → sweep check remaining run = (.ok kept, after) →
      motive limit kept (pause interval kept after)
        (sweeps check interval limit kept (pause interval kept after)) →
      motive (limit + 1) remaining run
        (sweeps check interval limit kept (pause interval kept after)))
    (limit : Nat) (remaining : List Json) (run : Logged (Timed τ σ)) :
    motive limit remaining run (sweeps check interval limit remaining run) := by
  induction limit generalizing remaining run with
  | zero =>
    by_cases some : remaining = []
    · rw [some, sweeps_nil]
      exact nil 0 run
    · cases halted : run.state.context.done with
      | true =>
        rw [sweeps_done some halted]
        exact done 0 remaining run some halted
      | false =>
        rw [sweeps_spent some halted]
        exact spent remaining run some halted
  | succ limit ih =>
    by_cases some : remaining = []
    · rw [some, sweeps_nil]
      exact nil (limit + 1) run
    · cases halted : run.state.context.done with
      | true =>
        rw [sweeps_done some halted]
        exact done (limit + 1) remaining run some halted
      | false =>
        obtain ⟨outcome, swept⟩ : ∃ outcome, (sweep check remaining run).1 = outcome := ⟨_, rfl⟩
        cases outcome with
        | error failure =>
          rw [sweeps_error some halted (Prod.ext swept rfl)]
          exact error limit remaining run failure _ some halted (Prod.ext swept rfl)
        | ok kept =>
          rw [sweeps_next some halted (Prod.ext swept rfl)]
          exact next limit remaining run kept _ some halted (Prod.ext swept rfl) (ih kept _)

end Sweeps

/-- Whatever is kept by every question and by every sleep. -/
structure Steady (check : Checker τ σ) (P : Timed τ σ → Prop) : Prop where
  asks : ∀ id world, P world → P (check id world).2
  waits : ∀ world seconds, P world → P (world.wait seconds).2

section Steady

variable {check : Checker τ σ} {P Q : Timed τ σ → Prop}

theorem Steady.and (first : Steady check P) (second : Steady check Q) :
    Steady check fun world => P world ∧ Q world where
  asks id world holds := ⟨first.asks id world holds.1, second.asks id world holds.2⟩
  waits world seconds holds :=
    ⟨first.waits world seconds holds.1, second.waits world seconds holds.2⟩

omit [Time τ] in
theorem sweep_keeps (asks : ∀ id world, P world → P (check id world).2) (ids : List Json)
    (run : Logged (Timed τ σ)) (holds : P run.state) : P (sweep check ids run).2.state := by
  induction ids generalizing run with
  | nil => exact holds
  | cons id rest ih =>
    have next := asks id run.state holds
    generalize answer : (check id run.state).1 = verdict
    cases heard verdict with
    | present =>
      rw [sweep_present answer]
      exact ih (asked check id run) next
    | gone =>
      rw [sweep_gone answer]
      exact ih ((asked check id run).note _ _) next
    | failed volumeId message =>
      rw [sweep_failed answer]
      exact ih ((asked check id run).note _ _) next
    | cut message =>
      rw [sweep_cut answer]
      exact next
    | stray failure escaping =>
      rw [sweep_stray answer escaping]
      exact next

omit [Time τ] in
theorem sweep_error (asks : ∀ id world, P world → P (check id world).2) {ids : List Json}
    (run : Logged (Timed τ σ)) {after : Logged (Timed τ σ)} {failure : Failure}
    (holds : P run.state) (failed : sweep check ids run = (.error failure, after)) :
    ∃ id world, P world ∧ check id world = (.error failure, after.state) ∧
      escapes failure = true := by
  induction ids generalizing run with
  | nil => cases failed
  | cons id rest ih =>
    have next := asks id run.state holds
    generalize answer : (check id run.state).1 = verdict at *
    cases heard verdict with
    | present =>
      rw [sweep_present answer] at failed
      exact ih (asked check id run) next (retain_eq_error failed)
    | gone =>
      rw [sweep_gone answer] at failed
      exact ih ((asked check id run).note _ _) next failed
    | failed volumeId message =>
      rw [sweep_failed answer] at failed
      exact ih ((asked check id run).note _ _) next (retain_eq_error failed)
    | cut message =>
      rw [sweep_cut answer] at failed
      cases failed
    | stray other escaping =>
      rw [sweep_stray answer escaping] at failed
      cases failed
      exact ⟨id, run.state, holds, Prod.ext answer rfl, escaping⟩

theorem pause_keeps (steady : Steady check P) (interval : τ) (kept : List Json)
    (run : Logged (Timed τ σ)) (holds : P run.state) : P (pause interval kept run).state := by
  unfold pause
  split
  · exact holds
  · exact steady.waits run.state interval holds

theorem sweeps_keeps (steady : Steady check P) (interval : τ) (limit : Nat)
    (remaining : List Json) (run : Logged (Timed τ σ)) (holds : P run.state) :
    P (sweeps check interval limit remaining run).2.state := by
  induction limit, remaining, run using sweeps_induction check interval with
  | nil => exact holds
  | done => exact holds
  | spent => exact holds
  | error limit remaining run failure after some halted swept =>
    have kept := sweep_keeps steady.asks remaining run holds
    rw [swept] at kept
    exact kept
  | next limit remaining run kept after some halted swept ih =>
    have swept_holds := sweep_keeps steady.asks remaining run holds
    rw [swept] at swept_holds
    exact ih (pause_keeps steady interval kept after swept_holds)

end Steady

end Poll

end VolumeReclaim
