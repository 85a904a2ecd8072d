import VolumeReclaim.Context

/-!
What a change of the clock does to a context: it sets the time, lets a cancellation take effect once
it is due, and leaves the deadline and the sleeps alone. A wait either sleeps for a span that is not
nothing or leaves the context as it is.
-/
set_option autoImplicit false

namespace VolumeReclaim.Context

variable {τ : Type} [Time τ]

def due (context : Context τ) : Bool :=
  match context.pending with
  | some moment => moment ≤ context.now
  | none => false

theorem settle_eq (context : Context τ) :
    context.settle = if context.due then { context with pending := none }.cancel else context := by
  cases held : context.pending with
  | none => simp [settle, due, held]
  | some moment => simp [settle, due, held]

@[simp]
theorem settle_now (context : Context τ) : context.settle.now = context.now := by
  rw [settle_eq]
  split <;> rfl

@[simp]
theorem settle_deadline (context : Context τ) : context.settle.deadline = context.deadline := by
  rw [settle_eq]
  split <;> rfl

@[simp]
theorem settle_sleeps (context : Context τ) : context.settle.sleeps = context.sleeps := by
  rw [settle_eq]
  split <;> rfl

theorem settle_pending (context : Context τ) :
    context.settle.pending = if context.due then none else context.pending := by
  rw [settle_eq]
  split <;> rfl

omit [Time τ] in
@[simp]
theorem cancel_cancelled (context : Context τ) : context.cancel.cancelled = true := by
  cases held : context.cancelledAt <;> simp [cancel, cancelled, held]

theorem settle_cancelled (context : Context τ) :
    context.settle.cancelled = (context.cancelled || context.due) := by
  rw [settle_eq]
  cases context.due <;> simp

theorem due_settle (context : Context τ) : context.settle.due = false := by
  rw [settle_eq]
  split
  · rfl
  · next early => exact Bool.eq_false_iff.mpr early

@[simp]
theorem advance_now (context : Context τ) (time : τ) : (context.advance time).now = time := by
  simp [advance]

@[simp]
theorem advance_deadline (context : Context τ) (time : τ) :
    (context.advance time).deadline = context.deadline := by
  simp [advance]

@[simp]
theorem advance_sleeps (context : Context τ) (time : τ) :
    (context.advance time).sleeps = context.sleeps := by
  simp [advance]

theorem advance_cancelled (context : Context τ) (time : τ) :
    (context.advance time).cancelled = (context.cancelled || { context with now := time }.due) := by
  rw [advance, settle_cancelled]
  rfl

theorem advance_pending (context : Context τ) (time : τ) :
    (context.advance time).pending =
      if { context with now := time }.due then none else context.pending := by
  rw [advance, settle_pending]

def withSleep (context : Context τ) (span : τ) : Context τ :=
  { context with sleeps := context.sleeps.push span }

theorem sleep_eq (context : Context τ) (span : τ) :
    context.sleep span =
      if context.cancelled = true then context.withSleep span
      else
        match context.pending with
        | some moment =>
          if context.now < moment ∧ moment ≤ context.now + span then
            (context.withSleep span).advance moment
          else (context.withSleep span).advance (context.now + span)
        | none => (context.withSleep span).advance (context.now + span) :=
  rfl

/-- The span that a context sleeps when it waits for some seconds, if it sleeps at all. -/
def rest (context : Context τ) (seconds : τ) : Option τ :=
  let span := context.affordable seconds
  if 0.0 < span then some span else none

theorem rested_of_rest {context : Context τ} {seconds span : τ}
    (slept : context.rest seconds = some span) : context.rested seconds = context.sleep span := by
  dsimp only [rest] at slept
  split at slept
  · next positive =>
    cases slept
    exact if_pos positive
  · cases slept

theorem rested_of_no_rest {context : Context τ} {seconds : τ}
    (awake : context.rest seconds = none) : context.rested seconds = context := by
  dsimp only [rest] at awake
  split at awake
  · cases awake
  · next short => exact if_neg short

/-- What becomes of a context in a wait: it stays as it is, or its sleep is counted to no effect
since it is cancelled, or its clock is moved on. -/
theorem rested_cases (context : Context τ) (seconds : τ) :
    context.rested seconds = context ∨
      (context.cancelled = true ∧ ∃ span, context.rested seconds = context.withSleep span) ∨
      (context.cancelled = false ∧
        ∃ span time, context.rested seconds = (context.withSleep span).advance time) := by
  cases slept : context.rest seconds with
  | none => exact .inl (rested_of_no_rest slept)
  | some span =>
    right
    rw [rested_of_rest slept, sleep_eq]
    cases halted : context.cancelled with
    | true => exact .inl ⟨rfl, span, if_pos rfl⟩
    | false =>
      refine .inr ⟨rfl, span, ?_⟩
      rw [if_neg Bool.false_ne_true]
      split
      · split
        · exact ⟨_, rfl⟩
        · exact ⟨_, rfl⟩
      · exact ⟨_, rfl⟩

theorem rested_of_cancelled {context : Context τ} (halted : context.cancelled = true)
    (seconds : τ) :
    (context.rested seconds).now = context.now ∧
      (context.rested seconds).cancelledAt = context.cancelledAt := by
  obtain same | ⟨-, span, same⟩ | ⟨open_, -⟩ := rested_cases context seconds
  · rw [same]
    exact ⟨rfl, rfl⟩
  · rw [same]
    exact ⟨rfl, rfl⟩
  · rw [halted] at open_
    cases open_

theorem rest_positive {context : Context τ} {seconds span : τ}
    (slept : context.rest seconds = some span) : 0.0 < span := by
  dsimp only [rest] at slept
  split at slept
  · next positive =>
    cases slept
    exact positive
  · cases slept

@[simp]
theorem sleep_sleeps (context : Context τ) (span : τ) :
    (context.sleep span).sleeps = context.sleeps.push span := by
  rw [sleep_eq]
  repeat' split
  all_goals simp [withSleep]

@[simp]
theorem sleep_deadline (context : Context τ) (span : τ) :
    (context.sleep span).deadline = context.deadline := by
  rw [sleep_eq]
  repeat' split
  all_goals simp [withSleep]

@[simp]
theorem rested_deadline (context : Context τ) (seconds : τ) :
    (context.rested seconds).deadline = context.deadline := by
  cases slept : context.rest seconds with
  | none => rw [rested_of_no_rest slept]
  | some span => rw [rested_of_rest slept, sleep_deadline]

theorem rested_sleeps (context : Context τ) (seconds : τ) :
    (context.rested seconds).sleeps.toList =
      context.sleeps.toList ++ (context.rest seconds).toList := by
  cases slept : context.rest seconds with
  | none => simp [rested_of_no_rest slept]
  | some span => simp [rested_of_rest slept]

end VolumeReclaim.Context
