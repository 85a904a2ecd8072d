import Mathlib.Order.WithBot
import VolumeReclaim.Proofs.LaterDeadline

/-!
A context step by step, with exact seconds. Its clock may be moved on, set, or slept on, and it may
be cancelled, in any order. A cancellation is never taken back, the deadline stays, and a context
that has to stop goes on having to as long as its clock is not set back. A sleep ends at the first
of three times: its own end, the deadline, and the cancellation that is still to come.
-/
set_option autoImplicit false

namespace VolumeReclaim.Context

def after {τ : Type} [Time τ] (context : Context τ) (steps : List (Step τ)) : Context τ :=
  steps.foldl step context

def Step.forward (context : Context Rat) : Step Rat → Prop
  | .advance span => 0 ≤ span
  | .setClock time => context.now ≤ time
  | .cancel | .wait _ => True

def Forward : Context Rat → List (Step Rat) → Prop
  | _, [] => True
  | context, step :: rest => step.forward context ∧ Forward (context.step step) rest

/-- A time as a bound; one that is missing is never reached. -/
def bound (time : Option Rat) : WithTop Rat :=
  time.elim ⊤ WithTop.some

section Invariants

variable {τ : Type} [Time τ] {context : Context τ}

theorem cancelled_advance (halted : context.cancelled = true) (time : τ) :
    (context.advance time).cancelled = true := by
  rw [advance_cancelled, halted, Bool.true_or]

theorem cancelled_rested (halted : context.cancelled = true) (seconds : τ) :
    (context.rested seconds).cancelled = true := by
  rw [cancelled, (rested_of_cancelled halted seconds).2]
  exact halted

theorem cancelled_step (halted : context.cancelled = true) (step : Step τ) :
    (context.step step).cancelled = true := by
  cases step with
  | advance span => exact cancelled_advance halted _
  | setClock time => exact cancelled_advance halted time
  | cancel => exact cancel_cancelled context
  | wait seconds => exact cancelled_rested halted seconds

theorem due_rested (settled : context.due = false) (seconds : τ) :
    (context.rested seconds).due = false := by
  obtain same | ⟨-, span, same⟩ | ⟨-, span, time, same⟩ := rested_cases context seconds
  · rw [same, settled]
  · rw [same]
    exact settled
  · rw [same]
    exact due_settle _

theorem due_step (settled : context.due = false) (step : Step τ) :
    (context.step step).due = false := by
  cases step with
  | advance span => exact due_settle _
  | setClock time => exact due_settle _
  | cancel => exact settled
  | wait seconds => exact due_rested settled seconds

theorem deadline_step (context : Context τ) (step : Step τ) :
    (context.step step).deadline = context.deadline := by
  cases step with
  | advance span => exact advance_deadline context _
  | setClock time => exact advance_deadline context time
  | cancel => rfl
  | wait seconds => exact rested_deadline context seconds

theorem after_append (context : Context τ) (earlier later : List (Step τ)) :
    context.after (earlier ++ later) = (context.after earlier).after later :=
  List.foldl_append

theorem after_keeps {P : Context τ → Prop}
    (kept : ∀ context step, P context → P (context.step step)) (steps : List (Step τ))
    (holds : P context) : P (context.after steps) := by
  induction steps generalizing context with
  | nil => exact holds
  | cons step rest ih => exact ih (kept context step holds)

end Invariants

section Sleeping

variable {context : Context Rat} {seconds span : Rat}

theorem pending_ahead (settled : context.due = false) {moment : Rat}
    (coming : context.pending = some moment) : context.now < moment := by
  rw [← not_le]
  intro reached
  rw [due_iff.mpr ⟨moment, coming, reached⟩] at settled
  cases settled

theorem affordable_eq (open_ : context.done = false) (positive : 0 < seconds) :
    0 < context.affordable seconds ∧
      ((context.now + context.affordable seconds : Rat) : WithTop Rat) =
        min ((context.now + seconds : Rat) : WithTop Rat) (bound context.deadline) := by
  cases held : context.deadline with
  | none =>
    have whole : context.affordable seconds = seconds := by simp [affordable, remaining, held]
    rw [whole]
    exact ⟨positive, by simp [bound]⟩
  | some deadline =>
    have ahead : context.now < deadline := by
      rw [← not_le, ← expired_iff held]
      exact Bool.eq_false_iff.mp (not_done_iff.mp open_).2
    have left : 0 < deadline - context.now := by linarith
    have cut : context.affordable seconds = min seconds (deadline - context.now) := by
      rw [affordable, remaining, held]
      simp only [Option.map_some, Time.greater, Time.lesser, zero_eq, if_pos left]
      split
      · next shorter => exact (min_eq_right shorter.le).symm
      · next longer => exact (min_eq_left (not_lt.mp longer)).symm
    have moved : context.now + min seconds (deadline - context.now) =
        min (context.now + seconds) deadline := by
      rw [← min_add_add_left, add_sub_cancel]
    rw [cut, moved]
    exact ⟨lt_min positive left, WithTop.coe_min _ _⟩

theorem sleep_now_eq (uncancelled : context.cancelled = false) (settled : context.due = false) :
    ((context.sleep span).now : WithTop Rat) =
      min ((context.now + span : Rat) : WithTop Rat) (bound context.pending) := by
  cases coming : context.pending with
  | none =>
    rw [sleep_of_undisturbed uncancelled (by simp [coming]), advance_now]
    exact (min_top_right _).symm
  | some moment =>
    have ahead := pending_ahead settled coming
    by_cases within : moment ≤ context.now + span
    · rw [sleep_of_interrupted uncancelled coming ahead within, advance_now]
      exact (min_eq_right (WithTop.coe_le_coe.mpr within)).symm
    · have calm : ∀ other, context.pending = some other →
          ¬ (context.now < other ∧ other ≤ context.now + span) := by
        rintro other also ⟨-, reached⟩
        rw [coming, Option.some.injEq] at also
        exact within (also ▸ reached)
      rw [sleep_of_undisturbed uncancelled calm, advance_now]
      exact (min_eq_left (WithTop.coe_le_coe.mpr (not_le.mp within).le)).symm

end Sleeping

/-- What a wait does. It does not move the clock of a context that has to stop, nor does a wait for
no time at all; any other one moves it to the first of its end, the deadline and the cancellation to
come. The context is cancelled afterwards if it was before or if that cancellation has been reached,
and the wait answers whether it is, or is past its deadline. -/
structure Waited (seconds : Rat) (before after : Context Rat) (answer : Bool) : Prop where
  still : before.done = true ∨ seconds ≤ 0 → after.now = before.now
  moved : before.done = false → 0 < seconds → (after.now : WithTop Rat) =
    min ((before.now + seconds : Rat) : WithTop Rat) (min (bound before.deadline)
      (bound before.pending))
  cancelled : after.cancelled = true ↔
    before.cancelled = true ∨ ∃ moment, before.pending = some moment ∧ moment ≤ after.now
  answer : answer = true ↔
    after.cancelled = true ∨ ∃ deadline, before.deadline = some deadline ∧ deadline ≤ after.now

section Waiting

variable {context : Context Rat}

theorem expired_iff_exists : context.expired = true ↔
    ∃ deadline, context.deadline = some deadline ∧ deadline ≤ context.now := by
  cases held : context.deadline with
  | none => simp [expired, held]
  | some deadline => simp [expired_iff held]

theorem rested_now_of_done (halted : context.done = true) (seconds : Rat) :
    (context.rested seconds).now = context.now := by
  rw [done, Bool.or_eq_true] at halted
  obtain cancelled | expired := halted
  · exact (rested_of_cancelled cancelled seconds).1
  · obtain ⟨deadline, held, passed⟩ := expired_iff_exists.mp expired
    rw [rested_of_passed held passed]

theorem rested_of_nonpos {seconds : Rat} (none : seconds ≤ 0) :
    context.rested seconds = context := by
  have short : context.affordable seconds ≤ 0 := by
    unfold affordable
    split
    · unfold Time.lesser
      split
      · next shorter => exact shorter.le.trans none
      · exact none
    · exact none
  apply rested_of_no_rest
  rw [rest, zero_eq]
  exact if_neg (not_lt.mpr short)

theorem rested_now_eq (settled : context.due = false) {seconds : Rat} (open_ : context.done = false)
    (positive : 0 < seconds) : ((context.rested seconds).now : WithTop Rat) =
      min ((context.now + seconds : Rat) : WithTop Rat) (min (bound context.deadline)
        (bound context.pending)) := by
  obtain ⟨some_left, until_deadline⟩ := affordable_eq open_ positive
  have slept : context.rested seconds = context.sleep (context.affordable seconds) := by
    rw [rested, zero_eq]
    exact if_pos some_left
  calc
    ((context.rested seconds).now : WithTop Rat)
      = min ((context.now + context.affordable seconds : Rat) : WithTop Rat)
          (bound context.pending) := by
        rw [slept, sleep_now_eq (not_done_iff.mp open_).1 settled]
    _ = _ := by rw [until_deadline, min_assoc]

theorem cancelled_rested_iff (settled : context.due = false) (seconds : Rat) :
    (context.rested seconds).cancelled = true ↔ context.cancelled = true ∨
      ∃ moment, context.pending = some moment ∧ moment ≤ (context.rested seconds).now := by
  obtain same | ⟨halted, span, same⟩ | ⟨open_, span, time, same⟩ := rested_cases context seconds
  · rw [same, ← due_iff, settled]
    simp
  · rw [same]
    exact ⟨fun _ => .inl halted, fun _ => halted⟩
  · have asleep : (context.withSleep span).cancelled = false := open_
    rw [same, advance_cancelled, asleep, Bool.false_or, due_iff, advance_now, open_]
    simp [withSleep]

theorem waited_wait (settled : context.due = false) (seconds : Rat) :
    Waited seconds context (context.wait seconds).2 (context.wait seconds).1 where
  still := by
    rintro (halted | none)
    · exact rested_now_of_done halted seconds
    · exact congrArg now (rested_of_nonpos none)
  moved := rested_now_eq settled
  cancelled := cancelled_rested_iff settled seconds
  answer := by
    dsimp only [wait]
    rw [done, Bool.or_eq_true, expired_iff_exists, rested_deadline]

theorem now_le_rested (settled : context.due = false) (seconds : Rat) :
    context.now ≤ (context.rested seconds).now := by
  by_cases idle : context.done = true ∨ seconds ≤ 0
  · exact ((waited_wait settled seconds).still idle).ge
  · push Not at idle
    obtain ⟨halted, positive⟩ := idle
    have open_ : context.done = false := Bool.eq_false_iff.mpr halted
    have moved := rested_now_eq settled open_ positive
    rw [← WithTop.coe_le_coe, moved]
    refine le_min ?_ (le_min ?_ ?_)
    · exact WithTop.coe_le_coe.mpr (by linarith)
    · cases held : context.deadline with
      | none => exact le_top
      | some deadline =>
        have ahead : ¬ deadline ≤ context.now := fun passed =>
          halted (done_of_expired ((expired_iff held).mpr passed))
        exact WithTop.coe_le_coe.mpr (not_le.mp ahead).le
    · cases coming : context.pending with
      | none => exact le_top
      | some moment => exact WithTop.coe_le_coe.mpr (pending_ahead settled coming).le

theorem now_le_step (settled : context.due = false) {step : Step Rat}
    (forward : step.forward context) : context.now ≤ (context.step step).now := by
  cases step with
  | advance span =>
    have later : (context.step (.advance span)).now = context.now + span := advance_now context _
    have positive : 0 ≤ span := forward
    linarith
  | setClock time =>
    have later : (context.step (.setClock time)).now = time := advance_now context time
    exact later.symm ▸ forward
  | cancel => exact le_refl context.now
  | wait seconds => exact now_le_rested settled seconds

/-- A context that has to stop goes on having to in every step that does not set the clock back. -/
theorem done_step (settled : context.due = false) {step : Step Rat} (forward : step.forward context)
    (halted : context.done = true) : (context.step step).done = true := by
  rw [done, Bool.or_eq_true] at halted ⊢
  obtain cancelled | expired := halted
  · exact .inl (cancelled_step cancelled step)
  · right
    obtain ⟨deadline, held, passed⟩ := expired_iff_exists.mp expired
    have later := now_le_step settled forward
    exact expired_iff_exists.mpr
      ⟨deadline, (deadline_step context step).trans held, passed.trans later⟩

theorem done_after (settled : context.due = false) {steps : List (Step Rat)}
    (forward : Forward context steps) (halted : context.done = true) :
    (context.after steps).done = true := by
  induction steps generalizing context with
  | nil => exact halted
  | cons step rest ih =>
    obtain ⟨first, others⟩ := forward
    exact ih (due_step settled step) others (done_step settled first halted)

end Waiting

/-- A context whose clock was moved to a time. It is cancelled if it was before or if the
cancellation to come has been reached. -/
structure Moved (time : Rat) (before after : Context Rat) : Prop where
  now : after.now = time
  cancelled : after.cancelled = true ↔
    before.cancelled = true ∨ ∃ moment, before.pending = some moment ∧ moment ≤ time

def Step.Makes (before after : Context Rat) : Step Rat → Prop
  | .advance span => Moved (before.now + span) before after
  | .setClock time => Moved time before after
  | .cancel => after.now = before.now ∧ after.cancelled = true
  | .wait seconds => after = (before.wait seconds).2

theorem moved_advance (context : Context Rat) (time : Rat) :
    Moved time context (context.advance time) where
  now := advance_now context time
  cancelled := by rw [advance_cancelled, Bool.or_eq_true, due_iff]

theorem makes_step (context : Context Rat) (step : Step Rat) :
    step.Makes context (context.step step) := by
  cases step with
  | advance span => exact moved_advance context _
  | setClock time => exact moved_advance context time
  | cancel => exact ⟨rfl, cancel_cancelled context⟩
  | wait seconds => rfl

/-- What is true of a context after any steps, however they come: a cancellation is not taken back,
one that is still to come is ahead of the clock, the deadline is what it was, the context has to
stop if it had to before and the clock was not set back since, and the next step does what it
should, be it a wait or any other one. -/
structure Orderly (deadline : Option Rat) (start : Context Rat) (steps : List (Step Rat)) :
    Prop where
  cancelled : ∀ earlier later, steps = earlier ++ later →
    (start.after earlier).cancelled = true → (start.after steps).cancelled = true
  pending : ∀ moment, (start.after steps).pending = some moment →
    (start.after steps).now < moment
  deadline : (start.after steps).deadline = deadline
  done : ∀ earlier later, steps = earlier ++ later → Forward (start.after earlier) later →
    (start.after earlier).done = true → (start.after steps).done = true
  step : ∀ step : Step Rat, step.Makes (start.after steps) ((start.after steps).step step)
  wait : ∀ seconds, Waited seconds (start.after steps) ((start.after steps).wait seconds).2
    ((start.after steps).wait seconds).1

/-- Every context that steps lead to from a fresh one is in order. -/
theorem orderly_after_create (now : Rat) (deadline pending : Option Rat) (steps : List (Step Rat)) :
    Orderly deadline (create now deadline pending) steps := by
  have settled : ∀ steps, ((create now deadline pending).after steps).due = false :=
    fun steps => after_keeps (P := fun context => context.due = false)
      (fun _ step settled => due_step settled step) steps (due_settle _)
  refine ⟨?cancelled, ?pending, ?deadline, ?done, makes_step _, waited_wait (settled steps)⟩
  case cancelled =>
    rintro earlier later rfl halted
    rw [after_append]
    exact after_keeps (P := fun context => context.cancelled = true)
      (fun _ step halted => cancelled_step halted step) later halted
  case pending => exact fun moment coming => pending_ahead (settled steps) coming
  case deadline =>
    refine after_keeps (P := fun context => context.deadline = deadline) ?_ steps
      (settle_deadline _)
    exact fun context step held => (deadline_step context step).trans held
  case done =>
    rintro earlier later rfl forward halted
    rw [after_append]
    exact done_after (settled earlier) forward halted

end VolumeReclaim.Context
