import VolumeReclaim.Time

/-!
The context of a run: a clock, an optional deadline, and a cancellation that may be still to come.
A run asks it before every request and sleeps on it, so that neither outlasts the deadline or the
cancellation.
-/
set_option autoImplicit false

namespace VolumeReclaim

structure Context (τ : Type) where
  now : τ
  /-- The time at which the run is going to be cancelled, while that is still to come. -/
  pending : Option τ
  deadline : Option τ
  cancelledAt : Option τ
  sleeps : Array τ

namespace Context

variable {τ : Type} [Time τ]

def cancelled (context : Context τ) : Bool :=
  context.cancelledAt.isSome

/-- Cancels the run. A second cancellation changes nothing. -/
def cancel (context : Context τ) : Context τ :=
  { context with cancelledAt := context.cancelledAt <|> some context.now }

def settle (context : Context τ) : Context τ :=
  match context.pending with
  | some moment => if moment ≤ context.now then { context with pending := none }.cancel else context
  | none => context

def advance (context : Context τ) (time : τ) : Context τ :=
  { context with now := time }.settle

def create (now : τ) (deadline pending : Option τ) : Context τ :=
  settle { now, pending, deadline, cancelledAt := none, sleeps := #[] }

def lasting (now seconds : τ) (pending : Option τ) : Context τ :=
  create now (some (now + seconds)) pending

def remaining (context : Context τ) : Option τ :=
  context.deadline.map fun deadline => Time.greater 0.0 (deadline - context.now)

def expired (context : Context τ) : Bool :=
  match context.deadline with
  | some deadline => deadline ≤ context.now
  | none => false

def done (context : Context τ) : Bool :=
  context.cancelled || context.expired

/-- Sleeps, not at all if the run is cancelled, and no longer than until it is. -/
def sleep (context : Context τ) (span : τ) : Context τ :=
  let context := { context with sleeps := context.sleeps.push span }
  if context.cancelled then context
  else
    let wake := context.now + span
    match context.pending with
    | some moment =>
      if context.now < moment ∧ moment ≤ wake then context.advance moment else context.advance wake
    | none => context.advance wake

def affordable (context : Context τ) (span : τ) : τ :=
  match context.remaining with
  | some left => Time.lesser span left
  | none => span

/-- The context after a rest of some seconds, or until the deadline or the cancellation if that
comes first. -/
def rested (context : Context τ) (seconds : τ) : Context τ :=
  let span := context.affordable seconds
  if 0.0 < span then context.sleep span else context

/-- Rests, and answers whether the run has to stop then. -/
def wait (context : Context τ) (seconds : τ) : Bool × Context τ :=
  let context := context.rested seconds
  (context.done, context)

end Context

inductive Context.Step (τ : Type) where
  | advance (span : τ)
  | setClock (time : τ)
  | cancel
  | wait (seconds : τ)

def Context.step {τ : Type} [Time τ] (context : Context τ) : Context.Step τ → Context τ
  | .advance span => context.advance (context.now + span)
  | .setClock time => context.advance time
  | .cancel => context.cancel
  | .wait seconds => (context.wait seconds).2

end VolumeReclaim
