import Mathlib.Data.Set.Card
import Mathlib.Order.Bounds.Basic
import Mathlib.Order.Interval.Finset.Nat
import VolumeReclaim.Proofs.Punctual

/-!
The looks at the context while an answer is missing, with exact seconds. They come at fixed times
after the start of a request. The request is given up at the first of them at which it is still in
flight and the context has to stop. If there is none, it is answered at the moment it ends, after as
many looks as come before that moment.
-/
set_option autoImplicit false

namespace VolumeReclaim

namespace Context

/-- Whether a context that is not cancelled has to stop once its clock shows a time: its
cancellation or its deadline has come by then. -/
def haltsBy (context : Context Rat) (time : Rat) : Prop :=
  (∃ moment, context.pending = some moment ∧ moment ≤ time) ∨
    ∃ deadline, context.deadline = some deadline ∧ deadline ≤ time

section Halting

variable {context : Context Rat} {time : Rat}

theorem done_advance_iff (uncancelled : context.cancelled = false) :
    (context.advance time).done = true ↔ context.haltsBy time := by
  have expired : (context.advance time).expired = true ↔
      ∃ deadline, context.deadline = some deadline ∧ deadline ≤ time := by
    cases held : context.deadline with
    | none => simp [VolumeReclaim.Context.expired, held]
    | some deadline =>
      rw [expired_iff ((advance_deadline context time).trans held), advance_now]
      simp
  rw [done, Bool.or_eq_true, expired, advance_cancelled, uncancelled, Bool.false_or, due_iff]
  rfl

theorem advance_of_not_haltsBy (quiet : ¬ context.haltsBy time) :
    context.advance time = { context with now := time } := by
  have early : ¬ ({ context with now := time } : Context Rat).due = true := by
    rw [due_iff]
    exact fun coming => quiet (.inl coming)
  rw [advance, settle_eq, if_neg early]

end Halting

end Context

namespace Ec2

/-- The time of a look at the context after the start of a request. -/
def lookTime (start : Rat) (count : Nat) : Rat :=
  start + count * lookInterval

/-- Whether a request that ends at a given time, if ever, is still in flight at another one. -/
def InFlight (finish : Option Rat) (time : Rat) : Prop :=
  ∀ moment, finish = some moment → time < moment

noncomputable def looksBefore (start moment : Rat) : Nat :=
  {count : Nat | 1 ≤ count ∧ lookTime start count < moment}.ncard

/-- The looks at which a request is still in flight and its context has to stop. -/
def halts (context : Context Rat) (finish : Option Rat) : Set Nat :=
  {count | 1 ≤ count ∧ InFlight finish (lookTime context.now count) ∧
    context.haltsBy (lookTime context.now count)}

section Grid

variable {start moment : Rat}

theorem lookTime_zero (start : Rat) : lookTime start 0 = start := by
  simp [lookTime]

theorem lookTime_succ (start : Rat) (count : Nat) :
    lookTime start (count + 1) = lookTime start count + lookInterval := by
  rw [lookTime, lookTime, Nat.cast_add, Nat.cast_one]
  ring

theorem lookTime_mono (start : Rat) {earlier later : Nat} (ordered : earlier ≤ later) :
    lookTime start earlier ≤ lookTime start later := by
  have counts : (earlier : Rat) ≤ later := Nat.cast_le.mpr ordered
  have spans := mul_le_mul_of_nonneg_right counts lookInterval_pos.le
  rw [lookTime, lookTime]
  linarith

theorem lookTime_lt_iff_lt (start moment : Rat) (count : Nat) :
    lookTime start count < moment ↔ count < intervalsUntil moment lookInterval start := by
  rw [← not_le, ← not_le, intervalsUntil_le_iff lookInterval_pos, lookTime]

theorem looksBefore_eq (start moment : Rat) :
    looksBefore start moment = intervalsUntil moment lookInterval start - 1 := by
  have interval : {count : Nat | 1 ≤ count ∧ lookTime start count < moment} =
      ↑(Finset.Ico 1 (intervalsUntil moment lookInterval start)) := by
    ext count
    rw [Finset.coe_Ico, Set.mem_Ico, Set.mem_ofPred_eq, lookTime_lt_iff_lt]
  rw [looksBefore, interval, Set.ncard_coe_finset, Nat.card_Ico]

theorem lookTime_lt_iff (start moment : Rat) {count : Nat} (positive : 1 ≤ count) :
    lookTime start count < moment ↔ count ≤ looksBefore start moment := by
  rw [lookTime_lt_iff_lt, looksBefore_eq]
  omega

theorem inFlight_some : InFlight (some moment) start ↔ start < moment := by
  simp [InFlight]

theorem inFlight_none : InFlight none start :=
  nofun

theorem overBy_of_inFlight {finish : Option Rat} {limit : Rat} (flying : InFlight finish limit) :
    overBy finish limit = none := by
  cases finish with
  | none => rfl
  | some moment => exact if_neg (not_le.mpr (inFlight_some.mp flying))

theorem overBy_of_le {limit : Rat} (ended : moment ≤ limit) :
    overBy (some moment) limit = some moment :=
  if_pos ended

end Grid

section Waiting

variable {context : Context Rat} {finish : Option Rat} {looks : Nat}

/-- The wait goes on past looks at which the request is in flight and the context need not stop. -/
theorem await_skip (uncancelled : context.cancelled = false) (skipped : Nat) (looks polls : Nat)
    (passes : ∀ count, 1 ≤ count → count ≤ skipped →
      InFlight finish (lookTime context.now count) ∧
        ¬ context.haltsBy (lookTime context.now count)) :
    await finish (looks + skipped) polls context =
      await finish looks (polls + skipped)
        { context with now := lookTime context.now skipped } := by
  induction skipped generalizing looks with
  | zero => rw [lookTime_zero, Nat.add_zero, Nat.add_zero]
  | succ skipped ih =>
    obtain ⟨flying, quiet⟩ := passes (skipped + 1) (by omega) le_rfl
    have sofar := ih (looks + 1) fun count positive within => passes count positive (by omega)
    have time : lookTime context.now skipped + lookInterval =
        lookTime context.now (skipped + 1) := (lookTime_succ _ _).symm
    have still : ({ context with now := lookTime context.now skipped } : Context Rat).advance
        (lookTime context.now (skipped + 1)) =
          { context with now := lookTime context.now (skipped + 1) } :=
      Context.advance_of_not_haltsBy quiet
    have open_ : ¬ (context.advance (lookTime context.now (skipped + 1))).done = true := by
      rwa [Context.done_advance_iff uncancelled]
    rw [Context.advance_of_not_haltsBy quiet] at open_
    calc
      await finish (looks + (skipped + 1)) polls context
        = await finish (looks + 1) (polls + skipped)
            { context with now := lookTime context.now skipped } := by
          rw [← sofar]
          congr 1
          omega
      _ = _ := by
          rw [await_succ, look]
          simp only [time, overBy_of_inFlight flying, still, if_neg open_]
          rfl

theorem await_of_look {polls : Nat} {wait : Wait Rat} (looks : Nat)
    (ended : ∀ later, look finish polls context later = some wait) :
    await finish looks polls context = some wait := by
  cases looks with
  | zero => rw [await_zero, ended]
  | succ looks => rw [await_succ, ended]

theorem await_givenUp (uncancelled : context.cancelled = false) {count : Nat}
    (first : IsLeast (halts context finish) count) (enough : count ≤ looks + 1) :
    await finish looks 0 context =
      some ⟨false, count, context.advance (lookTime context.now count)⟩ := by
  obtain ⟨⟨positive, flying, halted⟩, least⟩ := first
  obtain ⟨before, rfl⟩ := Nat.exists_eq_add_of_le' positive
  have passes : ∀ earlier, 1 ≤ earlier → earlier ≤ before →
      InFlight finish (lookTime context.now earlier) ∧
        ¬ context.haltsBy (lookTime context.now earlier) := by
    intro earlier positive within
    have flies : InFlight finish (lookTime context.now earlier) := fun moment ends =>
      (lookTime_mono context.now (by omega)).trans_lt (flying moment ends)
    refine ⟨flies, fun halts => ?_⟩
    have no_earlier := least ⟨positive, flies, halts⟩
    omega
  obtain ⟨spare, rfl⟩ := Nat.exists_eq_add_of_le' (show before ≤ looks by omega)
  rw [await_skip uncancelled before spare 0 passes, Nat.zero_add]
  apply await_of_look
  intro later
  have time : lookTime context.now before + lookInterval = lookTime context.now (before + 1) :=
    (lookTime_succ _ _).symm
  have stop : (context.advance (lookTime context.now (before + 1))).done = true :=
    (Context.done_advance_iff uncancelled).mpr halted
  rw [look]
  simp only [time, overBy_of_inFlight flying]
  exact if_pos stop

/-- A request whose context is never found halted while it is in flight is answered when it ends. -/
theorem await_answered (uncancelled : context.cancelled = false) {moment : Rat}
    (undisturbed : halts context (some moment) = ∅)
    (enough : looksBefore context.now moment ≤ looks) :
    await (some moment) looks 0 context =
      some ⟨true, looksBefore context.now moment, context.advance (max context.now moment)⟩ := by
  have passes : ∀ count, 1 ≤ count → count ≤ looksBefore context.now moment →
      InFlight (some moment) (lookTime context.now count) ∧
        ¬ context.haltsBy (lookTime context.now count) := by
    intro count positive within
    have flies := inFlight_some.mpr ((lookTime_lt_iff context.now moment positive).mpr within)
    refine ⟨flies, fun halted => ?_⟩
    have member : count ∈ halts context (some moment) := ⟨positive, flies, halted⟩
    rw [undisturbed] at member
    exact member
  have landed : moment ≤ lookTime context.now (looksBefore context.now moment + 1) := by
    have beyond := lookTime_lt_iff context.now moment
      (Nat.le_add_left 1 (looksBefore context.now moment))
    exact not_lt.mp fun early => absurd (beyond.mp early) (by omega)
  have latest : Time.greater (lookTime context.now (looksBefore context.now moment)) moment =
      max context.now moment := by
    generalize counted : looksBefore context.now moment = count at passes
    cases count with
    | zero =>
      rw [lookTime_zero, Time.greater, max_def_lt]
    | succ count =>
      have early := inFlight_some.mp (passes (count + 1) (by omega) le_rfl).1
      have begun := lookTime_mono context.now (Nat.zero_le (count + 1))
      rw [lookTime_zero] at begun
      rw [Time.greater, if_pos early, max_eq_right (begun.trans early.le)]
  obtain ⟨spare, rfl⟩ := Nat.exists_eq_add_of_le' enough
  rw [await_skip uncancelled _ spare 0 passes, Nat.zero_add]
  apply await_of_look
  intro later
  rw [look]
  simp only [← lookTime_succ, overBy_of_le landed, latest]
  rfl

theorem await_endless (uncancelled : context.cancelled = false)
    (undisturbed : halts context none = ∅) (looks : Nat) : await none looks 0 context = none := by
  have quiet : ∀ count, 1 ≤ count → ¬ context.haltsBy (lookTime context.now count) := by
    intro count positive halted
    have member : count ∈ halts context none := ⟨positive, inFlight_none, halted⟩
    rw [undisturbed] at member
    exact member
  have passes : ∀ count, 1 ≤ count → count ≤ looks →
      InFlight none (lookTime context.now count) ∧
        ¬ context.haltsBy (lookTime context.now count) :=
    fun count positive _ => ⟨inFlight_none, quiet count positive⟩
  have skipped := await_skip uncancelled looks 0 0 passes
  have open_ : ¬ (context.advance (lookTime context.now (looks + 1))).done = true := by
    rw [Context.done_advance_iff uncancelled]
    exact quiet (looks + 1) (by omega)
  rw [Nat.zero_add] at skipped
  rw [skipped, await_zero, look]
  simp only [← lookTime_succ, overBy_of_inFlight inFlight_none]
  exact if_neg open_

end Waiting

/-- How a question to EC2 ends. It is refused in a context that has to stop. Otherwise its request
is given up at the first look that finds it in flight with a context that has to stop, and its
answer is not read. Without such a look the request is answered when it ends, once, and what comes
of it is its answer, whether or not the context has to stop by then. A request that never ends in a
context that never has to stop is waited for without an end. -/
structure EndsAtRightLook (session : Session Rat) (context : Context Rat) (volumeId : Json)
    (reply : Reply Rat) (left : Script (Reply Rat)) : Prop where
  refused : context.done = true → ∀ limit, session.ask limit context volumeId =
    (.error (.contextDone "context done before calling EC2"), context, session)
  givenUp : context.done = false → ∀ count,
    IsLeast (halts context (reply.finish context.now)) count →
    ∀ limit, count ≤ limit + 1 → session.ask limit context volumeId =
      (.error (.contextDone "context done while waiting for EC2"),
        context.advance (lookTime context.now count),
        ⟨left, session.requests.push
          ⟨volumeId, context, count, .givenUp, lookTime context.now count⟩⟩)
  answered : context.done = false → halts context (reply.finish context.now) = ∅ →
    ∀ moment, reply.finish context.now = some moment →
    ∀ limit, looksBefore context.now moment ≤ limit → session.ask limit context volumeId =
      (.ok reply.answer, context.advance (max context.now moment),
        ⟨left, session.requests.push ⟨volumeId, context, looksBefore context.now moment,
          .answered reply.answer, max context.now moment⟩⟩)
  endless : context.done = false → halts context (reply.finish context.now) = ∅ →
    reply.finish context.now = none →
    ∀ limit, (session.ask limit context volumeId).1 = .error .turnLimit

/-- Every question ends at the right look. -/
theorem ask_ends_at_right_look (session : Session Rat) (context : Context Rat) (volumeId : Json) :
    EndsAtRightLook session context volumeId (session.nextReply volumeId)
      (session.script.take volumeId).2 where
  refused halted limit := ask_refused halted
  givenUp open_ count first limit enough := by
    have uncancelled := (Context.not_done_iff.mp open_).1
    rw [ask_waited open_ (await_givenUp uncancelled first enough)]
    simp [Wait.request]
  answered open_ undisturbed moment ends limit enough := by
    have uncancelled := (Context.not_done_iff.mp open_).1
    rw [ends] at undisturbed
    have awaited := await_answered uncancelled undisturbed enough
    rw [← ends] at awaited
    rw [ask_waited open_ awaited]
    simp [Wait.request]
  endless open_ undisturbed never limit := by
    have uncancelled := (Context.not_done_iff.mp open_).1
    rw [never] at undisturbed
    have awaited := await_endless uncancelled undisturbed limit
    rw [← never] at awaited
    rw [ask_spent open_ awaited]

end Ec2

end VolumeReclaim
