import Mathlib.Algebra.Order.Ring.Rat
import Mathlib.Tactic.Linarith
import Mathlib.Tactic.NormNum
import VolumeReclaim.Proofs.Clock

/-!
A context with a later deadline and a cancellation that comes no earlier. With exact seconds it
follows the shorter one through every change of the clock, and through every sleep after which the
shorter one does not have to stop: such a sleep was cut down by neither of the two deadlines.
-/
set_option autoImplicit false

namespace VolumeReclaim.Context

/-- The same moment of two runs, one of which has a later deadline and is cancelled no earlier. -/
structure Outlasts (shorter longer : Context Rat) : Prop where
  now : longer.now = shorter.now
  sleeps : longer.sleeps = shorter.sleeps
  deadline : ∃ early late,
    shorter.deadline = some early ∧ longer.deadline = some late ∧ early ≤ late
  cancelled : longer.cancelled = true → shorter.cancelled = true
  pending : ∀ late, longer.pending = some late →
    shorter.cancelled = true ∨ ∃ early, shorter.pending = some early ∧ early ≤ late

section Sleeping

variable {context : Context Rat} {deadline seconds span : Rat}

theorem due_iff : context.due = true ↔ ∃ moment, context.pending = some moment ∧
    moment ≤ context.now := by
  cases held : context.pending with
  | none => simp [due, held]
  | some moment => simp [due, held]

theorem expired_iff (held : context.deadline = some deadline) :
    context.expired = true ↔ deadline ≤ context.now := by
  rw [expired, held]
  exact decide_eq_true_iff

theorem done_of_cancelled (halted : context.cancelled = true) : context.done = true := by
  rw [done, halted, Bool.true_or]

theorem done_of_expired (halted : context.expired = true) : context.done = true := by
  rw [done, halted, Bool.or_true]

theorem not_done_iff :
    context.done = false ↔ context.cancelled = false ∧ context.expired = false := by
  rw [done, Bool.or_eq_false_iff]

theorem zero_eq : (0.0 : Rat) = 0 := by
  norm_num

theorem rested_of_passed (held : context.deadline = some deadline)
    (passed : deadline ≤ context.now) : context.rested seconds = context := by
  have none_left : ¬ (0 : Rat) < deadline - context.now := by linarith
  have short : ¬ (0 : Rat) < context.affordable seconds := by
    rw [affordable, remaining, held]
    simp only [Option.map_some, Time.greater, zero_eq, if_neg none_left, Time.lesser]
    split
    · exact lt_irrefl 0
    · assumption
  unfold rested
  simp only [zero_eq, if_neg short]

theorem rested_of_cut (held : context.deadline = some deadline) (ahead : context.now < deadline)
    (long : deadline - context.now < seconds) :
    context.rested seconds = context.sleep (deadline - context.now) := by
  have some_left : (0 : Rat) < deadline - context.now := by linarith
  have span : context.affordable seconds = deadline - context.now := by
    rw [affordable, remaining, held]
    simp only [Option.map_some, Time.greater, zero_eq, if_pos some_left, Time.lesser, if_pos long]
  rw [rested, span]
  simp only [zero_eq, if_pos some_left]

theorem rested_of_fits (held : context.deadline = some deadline) (ahead : context.now < deadline)
    (fits : seconds ≤ deadline - context.now) :
    context.rested seconds = if 0 < seconds then context.sleep seconds else context := by
  have some_left : (0 : Rat) < deadline - context.now := by linarith
  have span : context.affordable seconds = seconds := by
    rw [affordable, remaining, held]
    simp only [Option.map_some, Time.greater, zero_eq, if_pos some_left, Time.lesser,
      if_neg (not_lt.mpr fits)]
  rw [rested, span]
  simp only [zero_eq]

theorem sleep_of_cancelled (halted : context.cancelled = true) :
    context.sleep span = context.withSleep span := by
  rw [sleep_eq, if_pos halted]

theorem sleep_of_interrupted {moment : Rat} (open_ : context.cancelled = false)
    (coming : context.pending = some moment) (ahead : context.now < moment)
    (within : moment ≤ context.now + span) :
    context.sleep span = (context.withSleep span).advance moment := by
  rw [sleep_eq, if_neg (Bool.eq_false_iff.mp open_), coming]
  exact if_pos ⟨ahead, within⟩

theorem sleep_of_undisturbed (open_ : context.cancelled = false)
    (calm : ∀ moment, context.pending = some moment →
      ¬ (context.now < moment ∧ moment ≤ context.now + span)) :
    context.sleep span = (context.withSleep span).advance (context.now + span) := by
  rw [sleep_eq, if_neg (Bool.eq_false_iff.mp open_)]
  cases coming : context.pending with
  | none => rfl
  | some moment => exact if_neg (calm moment coming)

theorem done_advance_of_due {moment time : Rat} (coming : context.pending = some moment)
    (reached : moment ≤ time) : (context.advance time).done = true := by
  apply done_of_cancelled
  rw [advance_cancelled]
  have due : ({ context with now := time } : Context Rat).due = true :=
    due_iff.mpr ⟨moment, coming, reached⟩
  rw [due, Bool.or_true]

theorem done_rested (halted : context.done = true) : (context.rested seconds).done = true := by
  rw [done, Bool.or_eq_true] at halted
  obtain cancelled | expired := halted
  · unfold rested
    dsimp only
    split
    · rw [sleep_of_cancelled cancelled]
      exact done_of_cancelled cancelled
    · exact done_of_cancelled cancelled
  · cases held : context.deadline with
    | none => simp [VolumeReclaim.Context.expired, held] at expired
    | some deadline =>
      rw [rested_of_passed held ((expired_iff held).mp expired)]
      exact done_of_expired expired

/-- A sleep that ends at the deadline, or at a cancellation before it, leaves a context that has to
stop. -/
theorem done_sleep_of_reaches (held : context.deadline = some deadline)
    (open_ : context.cancelled = false) (reaches : deadline ≤ context.now + span) :
    (context.sleep span).done = true := by
  by_cases calm : ∀ moment, context.pending = some moment →
      ¬ (context.now < moment ∧ moment ≤ context.now + span)
  · rw [sleep_of_undisturbed open_ calm]
    apply done_of_expired
    have same : ((context.withSleep span).advance (context.now + span)).deadline =
        some deadline := by
      rw [advance_deadline]
      exact held
    rw [expired_iff same, advance_now]
    exact reaches
  · push Not at calm
    obtain ⟨moment, coming, ahead, within⟩ := calm
    rw [sleep_of_interrupted open_ coming ahead within]
    exact done_advance_of_due coming le_rfl

theorem done_sleep_of_due {moment : Rat} (open_ : context.cancelled = false)
    (coming : context.pending = some moment) (reached : moment ≤ context.now + span) :
    (context.sleep span).done = true := by
  by_cases ahead : context.now < moment
  · rw [sleep_of_interrupted open_ coming ahead reached]
    exact done_advance_of_due coming le_rfl
  · have calm : ∀ other, context.pending = some other →
        ¬ (context.now < other ∧ other ≤ context.now + span) := by
      intro other also between
      rw [coming, Option.some.injEq] at also
      exact ahead (also ▸ between.1)
    rw [sleep_of_undisturbed open_ calm]
    exact done_advance_of_due coming reached

/-- A sleep after which a context does not have to stop was cut down neither by the deadline nor by
the cancellation. -/
theorem rested_of_not_done (held : context.deadline = some deadline)
    (open_ : (context.rested seconds).done = false) :
    context.cancelled = false ∧ context.now < deadline ∧ seconds ≤ deadline - context.now ∧
      (0 < seconds → ∀ moment, context.pending = some moment →
        context.now + seconds < moment) := by
  have before : context.done = false := by
    apply Bool.eq_false_iff.mpr
    intro halted
    rw [done_rested halted] at open_
    cases open_
  obtain ⟨uncancelled, unexpired⟩ := not_done_iff.mp before
  have ahead : context.now < deadline := by
    rw [← not_le]
    intro passed
    rw [(expired_iff held).mpr passed] at unexpired
    cases unexpired
  have fits : seconds ≤ deadline - context.now := by
    by_contra long
    rw [rested_of_cut held ahead (not_le.mp long),
      done_sleep_of_reaches held uncancelled (by linarith)] at open_
    cases open_
  refine ⟨uncancelled, ahead, fits, ?_⟩
  intro positive moment coming
  by_contra reached
  rw [rested_of_fits held ahead fits, if_pos positive,
    done_sleep_of_due uncancelled coming (not_lt.mp reached)] at open_
  cases open_

end Sleeping

namespace Outlasts

variable {shorter longer : Context Rat}

theorem not_cancelled (outlasts : Outlasts shorter longer) (open_ : shorter.cancelled = false) :
    longer.cancelled = false := by
  apply Bool.eq_false_iff.mpr
  intro halted
  rw [outlasts.cancelled halted] at open_
  cases open_

theorem not_done (outlasts : Outlasts shorter longer) (open_ : shorter.done = false) :
    longer.done = false := by
  obtain ⟨uncancelled, unexpired⟩ := not_done_iff.mp open_
  obtain ⟨early, late, first, second, later⟩ := outlasts.deadline
  apply not_done_iff.mpr
  constructor
  · exact outlasts.not_cancelled uncancelled
  · apply Bool.eq_false_iff.mpr
    intro halted
    have reached : early ≤ shorter.now := by
      calc
        early ≤ late := later
        _ ≤ longer.now := (expired_iff second).mp halted
        _ = shorter.now := outlasts.now
    rw [(expired_iff first).mpr reached] at unexpired
    cases unexpired

theorem advance (outlasts : Outlasts shorter longer) (time : Rat) :
    Outlasts (shorter.advance time) (longer.advance time) where
  now := by rw [advance_now, advance_now]
  sleeps := by rw [advance_sleeps, advance_sleeps, outlasts.sleeps]
  deadline := by
    rw [advance_deadline, advance_deadline]
    exact outlasts.deadline
  cancelled := by
    intro halted
    rw [advance_cancelled, Bool.or_eq_true] at halted ⊢
    obtain before | due := halted
    · exact .inl (outlasts.cancelled before)
    · obtain ⟨late, coming, reached⟩ := due_iff.mp due
      obtain halted | ⟨early, first, earlier⟩ := outlasts.pending late coming
      · exact .inl halted
      · exact .inr (due_iff.mpr ⟨early, first, earlier.trans reached⟩)
  pending := by
    intro late coming
    rw [advance_pending] at coming
    split at coming
    · cases coming
    · obtain halted | ⟨early, first, earlier⟩ := outlasts.pending late coming
      · left
        rw [advance_cancelled, halted, Bool.true_or]
      · by_cases due : ({ shorter with now := time } : Context Rat).due = true
        · left
          rw [advance_cancelled, due, Bool.or_true]
        · right
          refine ⟨early, ?_, earlier⟩
          rw [advance_pending, if_neg due]
          exact first

theorem withSleep (outlasts : Outlasts shorter longer) (span : Rat) :
    Outlasts (shorter.withSleep span) (longer.withSleep span) :=
  ⟨outlasts.now, congrArg (·.push span) outlasts.sleeps, outlasts.deadline, outlasts.cancelled,
    outlasts.pending⟩

/-- The longer run follows the shorter one through a sleep after which that does not have to
stop. -/
theorem rested (outlasts : Outlasts shorter longer) {seconds : Rat}
    (open_ : (shorter.rested seconds).done = false) :
    Outlasts (shorter.rested seconds) (longer.rested seconds) := by
  obtain ⟨early, late, first, second, later⟩ := outlasts.deadline
  obtain ⟨uncancelled, ahead, fits, calm⟩ := rested_of_not_done first open_
  have same := outlasts.now
  have ahead' : longer.now < late := by linarith
  have fits' : seconds ≤ late - longer.now := by linarith
  have uncancelled' := outlasts.not_cancelled uncancelled
  rw [rested_of_fits first ahead fits, rested_of_fits second ahead' fits']
  by_cases positive : 0 < seconds
  · have quiet : ∀ moment, shorter.pending = some moment →
        ¬ (shorter.now < moment ∧ moment ≤ shorter.now + seconds) := by
      intro moment coming between
      have beyond := calm positive moment coming
      linarith [between.2]
    have quiet' : ∀ moment, longer.pending = some moment →
        ¬ (longer.now < moment ∧ moment ≤ longer.now + seconds) := by
      intro moment coming between
      obtain halted | ⟨early, first, earlier⟩ := outlasts.pending moment coming
      · rw [halted] at uncancelled
        cases uncancelled
      · have beyond := calm positive early first
        linarith [between.2]
    rw [if_pos positive, if_pos positive, sleep_of_undisturbed uncancelled quiet,
      sleep_of_undisturbed uncancelled' quiet', same]
    exact (outlasts.withSleep seconds).advance (shorter.now + seconds)
  · rw [if_neg positive, if_neg positive]
    exact outlasts

end Outlasts

/-- Two fresh contexts that differ in a later deadline and in a cancellation that comes no earlier,
or not at all. -/
theorem outlasts_create (now : Rat) {early late : Rat} {pending pending' : Option Rat}
    (later : early ≤ late)
    (postponed : ∀ moment', pending' = some moment' →
      ∃ moment, pending = some moment ∧ moment ≤ moment') :
    Outlasts (create now (some early) pending) (create now (some late) pending') := by
  have fresh : Outlasts
      { now, pending, deadline := some early, cancelledAt := none, sleeps := #[] }
      { now, pending := pending', deadline := some late, cancelledAt := none, sleeps := #[] } :=
    ⟨rfl, rfl, ⟨early, late, rfl, rfl, later⟩, id,
      fun moment' coming => .inr (postponed moment' coming)⟩
  exact fresh.advance now

end VolumeReclaim.Context
