import VolumeReclaim.Proofs.SweepSteps

/-!
The questions of a wait. A recording checker keeps account of every question and its answer, and
changes nothing else: without its record, a wait has the same outcome and ends in the same run.
-/
set_option autoImplicit false

namespace VolumeReclaim.Poll

variable {τ σ : Type}

structure Question where
  volumeId : Json
  answer : Except Failure Bool

def Question.lines (question : Question) : List LogLine :=
  match question.answer with
  | .ok false => [⟨.debug, deletedText question.volumeId⟩]
  | .error (.volumeQuery _ message) => [⟨.warning, failedText question.volumeId message⟩]
  | _ => []

def Question.cut (question : Question) : Bool :=
  match question.answer with
  | .error (.contextDone _) => true
  | _ => false

def goneIds (questions : List Question) : List String :=
  questions.filterMap fun
    | ⟨.str id, .ok false⟩ => some id
    | _ => none

/-- A checker that keeps account of the questions put to it. -/
def recorded (check : Checker τ σ) : Checker τ (σ × List Question) := fun id world =>
  let (answer, after) := check id ⟨world.context, world.services.1⟩
  (answer, ⟨after.context, after.services, world.services.2 ++ [⟨id, answer⟩]⟩)

/-- A run before its first question, with an empty record. -/
def unasked (run : Logged (Timed τ σ)) : Logged (Timed τ (σ × List Question)) :=
  ⟨⟨run.state.context, run.state.services, []⟩, run.lines⟩

def unrecorded (run : Logged (Timed τ (σ × List Question))) : Logged (Timed τ σ) :=
  ⟨⟨run.state.context, run.state.services.1⟩, run.lines⟩

section Erasure

variable (check : Checker τ σ)

theorem sweep_recorded (ids : List Json) (run : Logged (Timed τ (σ × List Question))) :
    (sweep (recorded check) ids run).map id unrecorded = sweep check ids (unrecorded run) := by
  induction ids generalizing run with
  | nil => rfl
  | cons id rest ih =>
    generalize given : (check id (unrecorded run).state).1 = verdict
    have answer : (recorded check id run.state).1 = verdict := given
    have same : unrecorded (asked (recorded check) id run) = asked check id (unrecorded run) := rfl
    cases heard verdict with
    | present =>
      rw [sweep_present answer, sweep_present given, ← same]
      exact congrArg (retain id) (ih _)
    | gone =>
      rw [sweep_gone answer, sweep_gone given, ← same]
      exact ih _
    | failed volumeId message =>
      rw [sweep_failed answer, sweep_failed given, ← same]
      exact congrArg (retain id) (ih _)
    | cut message =>
      rw [sweep_cut answer, sweep_cut given, ← same]
      rfl
    | stray failure escaping =>
      rw [sweep_stray answer escaping, sweep_stray given escaping, ← same]
      rfl

variable [Time τ]

theorem sweeps_recorded (interval : τ) (limit : Nat) (remaining : List Json)
    (run : Logged (Timed τ (σ × List Question))) :
    (sweeps (recorded check) interval limit remaining run).map id unrecorded =
      sweeps check interval limit remaining (unrecorded run) := by
  induction limit, remaining, run using
      sweeps_induction (recorded check) interval with
  | nil => exact sweeps_nil.symm
  | done limit remaining run some halted =>
    have halted : (unrecorded run).state.context.done = true := halted
    rw [sweeps_done some halted]
    rfl
  | spent remaining run some halted =>
    have halted : (unrecorded run).state.context.done = false := halted
    rw [sweeps_spent some halted]
    rfl
  | error limit remaining run failure after some halted swept =>
    have halted : (unrecorded run).state.context.done = false := halted
    have plain : sweep check remaining (unrecorded run) = (.error failure, unrecorded after) := by
      rw [← sweep_recorded, swept]
      rfl
    rw [sweeps_error some halted plain]
    rfl
  | next limit remaining run kept after some halted swept ih =>
    have halted : (unrecorded run).state.context.done = false := halted
    have plain : sweep check remaining (unrecorded run) = (.ok kept, unrecorded after) := by
      rw [← sweep_recorded, swept]
      rfl
    have paused : unrecorded (pause interval kept after) =
        pause interval kept (unrecorded after) := by
      unfold pause
      split <;> rfl
    rw [ih, paused, sweeps_next some halted plain]

theorem untilGone_recorded (interval : τ) (limit : Nat) (ids : List Json)
    (run : Logged (Timed τ (σ × List Question))) :
    (untilGone (recorded check) interval limit ids run).map id unrecorded =
      untilGone check interval limit ids (unrecorded run) := by
  unfold untilGone
  cases Json.distinct ids with
  | error fault => rfl
  | ok remaining => exact sweeps_recorded check interval limit remaining run

end Erasure

/-- One run comes after another with these questions in between, each noted as it has to be. -/
structure Recorded (questions : List Question)
    (before after : Logged (Timed τ (σ × List Question))) : Prop where
  record : after.state.services.2 = before.state.services.2 ++ questions
  lines : after.lines.toList = before.lines.toList ++ questions.flatMap Question.lines

theorem Recorded.refl (run : Logged (Timed τ (σ × List Question))) : Recorded [] run run :=
  ⟨by simp, by simp⟩

theorem Recorded.trans {first second : List Question}
    {before between after : Logged (Timed τ (σ × List Question))}
    (start : Recorded first before between) (rest : Recorded second between after) :
    Recorded (first ++ second) before after where
  record := by rw [rest.record, start.record, List.append_assoc]
  lines := by rw [rest.lines, start.lines, List.flatMap_append, List.append_assoc]

theorem Steady.recorded [Time τ] {check : Checker τ σ} {P : Timed τ σ → Prop}
    (steady : Steady check P) :
    Steady (Poll.recorded check) fun world => P ⟨world.context, world.services.1⟩ where
  asks id world holds := steady.asks id ⟨world.context, world.services.1⟩ holds
  waits world seconds holds := steady.waits ⟨world.context, world.services.1⟩ seconds holds

theorem recorded_silent {check : Checker τ σ} {volumeId : Json} {verdict : Except Failure Bool}
    {run : Logged (Timed τ (σ × List Question))}
    (answer : (recorded check volumeId run.state).1 = verdict)
    (silent : Question.lines ⟨volumeId, verdict⟩ = []) :
    Recorded [⟨volumeId, verdict⟩] run (asked (recorded check) volumeId run) := by
  subst answer
  exact ⟨rfl, by simp [silent, asked]⟩

theorem recorded_noted {check : Checker τ σ} {volumeId : Json} {verdict : Except Failure Bool}
    {run : Logged (Timed τ (σ × List Question))} {level : Level} {text : String}
    (answer : (recorded check volumeId run.state).1 = verdict)
    (line : Question.lines ⟨volumeId, verdict⟩ = [⟨level, text⟩]) :
    Recorded [⟨volumeId, verdict⟩] run ((asked (recorded check) volumeId run).note level text) := by
  subst answer
  exact ⟨rfl, by simp [line, asked, Logged.note]⟩

theorem recorded_pause [Time τ] (interval : τ) (kept : List Json)
    (run : Logged (Timed τ (σ × List Question))) :
    Recorded [] run (pause interval kept run) := by
  unfold pause
  split
  · exact .refl run
  · exact ⟨by simp [Logged.perform, Timed.wait], by simp [Logged.perform]⟩

end VolumeReclaim.Poll
