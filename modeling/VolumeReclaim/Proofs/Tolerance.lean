import VolumeReclaim.Proofs.FailedQuery
import VolumeReclaim.Proofs.ReleaseSteps

/-!
A failed query counts as a volume that is still there. If some answers of EC2 that report a volume
as present are replaced by failed queries that take as long, the run takes the same course: it makes
the same invocations, the same requests at the same times and the same sleeps, and ends alike. Only
its diary has a warning more for every such answer that was received.
-/
set_option autoImplicit false

namespace VolumeReclaim

namespace Poll

variable {τ σ : Type} [Time τ]

/-- A relation between runs that a wait keeps up: the contexts are the same, and a question has the
same outcome in both runs, unless it fails as a query in the second, which then notes that, where
the first finds the volume present. -/
structure Tolerates (R : Logged (Timed τ σ) → Logged (Timed τ σ) → Prop) (check : Checker τ σ) :
    Prop where
  contexts : ∀ {run run'}, R run run' → run'.state.context = run.state.context
  notes : ∀ {run run'} level text, R run run' → R (run.note level text) (run'.note level text)
  waits : ∀ {run run'} seconds, R run run' →
    R { run with state := (run.state.wait seconds).2 }
      { run' with state := (run'.state.wait seconds).2 }
  asks : ∀ {run run'} id, R run run' →
    ((check id run'.state).1 = (check id run.state).1 ∧
        R (asked check id run) (asked check id run')) ∨
      ∃ volumeId message, (check id run.state).1 = .ok true ∧
        (check id run'.state).1 = .error (.volumeQuery volumeId message) ∧
        R (asked check id run) ((asked check id run').note .warning (failedText id message))

section Tolerates

variable {R : Logged (Timed τ σ) → Logged (Timed τ σ) → Prop} {check : Checker τ σ}
  {run run' : Logged (Timed τ σ)}

omit [Time τ] in
theorem accord_retain (id : Json) {result result' : Except Failure (List Json) × Logged (Timed τ σ)}
    (accord : Accord R result result') : Accord R (retain id result) (retain id result') :=
  ⟨congrArg (·.map (id :: ·)) accord.outcome, accord.run⟩

theorem sweep_tolerates (tolerates : Tolerates R check) (ids : List Json) (related : R run run') :
    Accord R (sweep check ids run) (sweep check ids run') := by
  induction ids generalizing run run' with
  | nil => exact ⟨rfl, related⟩
  | cons id rest ih =>
    obtain ⟨same, next⟩ | ⟨volumeId, message, present, failed, next⟩ := tolerates.asks id related
    · generalize answer : (check id run.state).1 = verdict at same
      cases heard verdict with
      | present =>
        rw [sweep_present answer, sweep_present same]
        exact accord_retain id (ih next)
      | gone =>
        rw [sweep_gone answer, sweep_gone same]
        exact ih (tolerates.notes _ _ next)
      | failed volumeId message =>
        rw [sweep_failed answer, sweep_failed same]
        exact accord_retain id (ih (tolerates.notes _ _ next))
      | cut message =>
        rw [sweep_cut answer, sweep_cut same]
        exact ⟨rfl, next⟩
      | stray failure escaping =>
        rw [sweep_stray answer escaping, sweep_stray same escaping]
        exact ⟨rfl, next⟩
    · rw [sweep_present present, sweep_failed failed]
      exact accord_retain id (ih next)

theorem pause_tolerates (tolerates : Tolerates R check) (interval : τ) (kept : List Json)
    (related : R run run') : R (pause interval kept run) (pause interval kept run') := by
  unfold pause
  split
  · exact related
  · exact tolerates.waits interval related

theorem sweeps_tolerates (tolerates : Tolerates R check) (interval : τ) (limit : Nat)
    (remaining : List Json) (related : R run run') :
    Accord R (sweeps check interval limit remaining run)
      (sweeps check interval limit remaining run') := by
  induction limit, remaining, run using sweeps_induction check interval generalizing run' with
  | nil limit run =>
    rw [sweeps_nil]
    exact ⟨rfl, related⟩
  | done limit remaining run some halted =>
    have same := tolerates.contexts related
    rw [sweeps_done some (same ▸ halted), same]
    exact ⟨rfl, related⟩
  | spent remaining run some open_ =>
    rw [sweeps_spent some (tolerates.contexts related ▸ open_)]
    exact ⟨rfl, related⟩
  | error limit remaining run failure after some open_ swept =>
    have accord := sweep_tolerates tolerates remaining related
    rw [swept] at accord
    have swept' : sweep check remaining run' = (.error failure, (sweep check remaining run').2) :=
      Prod.ext accord.outcome rfl
    rw [sweeps_error some (tolerates.contexts related ▸ open_) swept']
    exact ⟨rfl, accord.run⟩
  | next limit remaining run kept after some open_ swept ih =>
    have accord := sweep_tolerates tolerates remaining related
    rw [swept] at accord
    have swept' : sweep check remaining run' = (.ok kept, (sweep check remaining run').2) :=
      Prod.ext accord.outcome rfl
    rw [sweeps_next some (tolerates.contexts related ▸ open_) swept']
    exact ih (pause_tolerates tolerates interval kept accord.run)

theorem untilGone_tolerates (tolerates : Tolerates R check) (interval : τ) (limit : Nat)
    (ids : List Json) (related : R run run') :
    Accord R (untilGone check interval limit ids run)
      (untilGone check interval limit ids run') := by
  unfold untilGone
  cases Json.distinct ids with
  | error fault => exact ⟨rfl, related⟩
  | ok remaining => exact sweeps_tolerates tolerates interval limit remaining related

end Tolerates

end Poll

inductive Interleaved : Array LogLine → List LogLine → Array LogLine → Prop where
  | start (lines : Array LogLine) : Interleaved lines [] lines
  | both {lines lines' : Array LogLine} {added : List LogLine} (line : LogLine) :
    Interleaved lines added lines' → Interleaved (lines.push line) added (lines'.push line)
  | added {lines lines' : Array LogLine} {added : List LogLine} (line : LogLine) :
    Interleaved lines added lines' → Interleaved lines (added ++ [line]) (lines'.push line)

variable {τ : Type} [Time τ]

/-- Two runs in step, where the diary of the second has a warning more for every answer received
that is a failed query in the place of a present volume. -/
def Tolerated (run run' : Logged (World τ)) : Prop :=
  ∃ warnings, Ec2.InStep warnings run.state run'.state ∧
    Interleaved run.lines warnings run'.lines

theorem Tolerated.note {run run' : Logged (World τ)} (tolerated : Tolerated run run')
    (level : Level) (text : String) : Tolerated (run.note level text) (run'.note level text) := by
  obtain ⟨warnings, inStep, diary⟩ := tolerated
  exact ⟨warnings, inStep, diary.both ⟨level, text⟩⟩

theorem tolerates_tolerated (looks : Nat) :
    Poll.Tolerates (Tolerated (τ := τ)) (Ec2.stillExists looks) where
  contexts := fun ⟨_, inStep, _⟩ => inStep.context
  notes level text tolerated := tolerated.note level text
  waits := by
    rintro run run' seconds ⟨warnings, inStep, diary⟩
    refine ⟨warnings, ⟨?_, inStep.kubectl, inStep.script, inStep.requests⟩, diary⟩
    exact congrArg (Context.rested · seconds) inStep.context
  asks := by
    rintro run run' id ⟨warnings, inStep, diary⟩
    obtain ⟨same, next⟩ | ⟨message, present, failed, next⟩ :=
      Ec2.inStep_stillExists looks id inStep
    · exact .inl ⟨same, warnings, next, diary⟩
    · exact .inr ⟨id, message, present, failed, _, next, diary.added _⟩

theorem Kubectl.respects_inStep (context : Json) :
    (cluster context).Respects (Ec2.InStep (τ := τ) []) := by
  refine respects_of_executes ?_ fun world world' inStep => by rw [inStep.kubectl]
  intro command world world' inStep
  rw [execute_eq, execute_eq, inStep.kubectl]
  refine ⟨rfl, ?_, ?_, inStep.script, inStep.requests⟩
  · rw [afterCommand_context, afterCommand_context, inStep.kubectl, inStep.context]
  · rw [afterCommand_kubectl, afterCommand_kubectl, inStep.kubectl]

/-- Runs in worlds in step end alike: their discoveries are the same, and their waits tolerate each
other. -/
theorem accord_reclaim (context : Json) (interval : τ) (limit : Nat)
    {run run' : Logged (World τ)} (paired : Paired (Ec2.InStep []) run run') :
    Accord Tolerated (World.reclaim context interval limit run)
      (World.reclaim context interval limit run') := by
  have start : Tolerated run run' := ⟨[], paired.state, paired.lines ▸ .start run.lines⟩
  unfold World.reclaim reclaim
  rw [paired.state.context]
  cases run.state.context.deadline with
  | none => exact ⟨rfl, start⟩
  | some deadline =>
    dsimp only
    obtain ⟨failure, after, after', released, released', paired⟩ |
      ⟨ids, after, after', released, released', paired⟩ :=
      (Discovery.agree_releaseListed (Kubectl.respects_inStep context) paired).cases
    · rw [released, released']
      exact ⟨rfl, [], paired.state, paired.lines ▸ .start after.lines⟩
    · rw [released, released']
      have halfway : Tolerated after after' := ⟨[], paired.state, paired.lines ▸ .start after.lines⟩
      dsimp only
      obtain ⟨failure, final, final', ended, ended', tolerated⟩ |
        ⟨done, final, final', ended, ended', tolerated⟩ :=
        (Poll.untilGone_tolerates (tolerates_tolerated limit) interval limit ids halfway).cases
      · rw [ended, ended']
        exact ⟨rfl, tolerated⟩
      · rw [ended, ended']
        exact ⟨rfl, tolerated.note _ _⟩

/-- Two runs that took the same course: they ended alike, made the same invocations, called EC2
alike and at the same times, and made the same sleeps in the same context. What differs are answers
that are failed queries in the place of present volumes, and one warning for each of them in the
diary. -/
structure SameButWarned (ended ended' : Except Failure Unit × Logged (World τ)) : Prop where
  outcome : ended'.1 = ended.1
  invocations : ended'.2.state.services.kubectl.invocations =
    ended.2.state.services.kubectl.invocations
  calls : ended'.2.state.services.ec2.requests.map (·.call) =
    ended.2.state.services.ec2.requests.map (·.call)
  sleeps : ended'.2.state.context.sleeps = ended.2.state.context.sleeps
  context : ended'.2.state.context = ended.2.state.context
  warnings : ∃ warnings,
    Ec2.Echoed ended.2.state.services.ec2.requests ended'.2.state.services.ec2.requests warnings ∧
      Interleaved ended.2.lines warnings ended'.2.lines

/-- A run takes the same course if some of the replies to it that report a volume as present are
failed queries instead, with a warning for each of these that it received. -/
theorem reclaim_tolerates_failed_queries (context : Json) (interval : τ) (limit : Nat)
    (start : Context τ) (kubectl : Kubectl.Session τ) (script script' : Script (Ec2.Reply τ))
    (requests : Array (Ec2.Request τ)) (lines : Array LogLine)
    (disturbed : Ec2.Matched Ec2.Reply.Disturbed script script') :
    SameButWarned
      (World.reclaim context interval limit ⟨⟨start, ⟨kubectl, ⟨script, requests⟩⟩⟩, lines⟩)
      (World.reclaim context interval limit ⟨⟨start, ⟨kubectl, ⟨script', requests⟩⟩⟩, lines⟩) := by
  have paired : Paired (Ec2.InStep [])
      ⟨⟨start, ⟨kubectl, ⟨script, requests⟩⟩⟩, lines⟩
      ⟨⟨start, ⟨kubectl, ⟨script', requests⟩⟩⟩, lines⟩ :=
    ⟨⟨rfl, rfl, disturbed, .start requests⟩, rfl⟩
  obtain ⟨outcome, warnings, inStep, diary⟩ := accord_reclaim context interval limit paired
  exact ⟨outcome, congrArg (·.invocations) inStep.kubectl, inStep.requests.calls,
    congrArg (·.sleeps) inStep.context, inStep.context, warnings, inStep.requests, diary⟩

/-- Replies that report a volume in use twice before it is gone. -/
def reported : List (Ec2.Reply Rat) :=
  [⟨some 1, .volumes (.arr [.obj [("State", .str "in-use")]])⟩,
   ⟨some 4, .volumes (.arr [.obj [("State", .str "in-use")]])⟩, ⟨some 0, .volumes (.arr [])⟩]

/-- The same replies where EC2 is too busy at first and then cannot be trusted. -/
def unreported : List (Ec2.Reply Rat) :=
  [⟨some 1, .serviceError (.obj [("Error", .obj [("Code", .str "RequestLimitExceeded")])])
      (.str "DescribeVolumes")⟩,
   ⟨some 4, .clientFault (.other "SSL validation failed for https://ec2")⟩,
   ⟨some 0, .volumes (.arr [])⟩]

def asking (replies : List (Ec2.Reply Rat)) : Logged (World Rat) :=
  ⟨⟨.create 0 (some 60) none,
    ⟨{ replies := [⟨some 1, .completed { stdout := .str Discovery.sampleListing }⟩] },
      ⟨[("v", replies)], #[]⟩⟩⟩, #[]⟩

theorem reclaim_tolerates_failed_queries_throttled :
    Ec2.Matched Ec2.Reply.Disturbed [("v", reported)] [("v", unreported)] ∧
      (World.reclaim .null 2 50 (asking reported)).1 = .ok () ∧
      (World.reclaim .null 2 50 (asking unreported)).2.lines.size =
        (World.reclaim .null 2 50 (asking reported)).2.lines.size + 2 ∧
      SameButWarned (World.reclaim .null 2 50 (asking reported))
        (World.reclaim .null 2 50 (asking unreported)) := by
  have disturbed : Ec2.Matched Ec2.Reply.Disturbed [("v", reported)] [("v", unreported)] := by
    refine Ec2.matched_of_forall₂ (Ec2.Reply.Disturbed.same _) (.cons ⟨rfl, ?_⟩ .nil)
    exact .cons (.failed _ (by decide) (by decide)) (.cons (.failed _ (by decide) (by decide))
      (.cons (.same _) .nil))
  have returns : (World.reclaim .null 2 50 (asking reported)).1 = .ok () :=
    Poll.eq_ok_of_isOk (by decide +kernel)
  exact ⟨disturbed, returns, by decide +kernel, reclaim_tolerates_failed_queries .null 2 50 _ _
    [("v", reported)] [("v", unreported)] #[] #[] disturbed⟩

end VolumeReclaim
