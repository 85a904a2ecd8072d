import VolumeReclaim.Proofs.AnswerWait
import VolumeReclaim.Proofs.LaterDeadline
import VolumeReclaim.Proofs.Lockstep
import VolumeReclaim.Proofs.ReleaseSteps

/-!
More time never hurts. A run that ends well ends just as well with a later deadline and with a
cancellation that comes no earlier, and it makes the same invocations, the same requests at the same
times and the same sleeps, and writes the same diary.
-/
set_option autoImplicit false

namespace VolumeReclaim

/-- All of a request but its context: the volume, when the request was started, how often its answer
was missing, how it ended and when. -/
def Ec2.Request.course {τ : Type} (request : Request τ) : Json × τ × Nat × Ending × τ :=
  (request.volumeId, request.started.now, request.polls, request.ending, request.ended)

/-- The same moment of two runs that did the same so far, one of which has more time. -/
structure World.Outlasts (shorter longer : World Rat) : Prop where
  context : shorter.context.Outlasts longer.context
  kubectl : longer.services.kubectl = shorter.services.kubectl
  script : longer.services.ec2.script = shorter.services.ec2.script
  requests : longer.services.ec2.requests.map (·.course) =
    shorter.services.ec2.requests.map (·.course)

namespace Kubectl

theorem preserves_execute (context : Json) (command : Command) :
    Preserves World.Outlasts (execute context command) := by
  intro shorter longer outlasts
  rw [execute_eq, execute_eq, outlasts.kubectl]
  refine ⟨rfl, ?_, ?_, outlasts.script, outlasts.requests⟩
  · rw [afterCommand_context, afterCommand_context, outlasts.kubectl, outlasts.context.now]
    cases (shorter.services.kubectl.replies.headD {}).cost with
    | none => exact outlasts.context
    | some cost => exact outlasts.context.advance (shorter.context.now + cost)
  · rw [afterCommand_kubectl, afterCommand_kubectl, outlasts.kubectl]

theorem respects_cluster (context : Json) : (cluster context).Respects World.Outlasts :=
  respects_of_executes (preserves_execute context) fun _ _ outlasts => by rw [outlasts.kubectl]

end Kubectl

namespace Ec2

/-- How two waits for the same answer compare: the longer one takes the course of the shorter one,
unless that is given up. -/
inductive Compared : Option (Wait Rat) → Option (Wait Rat) → Prop where
  | spent : Compared none none
  | answered (polls : Nat) {shorter longer : Context Rat} (outlasts : shorter.Outlasts longer) :
      Compared (some ⟨true, polls, shorter⟩) (some ⟨true, polls, longer⟩)
  | givenUp (polls : Nat) {shorter : Context Rat} (halted : shorter.done = true)
      (other : Option (Wait Rat)) : Compared (some ⟨false, polls, shorter⟩) other

section Waiting

variable {shorter longer : Context Rat}

theorem compared_look (finish : Option Rat) (polls : Nat) (outlasts : shorter.Outlasts longer)
    {later later' : Option (Wait Rat)} (rest : Compared later later') :
    Compared (look finish polls shorter later) (look finish polls longer later') := by
  unfold look
  rw [outlasts.now]
  cases overBy finish (shorter.now + lookInterval) with
  | some moment => exact .answered polls (outlasts.advance _)
  | none =>
    have next := outlasts.advance (shorter.now + lookInterval)
    dsimp only
    by_cases halted : (shorter.advance (shorter.now + lookInterval)).done = true
    · rw [if_pos halted]
      exact .givenUp (polls + 1) halted _
    · have open_ := next.not_done (Bool.eq_false_iff.mpr halted)
      rw [if_neg halted, if_neg (Bool.eq_false_iff.mp open_)]
      exact rest

theorem compared_await (finish : Option Rat) (looks polls : Nat)
    (outlasts : shorter.Outlasts longer) :
    Compared (await finish looks polls shorter) (await finish looks polls longer) := by
  induction looks generalizing polls shorter longer with
  | zero =>
    rw [await_zero, await_zero]
    exact compared_look finish polls outlasts .spent
  | succ looks ih =>
    rw [await_succ, await_succ, outlasts.now]
    exact compared_look finish polls outlasts (ih (polls + 1) (outlasts.advance _))

end Waiting

/-- A question takes the same course with more time, unless its run has to stop before it is
answered. -/
theorem follows_stillExists (limit : Nat) (volumeId : Json) {shorter longer : World Rat}
    (outlasts : shorter.Outlasts longer) :
    ((stillExists limit volumeId longer).1 = (stillExists limit volumeId shorter).1 ∧
        (stillExists limit volumeId shorter).2.Outlasts (stillExists limit volumeId longer).2) ∨
      ∃ message, (stillExists limit volumeId shorter).1 = .error (.contextDone message) ∧
        (stillExists limit volumeId shorter).2.context.done = true := by
  unfold stillExists volumeState Session.ask
  by_cases halted : shorter.context.done = true
  · right
    rw [if_pos halted]
    exact ⟨_, rfl, halted⟩
  · have open_ := outlasts.context.not_done (Bool.eq_false_iff.mpr halted)
    rw [if_neg halted, if_neg (Bool.eq_false_iff.mp open_), outlasts.script, outlasts.context.now]
    dsimp only
    generalize (shorter.services.ec2.script.take volumeId).1.getD .nothing = reply
    have course := compared_await (reply.duration.map (shorter.context.now + ·)) limit 0
      outlasts.context
    generalize await _ limit 0 shorter.context = wait at course ⊢
    generalize await _ limit 0 longer.context = wait' at course ⊢
    cases course with
    | spent =>
      exact .inl ⟨rfl, outlasts.context, outlasts.kubectl, rfl, outlasts.requests⟩
    | answered polls after =>
      refine .inl ⟨rfl, after, outlasts.kubectl, rfl, ?_⟩
      simp only [if_true]
      rw [Array.map_push, Array.map_push, outlasts.requests]
      simp only [Request.course, outlasts.context.now, after.now]
    | givenUp polls halted => exact .inr ⟨_, rfl, halted⟩

end Ec2

theorem follows_outlasts (limit : Nat) :
    Poll.Follows World.Outlasts (Ec2.stillExists limit) where
  asks volumeId _ _ outlasts := Ec2.follows_stillExists limit volumeId outlasts
  waits _ _ _ outlasts open_ :=
    ⟨outlasts.context.rested open_, outlasts.kubectl, outlasts.script, outlasts.requests⟩
  continues _ _ outlasts := outlasts.context.not_done
  stops _ _ := Context.done_rested

/-- Two runs that took the same course: they wrote the same diary, made the same invocations, the
same requests at the same times and the same sleeps, and ended at the same time. -/
structure SameCourse (shorter longer : Logged (World Rat)) : Prop where
  lines : longer.lines = shorter.lines
  invocations : longer.state.services.kubectl.invocations =
    shorter.state.services.kubectl.invocations
  requests : longer.state.services.ec2.requests.map (·.course) =
    shorter.state.services.ec2.requests.map (·.course)
  sleeps : longer.state.context.sleeps = shorter.state.context.sleeps
  now : longer.state.context.now = shorter.state.context.now

theorem agree_reclaim (context : Json) (interval : Rat) (limit : Nat)
    {run run' : Logged (World Rat)} (paired : Paired World.Outlasts run run')
    (returns : (World.reclaim context interval limit run).1 = .ok ()) :
    Agree World.Outlasts (World.reclaim context interval limit run)
      (World.reclaim context interval limit run') := by
  obtain ⟨early, late, first, second, -⟩ := paired.state.context.deadline
  unfold World.reclaim reclaim at returns ⊢
  rw [first] at returns
  rw [first, second]
  dsimp only at returns ⊢
  obtain ⟨failure, after, after', released, released', paired⟩ |
    ⟨ids, after, after', released, released', paired⟩ :=
    (Discovery.agree_releaseListed (Kubectl.respects_cluster context) paired).cases
  · rw [released] at returns
    cases returns
  · rw [released] at returns ⊢
    rw [released']
    dsimp only at returns ⊢
    have waits : (Poll.untilGone (Ec2.stillExists limit) interval limit ids after).1 = .ok () := by
      generalize Poll.untilGone _ interval limit ids after = wait at returns ⊢
      obtain ⟨outcome, final⟩ := wait
      cases outcome with
      | error failure => cases returns
      | ok => rfl
    obtain ⟨failure, final, final', ended, ended', paired⟩ |
      ⟨done, final, final', ended, ended', paired⟩ :=
      (Poll.untilGone_follows (follows_outlasts limit) interval limit ids paired waits).cases
    · rw [ended] at waits
      cases waits
    · rw [ended, ended']
      exact ⟨rfl, paired.note _ _⟩

/-- A run that ends well ends well with more time, too, and takes the same course. -/
theorem reclaim_more_time (context : Json) (interval : Rat) (limit : Nat)
    (services : Services Rat) (lines : Array LogLine) (shorter longer : Context Rat)
    (outlasts : shorter.Outlasts longer)
    (returns : (World.reclaim context interval limit ⟨⟨shorter, services⟩, lines⟩).1 = .ok ()) :
    (World.reclaim context interval limit ⟨⟨longer, services⟩, lines⟩).1 = .ok () ∧
      SameCourse (World.reclaim context interval limit ⟨⟨shorter, services⟩, lines⟩).2
        (World.reclaim context interval limit ⟨⟨longer, services⟩, lines⟩).2 := by
  have start : Paired World.Outlasts ⟨⟨shorter, services⟩, lines⟩ ⟨⟨longer, services⟩, lines⟩ :=
    ⟨⟨outlasts, rfl, rfl, rfl⟩, rfl⟩
  obtain ⟨outcome, after, diary⟩ := agree_reclaim context interval limit start returns
  exact ⟨outcome.trans returns, diary, congrArg (·.invocations) after.kubectl, after.requests,
    after.context.sleeps, after.context.now⟩

/-- A cluster that takes almost three seconds to list its volumes, and an EC2 that needs another
moment to report the volume behind them gone. -/
def leisurely : Services Rat :=
  { kubectl := { replies :=
      [⟨some (59 / 20), .completed { stdout := .str Discovery.sampleListing }⟩] },
    ec2 := { script := [("v", [⟨some (7 / 100), .volumes (.arr [])⟩])] } }

def hurried : Logged (World Rat) := ⟨⟨.create 0 (some 3) (some 5), leisurely⟩, #[]⟩

/-- The same run with a later deadline and no cancellation. -/
def unhurried : Logged (World Rat) := ⟨⟨.create 0 (some 60) none, leisurely⟩, #[]⟩

theorem reclaim_more_time_leisurely :
    (World.reclaim .null 2 30 hurried).1 = .ok () ∧
      (World.reclaim .null 2 30 unhurried).1 = .ok () ∧
      SameCourse (World.reclaim .null 2 30 hurried).2 (World.reclaim .null 2 30 unhurried).2 := by
  have outlasts : (Context.create 0 (some 3) (some 5)).Outlasts (.create 0 (some 60) none) :=
    Context.outlasts_create 0 (by norm_num) nofun
  have returns : (World.reclaim .null 2 30 hurried).1 = .ok () :=
    Poll.eq_ok_of_isOk (by decide +kernel)
  exact ⟨returns, reclaim_more_time .null 2 30 leisurely #[] _ _ outlasts returns⟩

end VolumeReclaim
