import VolumeReclaim.Proofs.AnswerShape
import VolumeReclaim.Proofs.LaterDeadline

/-!
What a cancellation does to a wait. It takes effect at the first time that the clock shows at or
after its moment; from then on the clock stands still and no request is started. The only request
that can end with it is the one that was in flight, and what that one reports still counts.
-/
set_option autoImplicit false

namespace VolumeReclaim

namespace Context

/-- A context that is not cancelled, with a cancellation that is still ahead if there is one. -/
structure Calm (pending : Option Rat) (context : Context Rat) : Prop where
  uncancelled : context.cancelled = false
  coming : context.pending = pending
  ahead : ∀ moment, pending = some moment → context.now < moment

/-- A context that was cancelled at the time that its clock still shows, which is not before the
moment of the cancellation. -/
structure Struck (pending : Option Rat) (context : Context Rat) : Prop where
  stopped : context.cancelledAt = some context.now
  reached : ∃ moment, pending = some moment ∧ moment ≤ context.now

section Cancelling

variable {pending : Option Rat} {context : Context Rat}

theorem calm_of_not_due (uncancelled : context.cancelled = false)
    (coming : context.pending = pending) (early : context.due = false) : Calm pending context where
  uncancelled := uncancelled
  coming := coming
  ahead := by
    intro moment given
    rw [← not_le]
    intro reached
    rw [due_iff.mpr ⟨moment, coming.trans given, reached⟩] at early
    cases early

theorem due_create (now : Rat) (deadline pending : Option Rat) :
    (create now deadline pending).due = false :=
  due_settle _

theorem Struck.cancelled (struck : Struck pending context) : context.cancelled = true := by
  rw [VolumeReclaim.Context.cancelled, struck.stopped, Option.isSome_some]

theorem Calm.not_struck (calm : Calm pending context) : ¬ Struck pending context := by
  intro struck
  have both := struck.cancelled
  rw [calm.uncancelled] at both
  cases both

theorem advance_course (uncancelled : context.cancelled = false)
    (coming : context.pending = pending) (time : Rat) :
    Calm pending (context.advance time) ∨ Struck pending (context.advance time) := by
  have none : context.cancelledAt = .none := Option.not_isSome_iff_eq_none.mp
    (Bool.eq_false_iff.mp uncancelled)
  rw [advance, settle_eq]
  by_cases due : ({ context with now := time } : Context Rat).due = true
  · rw [if_pos due]
    obtain ⟨moment, given, reached⟩ := due_iff.mp due
    exact .inr ⟨by simp [cancel, none], moment, coming.symm.trans given, reached⟩
  · rw [if_neg due]
    exact .inl (calm_of_not_due uncancelled coming (Bool.eq_false_iff.mpr due))

theorem rested_course (calm : Calm pending context) (seconds : Rat) :
    Calm pending (context.rested seconds) ∨ Struck pending (context.rested seconds) := by
  obtain same | ⟨halted, -⟩ | ⟨open_, span, time, same⟩ := rested_cases context seconds
  · rw [same]
    exact .inl calm
  · rw [calm.uncancelled] at halted
    cases halted
  · have asleep : (context.withSleep span).cancelled = false := open_
    rw [same]
    exact advance_course asleep calm.coming time

theorem deadline_of_done (open_ : context.cancelled = false) (halted : context.done = true) :
    ∃ deadline, context.deadline = some deadline ∧ deadline ≤ context.now := by
  rw [done, open_, Bool.false_or] at halted
  cases held : context.deadline with
  | none => simp [expired, held] at halted
  | some deadline => exact ⟨deadline, rfl, (expired_iff held).mp halted⟩

end Cancelling

end Context

namespace Ec2

theorem await_course {pending : Option Rat} {context : Context Rat} {finish : Option Rat}
    {looks polls : Nat} {wait : Wait Rat} (calm : context.Calm pending)
    (awaited : await finish looks polls context = some wait) :
    wait.context.Calm pending ∨ wait.context.Struck pending := by
  refine await_induction (fun other => other.Calm pending)
    (fun wait => wait.context.Calm pending ∨ wait.context.Struck pending)
    ?answered ?givenUp ?next looks polls calm awaited
  case answered =>
    intro polls other moment calm _
    exact Context.advance_course calm.uncancelled calm.coming _
  case givenUp =>
    intro polls other calm _
    exact Context.advance_course calm.uncancelled calm.coming _
  case next =>
    intro other calm open_
    obtain later | struck := Context.advance_course calm.uncancelled calm.coming
      (other.now + lookInterval)
    · exact later
    · rw [Context.done_of_cancelled struck.cancelled] at open_
      cases open_

/-- The requests of a run whose cancellation is ahead or has come: all were started before its
moment, and all but the last one ended before it. That one may have ended when the run was
cancelled. -/
structure InTime (pending : Option Rat) (made : List (Request Rat)) (context : Context Rat) :
    Prop where
  course : context.Calm pending ∨ context.Struck pending
  open_ : ∀ request ∈ made, request.started.done = false
  started : ∀ request ∈ made, ∀ moment, pending = some moment → request.started.now < moment
  earlier : ∀ request ∈ made.dropLast, ∀ moment, pending = some moment → request.ended < moment
  last : ∀ request ∈ made, ∀ moment, pending = some moment →
    request.ended < moment ∨ context.Struck pending ∧ request.ended = context.now

section InTime

variable {pending : Option Rat} {made : List (Request Rat)} {context after : Context Rat}

theorem inTime_nil (calm : context.Calm pending) : InTime pending [] context :=
  ⟨.inl calm, List.forall_mem_nil _, List.forall_mem_nil _, List.forall_mem_nil _,
    List.forall_mem_nil _⟩

theorem InTime.ended (inTime : InTime pending made context) (calm : context.Calm pending) :
    ∀ request ∈ made, ∀ moment, pending = some moment → request.ended < moment := by
  intro request member moment coming
  obtain early | ⟨struck, -⟩ := inTime.last request member moment coming
  · exact early
  · exact absurd struck calm.not_struck

theorem InTime.push (inTime : InTime pending made context) (calm : context.Calm pending)
    {request : Request Rat} (open_ : request.started.done = false)
    (started : request.started.now = context.now) (ended : request.ended = after.now)
    (course : after.Calm pending ∨ after.Struck pending) :
    InTime pending (made ++ [request]) after where
  course := course
  open_ := List.forall_mem_append.mpr ⟨inTime.open_, by simpa using open_⟩
  started := by
    refine List.forall_mem_append.mpr ⟨inTime.started, ?_⟩
    intro other same moment coming
    rw [List.mem_singleton.mp same, started]
    exact calm.ahead moment coming
  earlier := by
    rw [List.dropLast_concat]
    exact inTime.ended calm
  last := by
    refine List.forall_mem_append.mpr ⟨?_, ?_⟩
    · intro other member moment coming
      exact .inl (inTime.ended calm other member moment coming)
    · intro other same moment coming
      rw [List.mem_singleton.mp same, ended]
      obtain later | struck := course
      · exact .inl (later.ahead moment coming)
      · exact .inr ⟨struck, rfl⟩

theorem InTime.rested (inTime : InTime pending made context) (seconds : Rat) :
    InTime pending made (context.rested seconds) := by
  obtain calm | struck := inTime.course
  · have ended := inTime.ended calm
    exact ⟨Context.rested_course calm seconds, inTime.open_, inTime.started, inTime.earlier,
      fun request member moment coming => .inl (ended request member moment coming)⟩
  · obtain ⟨now, stopped⟩ := Context.rested_of_cancelled struck.cancelled seconds
    have later : (context.rested seconds).Struck pending :=
      ⟨by rw [stopped, now, struck.stopped], by rw [now]; exact struck.reached⟩
    refine ⟨.inr later, inTime.open_, inTime.started, inTime.earlier, ?_⟩
    intro request member moment coming
    rw [now]
    exact (inTime.last request member moment coming).imp_right fun ended => ⟨later, ended.2⟩

end InTime

/-- A moment of a wait whose cancellation was ahead or missing at the start. -/
structure Watched (before world : World Rat) : Prop where
  deadline : world.context.deadline = before.context.deadline
  wellFormed : world.services.ec2.script.All Reply.wellFormed
  requests : ∃ made,
    world.services.ec2.requests.toList = before.services.ec2.requests.toList ++ made ∧
    InTime before.context.pending made world.context

theorem watched_stillExists {before world : World Rat} (looks : Nat) (volumeId : Json)
    (watched : Watched before world) : Watched before (stillExists looks volumeId world).2 := by
  obtain ⟨made, sofar, inTime⟩ := watched.requests
  have left := (steady_script looks Reply.wellFormed).asks volumeId world watched.wellFormed
  have course := stillExists_questioned looks volumeId world
  generalize stillExists looks volumeId world = result at course left ⊢
  cases course with
  | refused halted => exact watched
  | spent open_ endless => exact ⟨watched.deadline, left, made, sofar, inTime⟩
  | @waited open_ wait awaited =>
    have calm : world.context.Calm before.context.pending := by
      obtain calm | struck := inTime.course
      · exact calm
      · rw [Context.done_of_cancelled struck.cancelled] at open_
        cases open_
    have more : InTime before.context.pending (made ++ [wait.request volumeId world.context
        (world.services.ec2.nextReply volumeId).answer]) wait.context :=
      inTime.push calm open_ rfl rfl (await_course calm awaited)
    refine ⟨(await_deadline awaited).trans watched.deadline, left, _, ?_, more⟩
    rw [Array.toList_push, sofar, List.append_assoc]

theorem steady_watched (before : World Rat) (looks : Nat) :
    Poll.Steady (stillExists looks) (Watched before) where
  asks volumeId _ watched := watched_stillExists looks volumeId watched
  waits world seconds watched := by
    obtain ⟨made, sofar, inTime⟩ := watched.requests
    exact ⟨(Context.rested_deadline _ _).trans watched.deadline, watched.wellFormed, made, sofar,
      inTime.rested seconds⟩

/-- A wait that heeds the cancellation of its run: the run is cancelled exactly if the clock reaches
the moment of the cancellation, no request is started from that moment on, the clock stands still
once the run is cancelled, and no request but the last ends with it. Whatever is not reported gone
by then is named with the cancellation as the reason. -/
structure HeedsCancellation (ids : List String) (before after : Context Rat)
    (made : List (Request Rat)) (outcome : Except Failure Unit) : Prop where
  cancelled : after.cancelled = true ↔
    ∃ moment, before.pending = some moment ∧ moment ≤ after.now
  started : ∀ request ∈ made, ∀ moment, before.pending = some moment →
    request.started.now < moment
  still : ∀ time, after.cancelledAt = some time → after.now = time
  earlier : ∀ request ∈ made.dropLast, ∀ moment, before.pending = some moment →
    request.ended < moment
  last : ∀ request ∈ made, ∀ moment, before.pending = some moment →
    request.ended < moment ∨ after.cancelledAt = some request.ended
  verdict : after.cancelled = true → ∃ left, Splits made ids left ∧
    outcome = Poll.conclusion left true

theorem heedsCancellation_of_inTime {ids : List String} {before after : Context Rat}
    {made : List (Request Rat)} {outcome : Except Failure Unit}
    (inTime : InTime before.pending made after)
    (verdict : after.cancelled = true → ∃ left, Splits made ids left ∧
      outcome = Poll.conclusion left true) :
    HeedsCancellation ids before after made outcome where
  cancelled := by
    obtain calm | struck := inTime.course
    · rw [calm.uncancelled]
      refine ⟨nofun, ?_⟩
      rintro ⟨moment, coming, reached⟩
      exact absurd (calm.ahead moment coming) (not_lt.mpr reached)
    · exact ⟨fun _ => struck.reached, fun _ => struck.cancelled⟩
  started := inTime.started
  still := by
    intro time stopped
    obtain calm | struck := inTime.course
    · have none := calm.uncancelled
      rw [Context.cancelled, stopped] at none
      cases none
    · exact Option.some.inj (struck.stopped.symm.trans stopped)
  earlier := inTime.earlier
  last := by
    intro request member moment coming
    refine (inTime.last request member moment coming).imp_right ?_
    rintro ⟨struck, ended⟩
    rw [ended, struck.stopped]
  verdict := verdict

section Concluded

variable {looks : Nat} {P : World Rat → Prop} {ids : List String} {before final : World Rat}
  {outcome : Except Failure Unit}

theorem Concluded.verdict_of_cancelled {made : List (Request Rat)}
    (concluded : Concluded looks P ids before outcome final)
    (wellFormed : ∀ world, P world → world.services.ec2.script.All Reply.wellFormed)
    (sofar : final.services.ec2.requests.toList = before.services.ec2.requests.toList ++ made)
    (cancelled : final.context.cancelled = true) :
    ∃ left, Splits made ids left ∧ outcome = Poll.conclusion left true := by
  obtain ⟨left, other, ended, -, requests, splits⟩ | ⟨-, open_⟩ :=
    concluded.split_or_spent wellFormed
  · cases List.append_cancel_left (requests.symm.trans sofar)
    exact ⟨left, splits, by rw [ended, cancelled]⟩
  · rw [Context.done_of_cancelled cancelled] at open_
    cases open_

theorem Concluded.deadline_of_notDeleted {remaining : List Json}
    (concluded : Concluded looks P ids before outcome final)
    (wellFormed : ∀ world, P world → world.services.ec2.script.All Reply.wellFormed)
    (given : outcome = .error (.notDeleted remaining false)) :
    ∃ deadline, final.context.deadline = some deadline ∧ deadline ≤ final.context.now := by
  obtain ⟨left, -, ended, stopped, -⟩ | ⟨spent, -⟩ := concluded.split_or_spent wellFormed
  · rw [ended, Poll.conclusion] at given
    split at given
    · cases given
    · next some =>
      have open_ : final.context.cancelled = false := by
        injection given with same
        injection same
      exact Context.deadline_of_done open_ (stopped some)
  · rw [spent] at given
    cases given

end Concluded

end Ec2

namespace Poll

theorem untilGone_of_done {τ σ : Type} [Time τ] (check : Checker τ σ) (interval : τ) (limit : Nat)
    (ids : List String) {run : Logged (Timed τ σ)} (halted : run.state.context.done = true) :
    untilGone check interval limit (ids.map .str) run =
      (conclusion ids.eraseDups run.state.context.cancelled, run) := by
  rw [untilGone, Json.distinct_str]
  dsimp only
  rw [conclusion]
  by_cases none : ids.eraseDups = []
  · rw [if_pos none, none, List.map_nil, sweeps_nil]
  · rw [if_neg none, sweeps_done (by simpa using none) halted, Failure.ofRemaining_str]

/-- A wait starts requests only as long as its run does not have to stop, it heeds a cancellation,
and it names volumes for another reason only when the deadline has passed. -/
theorem untilGone_heeds_cancellation (looks limit : Nat) (interval : Rat) (ids : List String)
    (run : Logged (World Rat)) (settled : run.state.context.due = false)
    (wellFormed : run.state.services.ec2.script.All Ec2.Reply.wellFormed) :
    (run.state.context.done = true →
      untilGone (Ec2.stillExists looks) interval limit (ids.map .str) run =
        (conclusion ids.eraseDups run.state.context.cancelled, run)) ∧
    ∃ made,
      (untilGone (Ec2.stillExists looks) interval limit
        (ids.map .str) run).2.state.services.ec2.requests.toList =
          run.state.services.ec2.requests.toList ++ made ∧
      (∀ request ∈ made, request.started.done = false) ∧
      (run.state.context.cancelled = false →
        Ec2.HeedsCancellation ids run.state.context
          (untilGone (Ec2.stillExists looks) interval limit (ids.map .str) run).2.state.context made
          (untilGone (Ec2.stillExists looks) interval limit (ids.map .str) run).1) ∧
      ∀ remaining,
        (untilGone (Ec2.stillExists looks) interval limit (ids.map .str) run).1 =
          .error (.notDeleted remaining false) →
        ∃ deadline, run.state.context.deadline = some deadline ∧
          deadline ≤ (untilGone (Ec2.stillExists looks) interval limit
            (ids.map .str) run).2.state.context.now := by
  refine ⟨untilGone_of_done _ interval limit ids, ?_⟩
  cases uncancelled : run.state.context.cancelled with
  | true =>
    rw [untilGone_of_done _ interval limit ids (Context.done_of_cancelled uncancelled), uncancelled]
    refine ⟨[], (List.append_nil _).symm, List.forall_mem_nil _, nofun, ?_⟩
    intro remaining given
    rw [conclusion] at given
    split at given <;> cases given
  | false =>
    have calm := Context.calm_of_not_due uncancelled rfl settled
    have watched : Ec2.Watched run.state run.state :=
      ⟨rfl, wellFormed, [], (List.append_nil _).symm, Ec2.inTime_nil calm⟩
    have foreign : run.state.services.ec2.script.All Ec2.Reply.foreign :=
      wellFormed.imp fun _ => Ec2.Reply.foreign_of_wellFormed
    obtain ⟨after, -, concluded⟩ := Ec2.concluded_untilGone (Ec2.steady_watched run.state looks)
      interval limit ids watched foreign
    generalize untilGone _ interval limit _ run = wait at after concluded ⊢
    obtain ⟨outcome, final⟩ := wait
    obtain ⟨made, sofar, inTime⟩ := after.requests
    have shapes : ∀ world, Ec2.Watched run.state world →
        world.services.ec2.script.All Ec2.Reply.wellFormed := fun _ watched => watched.wellFormed
    refine ⟨made, sofar, inTime.open_, ?heeds, ?expired⟩
    case heeds =>
      exact fun _ => Ec2.heedsCancellation_of_inTime inTime
        (concluded.verdict_of_cancelled shapes sofar)
    case expired =>
      intro remaining given
      obtain ⟨deadline, held, reached⟩ := concluded.deadline_of_notDeleted shapes given
      exact ⟨deadline, after.deadline.symm.trans held, reached⟩

/-- A run that is cancelled while EC2 is about to report the first of two volumes gone. -/
def interrupted : Logged (World Rat) :=
  { state := ⟨.create 0 (some 60) (some (1 / 20)),
      { ec2 := { script :=
          [("v", [⟨some (2 / 25), .volumes (.arr [])⟩]),
            ("w", [⟨some 0, .volumes (.arr [])⟩])] } }⟩ }

theorem untilGone_heeds_cancellation_interrupted :
    (untilGone (Ec2.stillExists 9) 2 9 (["v", "w"].map .str)
        interrupted).2.state.context.cancelled = true ∧
      ∃ made, Ec2.HeedsCancellation ["v", "w"] interrupted.state.context
        (untilGone (Ec2.stillExists 9) 2 9 (["v", "w"].map .str) interrupted).2.state.context made
        (untilGone (Ec2.stillExists 9) 2 9 (["v", "w"].map .str) interrupted).1 := by
  have wellFormed : interrupted.state.services.ec2.script.All Ec2.Reply.wellFormed := by
    simp [interrupted, Script.All, Ec2.Reply.wellFormed, Ec2.Answer.wellFormed,
      Ec2.Answer.volumes, Json.holds, Json.find?, Json.nullOr, Json.listsObjects]
  obtain ⟨-, made, -, -, heeds, -⟩ := untilGone_heeds_cancellation 9 9 2 ["v", "w"] interrupted
    (Context.due_create 0 (some 60) (some (1 / 20))) wellFormed
  exact ⟨by decide +kernel, made, heeds (by decide +kernel)⟩

end Poll

end VolumeReclaim
