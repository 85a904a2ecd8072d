import VolumeReclaim.Proofs.AnswerWait
import VolumeReclaim.Proofs.Doubles
import VolumeReclaim.Proofs.Lockstep
import VolumeReclaim.Proofs.Phases
import VolumeReclaim.Proofs.Rounds

/-!
A run that is timed with doubles rests between two sweeps. As long as its deadline is ahead there is
time left, down to the smallest span that a double can hold, and so it sleeps after every sweep that
keeps a volume. This is otherwise only for a timeout that is not a number: its deadline is never
reached, there is never any time left, and the sweeps follow each other without a sleep.
-/
set_option autoImplicit false

namespace VolumeReclaim

open Double

namespace Context

variable {context : Context Float} {deadline seconds time : Float}

/-- A context with a deadline in which neither that nor the clock is out of the order of time. -/
structure Sound (context : Context Float) : Prop where
  deadline : ∃ deadline, context.deadline = some deadline ∧ Moment deadline
  now : Moment context.now

theorem sound_advance (sound : context.Sound) (moment : Moment time) :
    (context.advance time).Sound where
  deadline := by
    rw [advance_deadline]
    exact sound.deadline
  now := by
    rw [advance_now]
    exact moment

theorem rest_of_not_done (sound : context.Sound) (positive : 0.0 < seconds)
    (open_ : context.done = false) : ∃ span, context.rest seconds = some span := by
  obtain ⟨deadline, held, moment⟩ := sound.deadline
  have ahead : ¬ deadline ≤ context.now := by
    intro passed
    rw [done, expired, held, Bool.or_eq_false_iff] at open_
    exact decide_eq_false_iff_not.mp open_.2 passed
  have left : 0.0 < deadline - context.now := sub_pos_of_not_le moment sound.now ahead
  have some_left : 0.0 < context.affordable seconds := by
    rw [affordable, remaining, held]
    simp only [Option.map_some, Time.greater, Time.lesser]
    rw [if_pos left]
    split
    · exact left
    · exact positive
  exact ⟨_, if_pos some_left⟩

theorem rest_of_isNaN (held : context.deadline = some deadline) (strange : deadline.isNaN = true)
    (positive : 0.0 < seconds) : context.rest seconds = none := by
  have none_left : context.affordable seconds = 0.0 := by
    rw [affordable, remaining, held]
    simp only [Option.map_some, Time.greater, Time.lesser]
    rw [if_neg (not_lt_of_isNaN _ (isNaN_sub _ strange)), if_pos positive]
  unfold rest
  rw [none_left]
  exact if_neg (by decide)

theorem expired_of_isNaN (held : context.deadline = some deadline)
    (strange : deadline.isNaN = true) : context.expired = false := by
  rw [expired, held]
  exact decide_eq_false (not_le_of_isNaN _ strange)

theorem sound_sleep (sound : context.Sound) {span : Float} (positive : 0.0 < span) :
    (context.sleep span).Sound := by
  have slept : (context.withSleep span).Sound := ⟨sound.deadline, sound.now⟩
  have later : Moment (context.now + span) := moment_add sound.now (zero_le_of_pos positive)
  rw [sleep_eq]
  split
  · exact slept
  · split
    · split
      · next between => exact sound_advance slept (moment_of_lt between.1)
      · exact sound_advance slept later
    · exact sound_advance slept later

theorem sound_rested (sound : context.Sound) (seconds : Float) :
    (context.rested seconds).Sound := by
  cases slept : context.rest seconds with
  | none =>
    rw [rested_of_no_rest slept]
    exact sound
  | some span =>
    rw [rested_of_rest slept]
    exact sound_sleep sound (rest_positive slept)

theorem sound_lasting {start timeout : Float} (ordinary : start.isFinite)
    (number : timeout.isNaN = false) (accepted : ¬ timeout < 0.0) (pending : Option Float) :
    (lasting start timeout pending).Sound := by
  have moment := moment_of_isFinite ordinary
  have ahead := moment_add moment
    (zero_le_of_not_lt (Bool.eq_false_iff.mp number) accepted)
  constructor
  · exact ⟨start + timeout, by rw [lasting, create, settle_deadline], ahead⟩
  · rw [lasting, create, settle_now]
    exact moment

end Context

section Discovery

variable {S : Type} {P : S → Prop} {cluster : Cluster S} {run : Logged S}

theorem Discovery.releaseListed_keeps
    (respects : cluster.Respects fun state state' => state = state' ∧ P state)
    (holds : P run.state) : P (releaseListed cluster run).2.state :=
  (agree_releaseListed respects ⟨⟨rfl, holds⟩, rfl⟩).run.state.2

end Discovery

namespace Kubectl

variable {τ : Type} [Time τ] {P : World τ → Prop}

theorem respects_of_keeps (context : Json)
    (keeps : ∀ command world, P world → P (afterCommand context command world)) :
    (cluster context).Respects fun world world' => world = world' ∧ P world := by
  refine respects_of_executes ?_ fun world _ same => by rw [same.1]
  rintro command world _ ⟨rfl, holds⟩
  rw [execute_eq]
  exact ⟨rfl, rfl, keeps command world holds⟩

/-- No invocation that is still to come turns the clock back. -/
def Session.Forward (session : Session Float) : Prop :=
  ∀ reply ∈ session.replies, ∀ cost, reply.cost = some cost → 0.0 ≤ cost

theorem sound_afterCommand (context : Json) (command : Command) (world : World Float)
    (sound : world.context.Sound ∧ world.services.kubectl.Forward) :
    (afterCommand context command world).context.Sound ∧
      (afterCommand context command world).services.kubectl.Forward := by
  obtain ⟨sound, forward⟩ := sound
  rw [afterCommand_context, afterCommand_kubectl]
  refine ⟨?_, fun reply member => forward reply (List.mem_of_mem_tail member)⟩
  split
  case _ cost taken =>
    cases held : world.services.kubectl.replies with
    | nil => simp [held] at taken
    | cons reply rest =>
      rw [held] at taken
      exact Context.sound_advance sound
        (moment_add sound.now (forward reply (held ▸ List.mem_cons_self) cost taken))
  case _ => exact sound

end Kubectl

namespace Ec2

theorem steady_context {τ : Type} [Time τ] {P : Context τ → Prop} (looks : Nat)
    (awaits : ∀ {finish context wait}, P context → await finish looks 0 context = some wait →
      P wait.context)
    (waits : ∀ {context} seconds, P context → P (context.rested seconds)) :
    Poll.Steady (stillExists looks) fun world => P world.context where
  asks volumeId world holds := by
    have course := stillExists_questioned looks volumeId world
    generalize stillExists looks volumeId world = result at course ⊢
    cases course with
    | refused => exact holds
    | spent => exact holds
    | waited open_ awaited => exact awaits holds awaited
  waits _ seconds holds := waits seconds holds

theorem steady_deadline {τ : Type} [Time τ] (looks : Nat) (p : Option τ → Prop) :
    Poll.Steady (stillExists looks) fun world => p world.context.deadline :=
  steady_context (P := fun context => p context.deadline) looks
    (fun holds awaited => (await_deadline awaited).symm ▸ holds)
    fun seconds holds => (Context.rested_deadline _ seconds).symm ▸ holds

theorem sound_await {finish : Option Float} {looks polls : Nat} {context : Context Float}
    {wait : Wait Float} (sound : context.Sound)
    (awaited : await finish looks polls context = some wait) : wait.context.Sound := by
  have looked : ∀ other : Context Float, other.Sound →
      (other.advance (other.now + lookInterval)).Sound := by
    intro other sound
    exact Context.sound_advance sound (moment_add sound.now (by decide))
  refine await_induction Context.Sound (fun wait => wait.context.Sound)
    ?answered ?givenUp ?next looks polls sound awaited
  case answered =>
    intro polls other moment sound _
    refine Context.sound_advance sound ?_
    unfold Time.greater
    split
    · next later => exact moment_of_lt later
    · exact sound.now
  case givenUp => exact fun _ other sound _ => looked other sound
  case next => exact fun other sound _ => looked other sound

theorem steady_sound (looks : Nat) :
    Poll.Steady (stillExists looks) fun world : World Float => world.context.Sound :=
  steady_context looks sound_await fun seconds sound => Context.sound_rested sound seconds

end Ec2

namespace Poll

theorem Round.rest_of_ok {τ σ : Type} [Time τ] {interval : τ} {round : Round τ σ}
    {kept : List Json} (swept : round.outcome = .ok kept) (some : kept ≠ []) :
    round.rest interval = round.after.state.context.rest interval := by
  rw [Round.rest, swept]
  exact if_neg (by simpa using some)

theorem Round.rest_of_awake {τ σ : Type} [Time τ] {interval : τ} {round : Round τ σ}
    (awake : round.after.state.context.rest interval = none) : round.rest interval = none := by
  unfold Round.rest
  split
  · split
    · rfl
    · exact awake
  · rfl

section Rounds

variable {interval : Float} {looks limit : Nat} {remaining : List Json}
  {run : Logged (World Float)}

theorem rests_rounds (positive : 0.0 < interval) (sound : run.state.context.Sound) :
    ∀ round ∈ rounds (Ec2.stillExists looks) interval limit remaining run,
      ∀ kept, round.outcome = .ok kept → kept ≠ [] →
        round.after.state.context.done = true ∨
          ∃ span, 0.0 < span ∧ round.rest interval = some span := by
  intro round member kept swept some
  cases halted : round.after.state.context.done with
  | true => exact .inl rfl
  | false =>
    have after := (rounds_keep (Ec2.steady_sound looks) sound round member).2
    obtain ⟨span, slept⟩ := Context.rest_of_not_done after positive halted
    exact .inr ⟨span, Context.rest_positive slept, (Round.rest_of_ok swept some).trans slept⟩

theorem sleeps_between (positive : 0.0 < interval) (sound : run.state.context.Sound) :
    (rounds (Ec2.stillExists looks) interval limit remaining run).IsChain fun earlier later =>
      ∃ span, 0.0 < span ∧
        later.before.state.context = earlier.after.state.context.sleep span := by
  refine List.IsChain.imp_of_mem_imp ?_ rounds_chain
  rintro earlier later member member' ⟨kept, some, -, next⟩
  rw [next, pause_of_some some]
  change ∃ span, 0.0 < span ∧ earlier.after.state.context.rested interval = _
  cases slept : earlier.after.state.context.rest interval with
  | some span => exact ⟨span, Context.rest_positive slept, Context.rested_of_rest slept⟩
  | none =>
    have open_ := not_done_of_mem_rounds later member'
    rw [next, pause_of_some some] at open_
    change (earlier.after.state.context.rested interval).done = false at open_
    rw [Context.rested_of_no_rest slept] at open_
    have after := (rounds_keep (Ec2.steady_sound looks) sound earlier member).2
    obtain ⟨span, same⟩ := Context.rest_of_not_done after positive open_
    rw [slept] at same
    cases same

theorem restless_rounds (looks limit : Nat) (remaining : List Json) {deadline : Float}
    (positive : 0.0 < interval) (held : run.state.context.deadline = some deadline)
    (strange : deadline.isNaN = true) :
    ∀ round ∈ rounds (Ec2.stillExists looks) interval limit remaining run,
      round.after.state.context.rest interval = none := by
  intro round member
  have same := (rounds_keep (Ec2.steady_deadline looks (· = some deadline)) held round member).2
  exact Context.rest_of_isNaN same strange positive

end Rounds

end Poll

section Reclaiming

variable {τ : Type} [Time τ] {run : Logged (World τ)}

/-- The sweeps of a whole run. There are none if it does not come to its wait. -/
def World.rounds (context : Json) (interval : τ) (limit : Nat) (run : Logged (World τ)) :
    List (Poll.Round τ (Services τ)) :=
  match Discovery.releaseListed (Kubectl.cluster context) run with
  | (.error _, _) => []
  | (.ok volumeIds, after) =>
    match Json.distinct volumeIds with
    | .error _ => []
    | .ok remaining => Poll.rounds (Ec2.stillExists limit) interval limit remaining after

theorem World.reclaim_course (context : Json) (interval : τ) (limit : Nat) {deadline : τ}
    (held : run.state.context.deadline = some deadline) :
    ∃ remaining after, (Discovery.releaseListed (Kubectl.cluster context) run).2 = after ∧
      World.rounds context interval limit run =
        Poll.rounds (Ec2.stillExists limit) interval limit remaining after ∧
      (World.reclaim context interval limit run).2.state =
        (Poll.sweeps (Ec2.stillExists limit) interval limit remaining after).2.state := by
  have bounded : run.state.context.deadline ≠ none := by
    rw [held]
    exact Option.some_ne_none deadline
  unfold World.rounds
  cases discovered : (Discovery.releaseListed (Kubectl.cluster context) run).1 with
  | error failure =>
    rw [World.reclaim_of_unreleased interval limit bounded discovered]
    generalize Discovery.releaseListed (Kubectl.cluster context) run = discovery at discovered ⊢
    obtain ⟨outcome, after⟩ := discovery
    cases discovered
    exact ⟨[], after, rfl, Poll.rounds_nil.symm, by rw [Poll.sweeps_nil]⟩
  | ok volumeIds =>
    obtain ⟨-, state⟩ := World.reclaim_of_released interval limit bounded discovered
    rw [state, Poll.untilGone]
    generalize Discovery.releaseListed (Kubectl.cluster context) run = discovery at discovered ⊢
    obtain ⟨outcome, after⟩ := discovery
    cases discovered
    dsimp only
    cases Json.distinct volumeIds with
    | error fault => exact ⟨[], after, rfl, Poll.rounds_nil.symm, by rw [Poll.sweeps_nil]⟩
    | ok remaining => exact ⟨remaining, after, rfl, rfl, rfl⟩

theorem Discovery.releaseListed_deadline_sleeps (context : Json) (run : Logged (World τ)) :
    (releaseListed (Kubectl.cluster context) run).2.state.context.deadline =
        run.state.context.deadline ∧
      (releaseListed (Kubectl.cluster context) run).2.state.context.sleeps =
        run.state.context.sleeps := by
  refine releaseListed_keeps (P := fun world : World τ =>
    world.context.deadline = run.state.context.deadline ∧
      world.context.sleeps = run.state.context.sleeps)
    (Kubectl.respects_of_keeps context ?_) ⟨rfl, rfl⟩
  rintro command world ⟨deadline, sleeps⟩
  have journal := Kubectl.journaled_afterCommand context command world
  exact ⟨journal.deadline.trans deadline, journal.sleeps.trans sleeps⟩

theorem World.reclaim_sleeps (context : Json) (interval : τ) (limit : Nat) {deadline : τ}
    (held : run.state.context.deadline = some deadline) :
    (World.reclaim context interval limit run).2.state.context.sleeps.toList =
      run.state.context.sleeps.toList ++
        (World.rounds context interval limit run).filterMap (Poll.Round.rest interval) := by
  obtain ⟨remaining, after, discovered, made, ended⟩ :=
    World.reclaim_course context interval limit held
  rw [made, ended, Poll.sweeps_sleeps (Ec2.stillExists_sleeps limit), ← discovered,
    (Discovery.releaseListed_deadline_sleeps context run).2]

end Reclaiming

/-- A run that rests between its sweeps: after a sweep that keeps some volumes it sleeps, unless it
has to stop, and each sweep but the first starts after a sleep. It sleeps at no other times. -/
structure Paced (interval : Float) (before after : Context Float)
    (made : List (Poll.Round Float (Services Float))) : Prop where
  rests : ∀ round ∈ made, ∀ kept, round.outcome = .ok kept → kept ≠ [] →
    round.after.state.context.done = true ∨
      ∃ span, 0.0 < span ∧ round.rest interval = some span
  between : made.IsChain fun earlier later =>
    ∃ span, 0.0 < span ∧ later.before.state.context = earlier.after.state.context.sleep span
  sleeps : after.sleeps.toList = before.sleeps.toList ++ made.filterMap (Poll.Round.rest interval)

/-- A run that never rests: each sweep but the first starts just where the one before it ended, the
deadline is never reached, and there is no sleep at all. -/
structure Restless (before after : Context Float)
    (made : List (Poll.Round Float (Services Float))) : Prop where
  between : made.IsChain fun earlier later => later.before.state = earlier.after.state
  expired : after.expired = false
  sleeps : after.sleeps = before.sleeps

theorem Restless.not_paced {interval : Float} {before after : Context Float}
    {made : List (Poll.Round Float (Services Float))} (restless : Restless before after made)
    (several : 1 < made.length) : ¬ Paced interval before after made := by
  intro paced
  match made, several with
  | earlier :: later :: rest, _ =>
    obtain ⟨span, -, slept⟩ := (List.isChain_cons_cons.mp paced.between).1
    have same := (List.isChain_cons_cons.mp restless.between).1
    rw [same] at slept
    have longer := congrArg (·.sleeps.size) slept
    rw [Context.sleep_sleeps, Array.size_push] at longer
    omega

section Resting

variable {interval deadline : Float} {run : Logged (World Float)}

theorem World.paced (context : Json) (limit : Nat) (positive : 0.0 < interval)
    (sound : run.state.context.Sound) (forward : run.state.services.kubectl.Forward) :
    Paced interval run.state.context (World.reclaim context interval limit run).2.state.context
      (World.rounds context interval limit run) := by
  obtain ⟨deadline, held, -⟩ := sound.deadline
  have slept := World.reclaim_sleeps context interval limit held
  obtain ⟨remaining, after, discovered, made, -⟩ :=
    World.reclaim_course context interval limit held
  have later : after.state.context.Sound := by
    rw [← discovered]
    exact (Discovery.releaseListed_keeps (Kubectl.respects_of_keeps context
      (Kubectl.sound_afterCommand context)) ⟨sound, forward⟩).1
  rw [made] at slept ⊢
  exact ⟨Poll.rests_rounds positive later, Poll.sleeps_between positive later, slept⟩

theorem World.restless (context : Json) (limit : Nat) (positive : 0.0 < interval)
    (held : run.state.context.deadline = some deadline) (strange : deadline.isNaN = true) :
    Restless run.state.context (World.reclaim context interval limit run).2.state.context
      (World.rounds context interval limit run) := by
  have slept := World.reclaim_sleeps context interval limit held
  obtain ⟨remaining, after, discovered, made, ended⟩ :=
    World.reclaim_course context interval limit held
  have same : after.state.context.deadline = some deadline := by
    rw [← discovered, (Discovery.releaseListed_deadline_sleeps context run).1, held]
  have awake := Poll.restless_rounds limit limit remaining positive same strange
  have last := Poll.sweeps_keeps (Ec2.steady_deadline limit (· = some deadline)) interval limit
    remaining after same
  rw [made] at slept ⊢
  rw [ended] at slept ⊢
  refine ⟨?between, Context.expired_of_isNaN last strange, ?sleeps⟩
  case between =>
    refine List.IsChain.imp_of_mem_imp ?_ Poll.rounds_chain
    rintro earlier later member - ⟨kept, some, -, next⟩
    rw [next, Poll.pause_of_some some]
    change (earlier.after.state.wait interval).2 = earlier.after.state
    rw [Timed.wait_snd, Context.rested_of_no_rest (awake earlier member)]
  case sleeps =>
    rw [List.filterMap_eq_nil_iff.mpr fun round member => Poll.Round.rest_of_awake
      (awake round member), List.append_nil] at slept
    exact Array.toList_inj.mp slept

end Resting

def World.timed (start timeout : Float) (pending : Option Float) (services : Services Float) :
    Logged (World Float) :=
  { state := ⟨.lasting start timeout pending, services⟩ }

/-- With any timeout that is not below zero, a run rests between its sweeps, unless the timeout is
not a number. Then it never rests. -/
theorem reclaim_rests (context : Json) (interval start timeout : Float) (limit : Nat)
    (pending : Option Float) (services : Services Float) (ordinary : start.isFinite)
    (accepted : ¬ timeout < 0.0) (positive : 0.0 < interval)
    (forward : services.kubectl.Forward) :
    (timeout.isNaN = false →
      Paced interval (.lasting start timeout pending)
        (World.reclaim context interval limit
          (World.timed start timeout pending services)).2.state.context
        (World.rounds context interval limit (World.timed start timeout pending services))) ∧
    (timeout.isNaN = true →
      Restless (.lasting start timeout pending)
        (World.reclaim context interval limit
          (World.timed start timeout pending services)).2.state.context
        (World.rounds context interval limit (World.timed start timeout pending services))) := by
  constructor
  · intro number
    have sound : (World.timed start timeout pending services).state.context.Sound :=
      Context.sound_lasting ordinary number accepted pending
    exact World.paced context limit positive sound forward
  · intro strange
    have held : (World.timed start timeout pending services).state.context.deadline =
        some (start + timeout) := Context.settle_deadline _
    exact World.restless context limit positive held (isNaN_add start strange)

/-- A cluster that takes a second to list a volume, and an EC2 that reports the volume behind it
gone only when it is asked again. -/
def lingering : Services Float :=
  { kubectl := { replies :=
      [⟨some 1.0, .completed { stdout := .str Discovery.sampleListing }⟩] },
    ec2 := { script :=
      [("v", [⟨some 0.03, .volumes (.arr [.obj [("State", .str "in-use")]])⟩,
        ⟨some 0.0, .volumes (.arr [])⟩])] } }

theorem reclaim_rests_lingering :
    (World.rounds .null 2.0 9 (World.timed 0.0 5.0 none lingering)).length = 2 ∧
      Paced 2.0 (.lasting 0.0 5.0 none)
        (World.reclaim .null 2.0 9 (World.timed 0.0 5.0 none lingering)).2.state.context
        (World.rounds .null 2.0 9 (World.timed 0.0 5.0 none lingering)) ∧
      Restless (.lasting 0.0 (0.0 / 0.0) none)
        (World.reclaim .null 2.0 9 (World.timed 0.0 (0.0 / 0.0) none lingering)).2.state.context
        (World.rounds .null 2.0 9 (World.timed 0.0 (0.0 / 0.0) none lingering)) ∧
      ¬ Paced 2.0 (.lasting 0.0 (0.0 / 0.0) none)
        (World.reclaim .null 2.0 9 (World.timed 0.0 (0.0 / 0.0) none lingering)).2.state.context
        (World.rounds .null 2.0 9 (World.timed 0.0 (0.0 / 0.0) none lingering)) := by
  have forward : lingering.kubectl.Forward := by
    intro reply member cost taken
    rw [List.mem_singleton.mp member] at taken
    cases taken
    decide +kernel
  have paced := (reclaim_rests .null 2.0 0.0 5.0 9 none lingering (by decide) (by decide)
    (by decide) forward).1 (by decide)
  have restless := (reclaim_rests .null 2.0 0.0 (0.0 / 0.0) 9 none lingering (by decide) (by decide)
    (by decide) forward).2 (by decide)
  exact ⟨by decide +kernel, paced, restless, restless.not_paced (by decide +kernel)⟩

end VolumeReclaim
