import Mathlib.Algebra.Order.Floor.Ring
import Mathlib.Data.Rat.Floor
import Mathlib.Tactic.FieldSimp
import Mathlib.Tactic.Ring
import VolumeReclaim.Proofs.AnswerShape
import VolumeReclaim.Proofs.LaterDeadline
import VolumeReclaim.Proofs.Rounds

/-!
A wait ends on time. With exact seconds it makes at most one sweep for each poll interval until the
deadline, each of its sleeps fits into the time that is left, and it is over no later than one look
after the deadline, whether or not a volume is ever gone and whether or not EC2 ever answers.
-/
set_option autoImplicit false

namespace VolumeReclaim

/-- How many intervals begin between a time and a deadline. -/
def intervalsUntil (deadline interval start : Rat) : Nat :=
  ⌈(deadline - start) / interval⌉.toNat

section Intervals

variable {deadline interval start later : Rat}

theorem intervalsUntil_le_iff (positive : 0 < interval) (count : Nat) :
    intervalsUntil deadline interval start ≤ count ↔ deadline ≤ start + count * interval := by
  rw [intervalsUntil, Int.toNat_le, Int.ceil_le, div_le_iff₀ positive, Int.cast_natCast,
    sub_le_iff_le_add']

theorem intervalsUntil_pos (positive : 0 < interval) (ahead : start < deadline) :
    0 < intervalsUntil deadline interval start := by
  rw [Nat.pos_iff_ne_zero]
  intro none
  have reached := (intervalsUntil_le_iff positive 0).mp none.le
  simp only [Nat.cast_zero, zero_mul, add_zero] at reached
  exact absurd ahead (not_lt.mpr reached)

theorem intervalsUntil_anti (deadline : Rat) (positive : 0 < interval) (forward : start ≤ later) :
    intervalsUntil deadline interval later ≤ intervalsUntil deadline interval start := by
  rw [intervalsUntil_le_iff positive]
  have within := (intervalsUntil_le_iff positive _).mp
    (le_refl (intervalsUntil deadline interval start))
  linarith

theorem intervalsUntil_lt (positive : 0 < interval) (passed : start + interval ≤ later)
    (ahead : start < deadline) :
    intervalsUntil deadline interval later + 1 ≤ intervalsUntil deadline interval start := by
  have within := (intervalsUntil_le_iff positive _).mp
    (le_refl (intervalsUntil deadline interval start))
  obtain ⟨fewer, split⟩ := Nat.exists_eq_add_one.mpr (intervalsUntil_pos positive ahead)
  rw [split, Nat.cast_add, Nat.cast_one] at within
  rw [split]
  apply Nat.succ_le_succ
  rw [intervalsUntil_le_iff positive]
  linarith

theorem intervalsUntil_le_succ (deadline : Rat) (positive : 0 < interval)
    (soon : later ≤ start + interval) :
    intervalsUntil deadline interval start ≤ intervalsUntil deadline interval later + 1 := by
  have within := (intervalsUntil_le_iff positive _).mp
    (le_refl (intervalsUntil deadline interval later))
  rw [intervalsUntil_le_iff positive]
  push_cast
  linarith

theorem intervalsUntil_of_reached (positive : 0 < interval) (reached : deadline ≤ start) :
    intervalsUntil deadline interval start = 0 := by
  rw [← Nat.le_zero, intervalsUntil_le_iff positive]
  simpa using reached

end Intervals

namespace Context

variable {context : Context Rat} {deadline seconds span : Rat}

theorem rest_eq_some :
    context.rest seconds = some span ↔ 0 < span ∧ context.affordable seconds = span := by
  simp only [rest, zero_eq]
  split
  · next positive =>
    rw [Option.some.injEq]
    exact ⟨fun same => ⟨same ▸ positive, same⟩, And.right⟩
  · next short => exact ⟨nofun, fun ⟨positive, same⟩ => absurd (same ▸ positive) short⟩

theorem rest_fits (held : context.deadline = some deadline)
    (slept : context.rest seconds = some span) :
    0 < span ∧ span ≤ seconds ∧ span ≤ deadline - context.now := by
  obtain ⟨positive, same⟩ := rest_eq_some.mp slept
  rw [affordable, remaining, held] at same
  simp only [Option.map_some, Time.greater, Time.lesser, zero_eq] at same
  refine ⟨positive, ?_⟩
  split at same <;> split at same <;> constructor <;> linarith

theorem sleep_now (context : Context Rat) (positive : 0 < span) :
    context.now ≤ (context.sleep span).now ∧
      (context.sleep span).now ≤ context.now + span := by
  rw [sleep_eq]
  split
  · exact ⟨le_rfl, by simpa [withSleep] using positive.le⟩
  · split
    · split
      · next between => exact ⟨by simpa using between.1.le, by simpa using between.2⟩
      · exact ⟨by simpa using positive.le, by simp⟩
    · exact ⟨by simpa using positive.le, by simp⟩

theorem rested_now (held : context.deadline = some deadline) (seconds : Rat) :
    context.now ≤ (context.rested seconds).now ∧
      (context.rested seconds).now ≤ max context.now deadline := by
  cases slept : context.rest seconds with
  | none =>
    rw [rested_of_no_rest slept]
    exact ⟨le_rfl, le_max_left _ _⟩
  | some span =>
    obtain ⟨positive, -, fits⟩ := rest_fits held slept
    obtain ⟨forward, short⟩ := sleep_now context positive
    rw [rested_of_rest slept]
    exact ⟨forward, le_max_of_le_right (by linarith)⟩

theorem rested_now_of_not_done (held : context.deadline = some deadline) (positive : 0 < seconds)
    (open_ : (context.rested seconds).done = false) :
    (context.rested seconds).now = context.now + seconds := by
  obtain ⟨uncancelled, ahead, fits, calm⟩ := rested_of_not_done held open_
  have quiet : ∀ moment, context.pending = some moment →
      ¬ (context.now < moment ∧ moment ≤ context.now + seconds) :=
    fun moment coming between => absurd (calm positive moment coming) (not_lt.mpr between.2)
  rw [rested_of_fits held ahead fits, if_pos positive, sleep_of_undisturbed uncancelled quiet,
    advance_now]

theorem ahead_of_not_done (held : context.deadline = some deadline)
    (open_ : context.done = false) : context.now < deadline := by
  rw [← not_le, ← expired_iff held]
  exact Bool.eq_false_iff.mp (not_done_iff.mp open_).2

end Context

namespace Ec2

theorem lookInterval_eq : (lookInterval : Rat) = 1 / 10 := by
  norm_num [lookInterval]

theorem lookInterval_pos : (0 : Rat) < lookInterval := by
  norm_num [lookInterval]

section Waiting

variable {context : Context Rat} {deadline : Rat}

theorem await_now {finish : Option Rat} {looks polls : Nat} {wait : Wait Rat}
    (held : context.deadline = some deadline) (open_ : context.done = false)
    (awaited : await finish looks polls context = some wait) :
    wait.context.deadline = some deadline ∧ context.now ≤ wait.context.now ∧
      wait.context.now ≤ deadline + lookInterval := by
  refine await_induction
    (fun other => other.deadline = some deadline ∧ context.now ≤ other.now ∧
      other.done = false)
    (fun wait => wait.context.deadline = some deadline ∧
      context.now ≤ wait.context.now ∧ wait.context.now ≤ deadline + lookInterval)
    ?answered ?givenUp ?next looks polls ⟨held, le_rfl, open_⟩ awaited
  case answered =>
    rintro polls other moment ⟨held, forward, open_⟩ found
    have ahead := Context.ahead_of_not_done held open_
    have within := overBy_le found
    rw [lookInterval_eq] at within ⊢
    simp only [Context.advance_deadline, Context.advance_now, Time.greater]
    refine ⟨held, ?_, ?_⟩ <;> split <;> linarith
  case givenUp =>
    rintro polls other ⟨held, forward, open_⟩ -
    have ahead := Context.ahead_of_not_done held open_
    simp only [Context.advance_deadline, Context.advance_now, lookInterval_eq]
    exact ⟨held, by linarith, by linarith⟩
  case next =>
    rintro other ⟨held, forward, -⟩ open_
    simp only [Context.advance_deadline, Context.advance_now, lookInterval_eq] at open_ ⊢
    exact ⟨held, by linarith, open_⟩

/-- A wait for an answer needs no more looks than there are until the deadline, even if the answer
never comes. -/
theorem await_isSome (finish : Option Rat) (looks polls : Nat)
    (held : context.deadline = some deadline)
    (enough : deadline ≤ context.now + (looks + 1) * lookInterval) :
    (await finish looks polls context).isSome = true := by
  have ended : ∀ {context : Context Rat} {later : Option (Wait Rat)} {polls : Nat},
      context.deadline = some deadline →
      (deadline ≤ context.now + lookInterval ∨ later.isSome = true) →
      (look finish polls context later).isSome = true := by
    intro context later polls held last
    unfold look
    split
    · rfl
    · split
      · rfl
      · next open_ =>
        obtain reached | more := last
        · exact absurd (Context.done_of_expired ((Context.expired_iff
            (by simpa using held)).mpr (by simpa using reached))) open_
        · exact more
  induction looks generalizing polls context with
  | zero =>
    rw [await_zero]
    exact ended held (.inl (by simpa using enough))
  | succ looks ih =>
    rw [await_succ]
    refine ended held (.inr (ih (polls + 1) (by simpa using held) ?_))
    rw [Context.advance_now]
    push_cast at enough
    linarith

end Waiting

/-- A moment of a wait: the deadline stands, and the clock is where it was at the start or later,
and no further than one look after the deadline. -/
structure OnTime (start deadline : Rat) (world : World Rat) : Prop where
  held : world.context.deadline = some deadline
  forward : start ≤ world.context.now
  bounded : world.context.now ≤ max start (deadline + lookInterval)
  timely : world.services.ec2.script.All Reply.timely

section OnTime

variable {start deadline : Rat} {looks : Nat}

theorem onTime_stillExists (enough : intervalsUntil deadline lookInterval start ≤ looks)
    (volumeId : Json) {world : World Rat} (onTime : OnTime start deadline world) :
    OnTime start deadline (stillExists looks volumeId world).2 ∧
      (stillExists looks volumeId world).1 ≠ .error .turnLimit := by
  have left := (Script.all_take onTime.timely volumeId).2
  have course := stillExists_questioned looks volumeId world
  generalize stillExists looks volumeId world = result at course ⊢
  cases course with
  | refused halted => exact ⟨onTime, nofun⟩
  | spent open_ endless =>
    have reached := (intervalsUntil_le_iff lookInterval_pos looks).mp enough
    have answered := await_isSome
      ((world.services.ec2.nextReply volumeId).finish world.context.now) looks 0
      onTime.held (by linarith [onTime.forward, lookInterval_pos])
    rw [endless] at answered
    cases answered
  | @waited open_ wait awaited =>
    obtain ⟨held, forward, bounded⟩ := await_now onTime.held open_ awaited
    have timely := nextReply_of_all (p := Reply.timely) onTime.timely nofun volumeId
    exact ⟨⟨held, onTime.forward.trans forward, le_max_of_le_right bounded, left⟩,
      wait.verdict_ne_turnLimit timely volumeId⟩

theorem steady_onTime (enough : intervalsUntil deadline lookInterval start ≤ looks) :
    Poll.Steady (stillExists looks) (OnTime start deadline) where
  asks volumeId _ onTime := (onTime_stillExists enough volumeId onTime).1
  waits world seconds onTime := by
    obtain ⟨forward, short⟩ := Context.rested_now onTime.held seconds
    have early : deadline ≤ max start (deadline + lookInterval) :=
      le_max_of_le_right (by linarith [lookInterval_pos])
    exact ⟨(Context.rested_deadline _ _).trans onTime.held, onTime.forward.trans forward,
      short.trans (max_le onTime.bounded early), onTime.timely⟩

end OnTime

end Ec2

namespace Poll

section Sweeping

variable {start deadline interval : Rat} {looks limit : Nat} {remaining : List Json}
  {run : Logged (World Rat)}

theorem intervalsUntil_pause {kept : List Json} {after : Logged (World Rat)}
    (positive : 0 < interval) (held : after.state.context.deadline = some deadline)
    (some : kept ≠ []) (open_ : (pause interval kept after).state.context.done = false) :
    intervalsUntil deadline interval (pause interval kept after).state.context.now + 1 ≤
      intervalsUntil deadline interval after.state.context.now := by
  rw [pause_of_some some] at open_ ⊢
  have passed := Context.rested_now_of_not_done held positive open_
  obtain ⟨-, ahead, -⟩ := Context.rested_of_not_done held open_
  exact intervalsUntil_lt positive passed.ge ahead

theorem sweep_onTime {outcome : Except Failure (List Json)} {after : Logged (World Rat)}
    (enough : intervalsUntil deadline Ec2.lookInterval start ≤ looks)
    (onTime : Ec2.OnTime start deadline run.state)
    (swept : sweep (Ec2.stillExists looks) remaining run = (outcome, after)) :
    Ec2.OnTime start deadline after.state ∧
      run.state.context.now ≤ after.state.context.now := by
  have same : (sweep (Ec2.stillExists looks) remaining run).2 = after := congrArg Prod.snd swept
  have fewer := (intervalsUntil_anti deadline Ec2.lookInterval_pos onTime.forward).trans enough
  have fresh : Ec2.OnTime run.state.context.now deadline run.state :=
    ⟨onTime.held, le_rfl, le_max_left _ _, onTime.timely⟩
  rw [← same]
  exact ⟨sweep_keeps (Ec2.steady_onTime enough).asks remaining run onTime,
    (sweep_keeps (Ec2.steady_onTime fewer).asks remaining run fresh).forward⟩

theorem length_rounds (positive : 0 < interval)
    (enough : intervalsUntil deadline Ec2.lookInterval start ≤ looks)
    (onTime : Ec2.OnTime start deadline run.state) :
    (rounds (Ec2.stillExists looks) interval limit remaining run).length ≤
      intervalsUntil deadline interval run.state.context.now := by
  induction limit, remaining, run using rounds_induction (Ec2.stillExists looks) interval with
  | none => simp
  | error limit remaining run failure after some halted swept =>
    exact intervalsUntil_pos positive (Context.ahead_of_not_done onTime.held halted)
  | next limit remaining run kept after some halted swept ih =>
    obtain ⟨later, forward⟩ := sweep_onTime enough onTime swept
    have closer := intervalsUntil_anti deadline positive forward
    have shorter := ih (pause_keeps (Ec2.steady_onTime enough) interval kept after later)
    generalize course : rounds _ interval limit kept _ = rest at shorter ⊢
    cases rest with
    | nil => exact intervalsUntil_pos positive (Context.ahead_of_not_done onTime.held halted)
    | cons round rest =>
      obtain ⟨left, open_, -⟩ := started_of_rounds course
      have slept := intervalsUntil_pause positive later.held left open_
      rw [List.length_cons]
      omega

theorem sweeps_ne_turnLimit (positive : 0 < interval)
    (enough : intervalsUntil deadline Ec2.lookInterval start ≤ looks)
    (onTime : Ec2.OnTime start deadline run.state)
    (allowed : intervalsUntil deadline interval run.state.context.now ≤ limit) :
    (sweeps (Ec2.stillExists looks) interval limit remaining run).1 ≠ .error .turnLimit := by
  have ends : remaining ≠ [] → run.state.context.done = false →
      intervalsUntil deadline interval run.state.context.now ≤ limit := fun _ _ => allowed
  clear allowed
  induction limit, remaining, run using sweeps_induction (Ec2.stillExists looks) interval with
  | nil => nofun
  | done limit remaining run some halted =>
    unfold Failure.ofRemaining
    split <;> nofun
  | spent remaining run some halted =>
    have ahead := Context.ahead_of_not_done onTime.held halted
    exact absurd (intervalsUntil_pos positive ahead) (not_lt.mpr (ends some halted))
  | error limit remaining run failure after some halted swept =>
    obtain ⟨id, world, before, answer, -⟩ :=
      sweep_error (Ec2.steady_onTime enough).asks run onTime swept
    have plain := (Ec2.onTime_stillExists enough id before).2
    rw [answer] at plain
    exact fun same => plain (congrArg Except.error (Except.error.inj same))
  | next limit remaining run kept after some halted swept ih =>
    obtain ⟨later, forward⟩ := sweep_onTime enough onTime swept
    apply ih (pause_keeps (Ec2.steady_onTime enough) interval kept after later)
    intro left open_
    have allowed := ends some halted
    have closer := intervalsUntil_anti deadline positive forward
    have slept := intervalsUntil_pause positive later.held left open_
    omega

end Sweeping

/-- The sweeps, the sleeps and the end of a wait that is on time. -/
structure Punctual (interval deadline : Rat) (before after : Context Rat)
    (made : List (Round Rat (Services Rat))) : Prop where
  sweeps : made.length ≤ intervalsUntil deadline interval before.now
  sleeps : after.sleeps.toList = before.sleeps.toList ++ made.filterMap (Round.rest interval)
  spans : ∀ round ∈ made, ∀ span, round.rest interval = some span →
    0 < span ∧ span ≤ interval ∧ span ≤ deadline - round.after.state.context.now
  clock : after.now ≤ max before.now (deadline + 0.1)

/-- With a deadline, a wait for the answers of EC2 always ends, and it ends on time. -/
theorem untilGone_punctual (looks limit : Nat) (interval deadline : Rat) (ids : List String)
    (run : Logged (World Rat)) (positive : 0 < interval)
    (held : run.state.context.deadline = some deadline)
    (timely : run.state.services.ec2.script.All Ec2.Reply.timely)
    (enough : intervalsUntil deadline Ec2.lookInterval run.state.context.now ≤ looks)
    (allowed : intervalsUntil deadline interval run.state.context.now ≤ limit) :
    (untilGone (Ec2.stillExists looks) interval limit (ids.map .str) run).1 ≠ .error .turnLimit ∧
      Punctual interval deadline run.state.context
        (untilGone (Ec2.stillExists looks) interval limit (ids.map .str) run).2.state.context
        (rounds (Ec2.stillExists looks) interval limit (ids.eraseDups.map .str) run) := by
  have onTime : Ec2.OnTime run.state.context.now deadline run.state :=
    ⟨held, le_rfl, le_max_left _ _, timely⟩
  have steady := Ec2.steady_onTime enough
  have waits : untilGone (Ec2.stillExists looks) interval limit (ids.map .str) run =
      sweeps (Ec2.stillExists looks) interval limit (ids.eraseDups.map .str) run := by
    rw [untilGone, Json.distinct_str]
  rw [waits]
  refine ⟨sweeps_ne_turnLimit positive enough onTime allowed, ?sweeps, ?sleeps, ?spans, ?clock⟩
  case sweeps => exact length_rounds positive enough onTime
  case sleeps => exact sweeps_sleeps (Ec2.stillExists_sleeps looks)
  case spans =>
    intro round member span slept
    have after := (rounds_keep steady onTime round member).2
    unfold Round.rest at slept
    split at slept
    · split at slept
      · cases slept
      · exact Context.rest_fits after.held slept
    · cases slept
  case clock => exact (sweeps_keeps steady interval limit _ run onTime).bounded

/-- A run with five seconds for two volumes that stay: one is in use whenever EC2 is asked, and
about the other one EC2 falls silent. -/
def stubborn : Logged (World Rat) :=
  { state := ⟨.create 0 (some 5) none,
      { ec2 := { script :=
          [("v", [⟨some (3 / 100), .volumes (.arr [.obj [("State", .str "in-use")]])⟩]),
            ("w", [⟨some 0, .volumes (.arr [.obj [("State", .str "in-use")]])⟩,
              ⟨none, .volumes (.arr [])⟩])] } }⟩ }

theorem untilGone_punctual_stubborn :
    (untilGone (Ec2.stillExists 50) 2 3 (["v", "w", "v"].map .str) stubborn).1 ≠
        .error .turnLimit ∧
      Punctual 2 5 stubborn.state.context
        (untilGone (Ec2.stillExists 50) 2 3 (["v", "w", "v"].map .str)
          stubborn).2.state.context
        (rounds (Ec2.stillExists 50) 2 3 (["v", "w", "v"].eraseDups.map .str) stubborn) := by
  apply untilGone_punctual 50 3 2 5 ["v", "w", "v"] stubborn
  · norm_num
  · rfl
  · simp [stubborn, Script.All, Ec2.Reply.timely, Ec2.Answer.volumes]
  · rw [intervalsUntil_le_iff Ec2.lookInterval_pos, Ec2.lookInterval_eq]
    norm_num [stubborn, Context.create]
  · rw [intervalsUntil_le_iff (by norm_num)]
    norm_num [stubborn, Context.create]

end Poll

end VolumeReclaim
