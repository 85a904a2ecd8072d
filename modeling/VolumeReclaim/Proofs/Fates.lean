import Mathlib.Data.ENat.Lattice
import VolumeReclaim.Proofs.ContextSteps
import VolumeReclaim.Proofs.LookGrid
import VolumeReclaim.Proofs.ReplyStreams

/-!
The fates of volumes when EC2 answers at once, with exact seconds. Each volume is asked about at the
start and after every interval, until it is reported gone or the deadline is reached. What EC2 says
of the other volumes makes no difference to it.
-/
set_option autoImplicit false

namespace VolumeReclaim

namespace Context

variable {context : Context Rat} {deadline interval : Rat}

theorem due_of_undisturbed (undisturbed : context.pending = none) : context.due = false := by
  rw [due, undisturbed]

theorem advance_self (settled : context.due = false) : context.advance context.now = context := by
  rw [advance, settle_eq]
  exact if_neg (Bool.eq_false_iff.mp settled)

theorem pending_rested (undisturbed : context.pending = none) (seconds : Rat) :
    (context.rested seconds).pending = none := by
  obtain same | ⟨-, span, same⟩ | ⟨-, span, time, same⟩ := rested_cases context seconds
  · rwa [same]
  · rw [same]
    exact undisturbed
  · rw [same, advance_pending]
    exact ite_eq_left_iff.mpr fun _ => undisturbed

/-- A sleep in an open run that nobody cancels takes one interval off those that are left. It ends
an interval later, unless it ends at the deadline. -/
theorem intervalsUntil_rested (held : context.deadline = some deadline)
    (undisturbed : context.pending = none) (open_ : context.done = false)
    (positive : 0 < interval) :
    intervalsUntil deadline interval (context.rested interval).now + 1 =
        intervalsUntil deadline interval context.now ∧
      (0 < intervalsUntil deadline interval (context.rested interval).now →
        (context.rested interval).now = context.now + interval) := by
  have ahead := ahead_of_not_done held open_
  have moved : (context.rested interval).now = min (context.now + interval) deadline := by
    have course := rested_now_eq (due_of_undisturbed undisturbed) open_ positive
    rw [held, undisturbed] at course
    exact WithTop.coe_inj.mp (course.trans (by simp [bound]))
  rw [moved]
  obtain within | beyond := le_or_gt (context.now + interval) deadline
  · rw [min_eq_left within]
    have closer := intervalsUntil_lt positive (le_refl (context.now + interval)) ahead
    have less := intervalsUntil_le_succ deadline positive
      (le_refl (context.now + interval))
    exact ⟨by omega, fun _ => rfl⟩
  · rw [min_eq_right beyond.le, intervalsUntil_of_reached positive (le_refl deadline)]
    have some := intervalsUntil_pos positive ahead
    have one : intervalsUntil deadline interval context.now ≤ 1 := by
      rw [intervalsUntil_le_iff positive]
      simpa using beyond.le
    exact ⟨by omega, fun left => absurd left (lt_irrefl 0)⟩

end Context

namespace Ec2

variable {τ : Type} [Time τ]

/-- Whether a reply makes for a volume that no longer exists. -/
def Reply.reportsGone (id : String) (reply : Reply τ) : Prop :=
  (reply.answer.state (.str id)).map existsIn = .ok false

omit [Time τ] in
theorem Reply.reportsGone_or {reply : Reply τ} (shape : reply.wellFormed) (id : String) :
    reply.reportsGone id ∨ ¬ reply.reportsGone id ∧
      ((reply.answer.state (.str id)).map existsIn = .ok true ∨
        ∃ text, (reply.answer.state (.str id)).map existsIn =
          .error (queryFailure (.str id) text)) := by
  rw [Reply.reportsGone]
  obtain ⟨state, known⟩ | ⟨text, unknown⟩ := state_of_wellFormed shape (.str id)
  · rw [known, Except.map]
    cases existsIn state with
    | true => exact .inr ⟨nofun, .inl rfl⟩
    | false => exact .inl rfl
  · rw [unknown]
    exact .inr ⟨nofun, .inr ⟨text, rfl⟩⟩

/-- The reply to a question that comes after some others, if these replies are laid out. -/
def replyAfter (replies : List (Reply τ)) (place : Nat) : Reply τ :=
  (Script.nth replies place).getD .nothing

/-- The number of the first question about a volume whose reply reports it gone. It is infinite if
there is none. -/
noncomputable def firstGone (id : String) (replies : List (Reply τ)) : ℕ∞ :=
  ⨅ (place : Nat) (_ : (replyAfter replies place).reportsGone id), (place : ℕ∞) + 1

def repliesTo (world : World τ) (id : String) : List (Reply τ) :=
  world.services.ec2.script.answers (.str id)

section FirstGone

variable {id : String} {replies : List (Reply τ)}

theorem firstGone_of_gone (gone : (replyAfter replies 0).reportsGone id) :
    firstGone id replies = 1 := by
  apply le_antisymm
  · exact (iInf₂_le 0 gone).trans_eq (by simp)
  · exact le_iInf₂ fun place _ => le_add_self

/-- If the first reply does not report a volume gone, one question less is needed of the others. -/
theorem firstGone_of_not_gone (here : ¬ (replyAfter replies 0).reportsGone id) :
    firstGone id replies = firstGone id (Script.afterFirst replies) + 1 := by
  have later : ∀ place,
      replyAfter replies (place + 1) = replyAfter (Script.afterFirst replies) place :=
    fun _ => rfl
  calc
    firstGone id replies
      = (⨅ (_ : (replyAfter replies 0).reportsGone id), ((0 : Nat) : ℕ∞) + 1) ⊓
          ⨅ (place : Nat) (_ : (replyAfter replies (place + 1)).reportsGone id),
            ((place + 1 : Nat) : ℕ∞) + 1 := (inf_iInf_nat_succ _).symm
    _ = ⨅ (place : Nat) (_ : (replyAfter (Script.afterFirst replies) place).reportsGone id),
          ((place + 1 : Nat) : ℕ∞) + 1 := by
        simp only [here, iInf_false, top_inf_eq, later]
    _ = firstGone id (Script.afterFirst replies) + 1 := by
        simp only [firstGone, ENat.iInf_add, Nat.cast_add, Nat.cast_one]

theorem one_le_firstGone : 1 ≤ firstGone id replies :=
  le_iInf₂ fun _ _ => le_add_self

theorem one_lt_firstGone_iff :
    1 < firstGone id replies ↔ ¬ (replyAfter replies 0).reportsGone id := by
  constructor
  · intro later gone
    rw [firstGone_of_gone gone] at later
    exact lt_irrefl 1 later
  · intro here
    rw [firstGone_of_not_gone here]
    calc
      (1 : ℕ∞) < 1 + 1 := by norm_num
      _ ≤ _ := by gcongr; exact one_le_firstGone

end FirstGone

/-- Whether a reply comes at once, in one of the shapes in which EC2 answers. -/
def Reply.prompt (reply : Reply Rat) : Prop :=
  reply.duration = some 0 ∧ reply.wellFormed

/-- A run with a deadline that nobody cancels and in which EC2 answers at once. -/
structure Prompt (deadline : Rat) (world : World Rat) : Prop where
  held : world.context.deadline = some deadline
  uncancelled : world.context.cancelled = false
  undisturbed : world.context.pending = none
  replies : world.services.ec2.script.All Reply.prompt

def atOnce (world : World Rat) (volumeId : Json) : Request Rat :=
  ⟨volumeId, world.context, 0, .answered (world.services.ec2.nextReply volumeId).answer,
    world.context.now⟩

def answeredAtOnce (world : World Rat) (volumeId : Json) : World Rat :=
  ⟨world.context, world.services.kubectl, (world.services.ec2.script.take volumeId).2,
    world.services.ec2.requests.push (atOnce world volumeId)⟩

section Questions

variable {deadline : Rat} {world : World Rat}

theorem stillExists_prompt (looks : Nat) (prompt : Prompt deadline world)
    (open_ : world.context.done = false) (volumeId : Json) :
    stillExists looks volumeId world =
      (((world.services.ec2.nextReply volumeId).answer.state volumeId).map existsIn,
        answeredAtOnce world volumeId) := by
  have nothing : (Reply.nothing : Reply Rat).prompt := ⟨congrArg some Context.zero_eq, rfl⟩
  have ends : (world.services.ec2.nextReply volumeId).finish world.context.now =
      some world.context.now := by
    rw [Reply.finish, (nextReply_of_all prompt.replies nothing volumeId).1, Option.map_some,
      add_zero]
  have soon : world.context.now ≤ world.context.now + lookInterval := by
    linarith [lookInterval_pos]
  have awaited : await ((world.services.ec2.nextReply volumeId).finish world.context.now) looks 0
      world.context = some ⟨true, 0, world.context⟩ := by
    rw [ends]
    apply await_of_look
    intro later
    rw [look]
    simp only [overBy_of_le soon, Time.greater, lt_irrefl, if_false,
      Context.advance_self (Context.due_of_undisturbed prompt.undisturbed)]
  exact stillExists_waited open_ awaited

theorem steady_prompt (deadline : Rat) (looks : Nat) :
    Poll.Steady (stillExists looks) (Prompt deadline) where
  asks volumeId world prompt := by
    cases halted : world.context.done with
    | true => rwa [stillExists_refused halted]
    | false =>
      rw [stillExists_prompt looks prompt halted]
      exact ⟨prompt.held, prompt.uncancelled, prompt.undisturbed,
        (Script.all_take prompt.replies volumeId).2⟩
  waits world seconds prompt := by
    have open_ : (world.context.rested seconds).cancelled = false := by
      have course := Context.cancelled_rested_iff
        (Context.due_of_undisturbed prompt.undisturbed) seconds
      simpa [prompt.undisturbed, prompt.uncancelled] using course
    exact ⟨(Context.rested_deadline _ _).trans prompt.held, open_,
      Context.pending_rested prompt.undisturbed seconds, prompt.replies⟩

/-- What a sweep without a delay does: one request about each of its volumes, in order, and nothing
to the replies laid out for other ones. -/
structure SweptAtOnce (ids : List String) (before after : World Rat) : Prop where
  context : after.context = before.context
  requests : after.services.ec2.requests.toList =
    before.services.ec2.requests.toList ++ ids.map fun id => atOnce before (.str id)
  asked : ∀ id ∈ ids, repliesTo after id = Script.afterFirst (repliesTo before id)
  others : ∀ id ∉ ids, repliesTo after id = repliesTo before id

theorem nextReply_eq_replyAfter (world : World Rat) (id : String) :
    world.services.ec2.nextReply (.str id) = replyAfter (repliesTo world id) 0 :=
  nextReply_eq _ _

theorem repliesTo_answeredAtOnce {id other : String} (apart : other ≠ id) :
    repliesTo (answeredAtOnce world (.str id)) other = repliesTo world other :=
  Script.answers_take_other _ fun same => apart (Json.str.inj same)

theorem SweptAtOnce.cons {id : String} {rest : List String} {after : World Rat}
    (fresh : id ∉ rest) (later : SweptAtOnce rest (answeredAtOnce world (.str id)) after) :
    SweptAtOnce (id :: rest) world after where
  context := later.context
  requests := by
    have same : ∀ other ∈ rest,
        atOnce (answeredAtOnce world (.str id)) (.str other) = atOnce world (.str other) := by
      intro other member
      have apart : other ≠ id := fun equal => fresh (equal ▸ member)
      rw [atOnce, atOnce, nextReply_eq_replyAfter, nextReply_eq_replyAfter,
        repliesTo_answeredAtOnce apart]
      rfl
    rw [later.requests, List.map_congr_left same, answeredAtOnce, Array.toList_push,
      List.append_assoc]
    rfl
  asked := by
    refine List.forall_mem_cons.mpr ⟨?_, fun other member => ?_⟩
    · exact (later.others id fresh).trans (Script.answers_take_same _ _)
    · have apart : other ≠ id := fun equal => fresh (equal ▸ member)
      rw [later.asked other member, repliesTo_answeredAtOnce apart]
  others := by
    intro other absent
    obtain ⟨apart, absent⟩ := not_or.mp (List.mem_cons.not.mp absent)
    rw [later.others other absent, repliesTo_answeredAtOnce apart]

/-- The result of a sweep without a delay: it keeps exactly the volumes whose next reply does not
report them gone. -/
structure Sifted (ids : List String) (before : World Rat)
    (result : Except Failure (List Json) × Logged (World Rat)) : Prop where
  kept : result.1 = .ok ((ids.filter fun id => 1 < firstGone id (repliesTo before id)).map .str)
  swept : SweptAtOnce ids before result.2.state

section Sifted

variable {id : String} {rest : List String}
  {result : Except Failure (List Json) × Logged (World Rat)}

theorem Sifted.same (fresh : id ∉ rest)
    (later : Sifted rest (answeredAtOnce world (.str id)) result) :
    result.1 = .ok ((rest.filter fun id => 1 < firstGone id (repliesTo world id)).map .str) := by
  refine later.kept.trans ?_
  congr 2
  apply List.filter_congr
  intro other member
  have apart : other ≠ id := fun equal => fresh (equal ▸ member)
  rw [repliesTo_answeredAtOnce apart]

theorem Sifted.present (fresh : id ∉ rest)
    (here : ¬ (replyAfter (repliesTo world id) 0).reportsGone id)
    (later : Sifted rest (answeredAtOnce world (.str id)) result) :
    Sifted (id :: rest) world (Poll.retain (.str id) result) where
  kept := by
    rw [List.filter_cons_of_pos (by simpa using one_lt_firstGone_iff.mpr here), Poll.retain,
      later.same fresh]
    rfl
  swept := later.swept.cons fresh

theorem Sifted.gone (fresh : id ∉ rest)
    (gone : (replyAfter (repliesTo world id) 0).reportsGone id)
    (later : Sifted rest (answeredAtOnce world (.str id)) result) :
    Sifted (id :: rest) world result where
  kept := by
    have dropped : ¬ 1 < firstGone id (repliesTo world id) :=
      fun further => one_lt_firstGone_iff.mp further gone
    rw [List.filter_cons_of_neg (by simpa using dropped), later.same fresh]
  swept := later.swept.cons fresh

end Sifted

theorem sifted_sweep (looks : Nat) {ids : List String} (distinct : ids.Nodup)
    {run : Logged (World Rat)} (prompt : Prompt deadline run.state)
    (open_ : run.state.context.done = false) :
    Sifted ids run.state (Poll.sweep (stillExists looks) (ids.map .str) run) := by
  induction ids generalizing run with
  | nil => exact ⟨rfl, rfl, by simp [Poll.sweep], by simp, fun _ _ => rfl⟩
  | cons id rest ih =>
    obtain ⟨fresh, others⟩ := List.nodup_cons.mp distinct
    have course := stillExists_prompt looks prompt open_ (.str id)
    have stays := (steady_prompt deadline looks).asks (.str id) run.state prompt
    rw [course] at stays
    have later : ∀ next : Logged (World Rat), next.state = answeredAtOnce run.state (.str id) →
        Sifted rest (answeredAtOnce run.state (.str id))
          (Poll.sweep (stillExists looks) (rest.map .str) next) := by
      rintro ⟨_, lines⟩ rfl
      have left : Prompt deadline (Logged.mk (answeredAtOnce run.state (.str id)) lines).state :=
        stays
      exact ih others left open_
    have asked : (Poll.asked (stillExists looks) (.str id) run).state =
        answeredAtOnce run.state (.str id) := by
      rw [Poll.asked, course]
    have answer : (stillExists looks (.str id) run.state).1 =
        ((replyAfter (repliesTo run.state id) 0).answer.state (.str id)).map existsIn := by
      rw [course, nextReply_eq_replyAfter]
    have shape : (replyAfter (repliesTo run.state id) 0).wellFormed := by
      rw [← nextReply_eq_replyAfter]
      exact nextReply_of_all (prompt.replies.imp fun _ => And.right) rfl (.str id)
    rw [List.map_cons]
    obtain gone | ⟨here, present | ⟨text, unknown⟩⟩ := Reply.reportsGone_or shape id
    · rw [Poll.sweep_gone (answer.trans gone)]
      exact Sifted.gone fresh gone (later _ asked)
    · rw [Poll.sweep_present (answer.trans present)]
      exact Sifted.present fresh here (later _ asked)
    · rw [Poll.sweep_failed (answer.trans unknown)]
      exact Sifted.present fresh here (later _ asked)

end Questions

def Request.concerns (id : String) (request : Request τ) : Bool :=
  match request.volumeId with
  | .str name => name == id
  | _ => false

/-- This many requests about a volume come at the start and then after each interval. -/
def AskedEvery (interval start : Rat) (total : ℕ∞) (made : List (Request Rat)) : Prop :=
  ∃ count : Nat, (count : ℕ∞) = total ∧
    made.map (·.started.now) = (List.range count).map fun place : Nat => start + place * interval

/-- The fates of some volumes after a number of sweeps. Those remain whose first reply that reports
them gone comes later, and each was asked about in every sweep up to that reply. -/
structure Fates (interval : Rat) (sweeps : Nat) (ids : List String) (before after : World Rat)
    (outcome : Except Failure Unit) : Prop where
  outcome : outcome = Poll.conclusion
    (ids.filter fun id => (sweeps : ℕ∞) < firstGone id (repliesTo before id)) false
  requests : ∃ made : List (Request Rat),
    after.services.ec2.requests.toList = before.services.ec2.requests.toList ++ made ∧
    (∀ request ∈ made, ∃ id ∈ ids, request.volumeId = .str id) ∧
    ∀ id ∈ ids, AskedEvery interval before.context.now
      (min (firstGone id (repliesTo before id)) sweeps) (made.filter (Request.concerns id))

section Fates

variable {interval deadline : Rat} {world : World Rat} {ids : List String}

theorem filter_concerns_map {id : String} (distinct : ids.Nodup) (member : id ∈ ids) :
    (ids.map fun id => atOnce world (.str id)).filter (Request.concerns id) =
      [atOnce world (.str id)] := by
  have only : ids.filter (· == id) = [id] := by
    rw [List.filter_beq, List.count_eq_one_of_mem distinct member, List.replicate_one]
  rw [List.filter_map]
  exact congrArg (List.map _) only

theorem askedEvery_cons {interval start later : Rat} {total : ℕ∞} {request : Request Rat}
    {made : List (Request Rat)} (first : request.started.now = start)
    (others : AskedEvery interval later total made)
    (next : total ≠ 0 → later = start + interval) :
    AskedEvery interval start (total + 1) (request :: made) := by
  obtain ⟨count, same, times⟩ := others
  refine ⟨count + 1, by rw [← same]; push_cast; rfl, ?_⟩
  rw [List.map_cons, times, first, List.range_succ_eq_map, List.map_cons, List.map_map]
  refine congrArg₂ List.cons (by simp) (List.map_congr_left fun place within => ?_)
  have some : total ≠ 0 := by
    rw [← same]
    have positive := List.mem_range.mp within
    exact_mod_cast (by omega : count ≠ 0)
  rw [next some]
  simp only [Function.comp_apply]
  push_cast
  ring

theorem askedEvery_nil (interval start : Rat) : AskedEvery interval start 0 [] :=
  ⟨0, rfl, rfl⟩

theorem fates_halted (interval : Rat) (ids : List String) (world : World Rat) :
    Fates interval 0 ids world world (Poll.conclusion ids false) where
  outcome := by
    have all : ids.filter (fun id => ((0 : Nat) : ℕ∞) < firstGone id (repliesTo world id)) = ids :=
      List.filter_eq_self.mpr fun id _ =>
        decide_eq_true (zero_lt_one.trans_le one_le_firstGone)
    rw [all]
  requests := by
    refine ⟨[], by simp, by simp, fun id _ => ?_⟩
    rw [Nat.cast_zero, min_zero]
    exact askedEvery_nil interval world.context.now

theorem SweptAtOnce.fate {swept next : World Rat} (course : SweptAtOnce ids world swept)
    (services : next.services = swept.services) {id : String} (member : id ∈ ids) :
    firstGone id (repliesTo world id) = 1 ∨
      id ∈ ids.filter (fun id => 1 < firstGone id (repliesTo world id)) ∧
        firstGone id (repliesTo world id) = firstGone id (repliesTo next id) + 1 := by
  by_cases gone : (replyAfter (repliesTo world id) 0).reportsGone id
  · exact .inl (firstGone_of_gone gone)
  · have left : repliesTo next id = Script.afterFirst (repliesTo world id) := by
      rw [← course.asked id member, repliesTo, services, ← repliesTo]
    rw [left, ← firstGone_of_not_gone gone]
    exact .inr ⟨List.mem_filter.mpr ⟨member, by simpa using one_lt_firstGone_iff.mpr gone⟩, rfl⟩

theorem filter_concerns_eq_nil {id : String} {made : List (Request Rat)} (absent : id ∉ ids)
    (about : ∀ request ∈ made, ∃ id ∈ ids, request.volumeId = .str id) :
    made.filter (Request.concerns id) = [] := by
  rw [List.filter_eq_nil_iff]
  intro request asked named
  obtain ⟨other, member, same⟩ := about request asked
  have equal : other = id := by simpa [Request.concerns, same] using named
  exact absent (equal ▸ member)

/-- A sweep adds one question to the fates of its volumes. For those left after it, the next sweep
comes an interval later, if it comes. -/
theorem Fates.cons {sweeps later : Nat} {swept after : World Rat}
    {outcome : Except Failure Unit} (distinct : ids.Nodup) (course : SweptAtOnce ids world swept)
    (some : 1 ≤ sweeps) {next : World Rat} (services : next.services = swept.services)
    (closer : (ids.filter fun id => 1 < firstGone id (repliesTo world id)) ≠ [] →
      later + 1 = sweeps ∧ (0 < later → next.context.now = world.context.now + interval))
    (rest : Fates interval later (ids.filter fun id => 1 < firstGone id (repliesTo world id))
      next after outcome) : Fates interval sweeps ids world after outcome := by
  obtain ⟨made, requests, about, every⟩ := rest.requests
  have whole : (1 : ℕ∞) ≤ sweeps := by exact_mod_cast some
  refine ⟨?outcome, ids.map (fun id => atOnce world (.str id)) ++ made, ?requests, ?about, ?every⟩
  case outcome =>
    rw [rest.outcome, List.filter_filter]
    congr 1
    apply List.filter_congr
    intro id member
    rw [← Bool.decide_and, decide_eq_decide]
    obtain gone | ⟨left, further⟩ := course.fate services member
    · simp only [gone, lt_irrefl, and_false, false_iff, not_lt]
      exact whole
    · obtain ⟨rfl, -⟩ := closer (List.ne_nil_of_mem left)
      have remains : 1 < firstGone id (repliesTo world id) := by
        simpa using (List.mem_filter.mp left).2
      rw [and_iff_left remains, further, Nat.cast_succ, ENat.add_lt_add_iff_right (by decide)]
  case requests =>
    rw [requests, services, course.requests, List.append_assoc]
  case about =>
    refine List.forall_mem_append.mpr ⟨List.forall_mem_map.mpr fun id member => ⟨id, member, rfl⟩,
      fun request member => ?_⟩
    obtain ⟨id, left, named⟩ := about request member
    exact ⟨id, (List.mem_filter.mp left).1, named⟩
  case every =>
    intro id member
    rw [List.filter_append, filter_concerns_map distinct member, List.singleton_append]
    obtain gone | ⟨left, further⟩ := course.fate services member
    · have absent : id ∉ ids.filter (fun id => 1 < firstGone id (repliesTo world id)) := by
        simp [gone]
      rw [filter_concerns_eq_nil absent about, gone, min_eq_left whole, ← zero_add (1 : ℕ∞)]
      exact askedEvery_cons rfl (askedEvery_nil interval (world.context.now + interval))
        fun _ => rfl
    · obtain ⟨rfl, paused⟩ := closer (List.ne_nil_of_mem left)
      have others := every id left
      rw [further, Nat.cast_succ, min_add_add_right]
      refine askedEvery_cons rfl others fun more => paused ?_
      rw [Nat.pos_iff_ne_zero]
      rintro rfl
      exact more (min_zero _)

end Fates

end Ec2

namespace Poll

open Ec2

section Waiting

variable {interval deadline : Rat} {limit : Nat} {run : Logged (World Rat)}

theorem pause_services (interval : Rat) (kept : List Json) (run : Logged (World Rat)) :
    (pause interval kept run).state.services = run.state.services := by
  unfold pause
  split <;> rfl

theorem pause_takes_interval {before : World Rat} (positive : 0 < interval)
    (prompt : Prompt deadline before) (open_ : before.context.done = false)
    (same : run.state.context = before.context) {kept : List Json} (some : kept ≠ []) :
    intervalsUntil deadline interval (pause interval kept run).state.context.now + 1 =
        intervalsUntil deadline interval before.context.now ∧
      (0 < intervalsUntil deadline interval (pause interval kept run).state.context.now →
        (pause interval kept run).state.context.now = before.context.now + interval) := by
  rw [pause_of_some some, Timed.wait_snd, same]
  exact Context.intervalsUntil_rested prompt.held prompt.undisturbed open_ positive

theorem conclusion_eq_ok_iff {left : List String} {cancelled : Bool} :
    conclusion left cancelled = .ok () ↔ left = [] := by
  unfold conclusion
  split <;> simp [*]

theorem sweeps_fates (looks : Nat) {ids : List String} (distinct : ids.Nodup)
    (positive : 0 < interval) (prompt : Prompt deadline run.state)
    (enough : ids ≠ [] → intervalsUntil deadline interval run.state.context.now ≤ limit) :
    Fates interval (intervalsUntil deadline interval run.state.context.now) ids run.state
      (sweeps (stillExists looks) interval limit (ids.map .str) run).2.state
      (sweeps (stillExists looks) interval limit (ids.map .str) run).1 := by
  obtain ⟨remaining, texts⟩ : ∃ remaining, remaining = ids.map Json.str := ⟨_, rfl⟩
  rw [← texts]
  induction limit, remaining, run using sweeps_induction (stillExists looks) interval
      generalizing ids with
  | nil limit run =>
    cases List.map_eq_nil_iff.mp texts.symm
    exact ⟨rfl, [], by simp, by simp, by simp⟩
  | done limit remaining run some halted =>
    subst texts
    have left : ids ≠ [] := fun none => some (none ▸ rfl)
    have passed : deadline ≤ run.state.context.now := by
      rw [Context.done, prompt.uncancelled, Bool.false_or] at halted
      exact (Context.expired_iff prompt.held).mp halted
    have fates := fates_halted interval ids run.state
    rw [conclusion, if_neg left] at fates
    rw [intervalsUntil_of_reached positive passed, Failure.ofRemaining_str, prompt.uncancelled]
    exact fates
  | spent remaining run some halted =>
    have left : ids ≠ [] := fun none => some (texts ▸ none ▸ rfl)
    have ahead := Context.ahead_of_not_done prompt.held halted
    exact absurd (intervalsUntil_pos positive ahead) (not_lt.mpr (enough left))
  | error limit remaining run failure after some halted swept =>
    subst texts
    have kept := (sifted_sweep looks distinct prompt halted).kept
    rw [swept] at kept
    cases kept
  | next limit remaining run kept after some halted swept ih =>
    subst texts
    obtain ⟨same, course⟩ := sifted_sweep looks distinct prompt halted
    have stays := sweep_keeps (steady_prompt deadline looks).asks (ids.map .str) run prompt
    rw [swept] at same course stays
    cases same
    have some : ids ≠ [] := fun none => some (none ▸ rfl)
    have ahead := Context.ahead_of_not_done prompt.held halted
    generalize left : ids.filter (fun id => 1 < firstGone id (repliesTo run.state id)) = kept
      at ih ⊢
    have listed : kept ≠ [] → kept.map Json.str ≠ [] := List.map_eq_nil_iff.not.mpr
    have closer := fun more =>
      pause_takes_interval positive prompt halted course.context (listed more)
    have allowed : kept ≠ [] → intervalsUntil deadline interval
        (pause interval (kept.map .str) after).state.context.now ≤ limit := by
      intro more
      have now := enough some
      rw [← (closer more).1] at now
      exact Nat.le_of_succ_le_succ now
    have rest := ih (left ▸ distinct.filter _)
      (pause_keeps (steady_prompt deadline looks) interval _ after stays) allowed rfl
    subst left
    exact rest.cons distinct course (intervalsUntil_pos positive ahead)
      (pause_services interval _ after) closer

end Waiting

/-- When EC2 answers at once, a wait ends well exactly if every volume is reported gone in one of
the sweeps until the deadline. Otherwise the volumes that are not are named, in order. How often and
when a volume is asked about depends on the replies about it alone. -/
theorem untilGone_fates (looks limit : Nat) (interval deadline : Rat) (ids : List String)
    (run : Logged (World Rat)) (positive : 0 < interval) (prompt : Prompt deadline run.state)
    (enough : intervalsUntil deadline interval run.state.context.now ≤ limit) :
    Fates interval (intervalsUntil deadline interval run.state.context.now) ids.eraseDups run.state
        (untilGone (stillExists looks) interval limit (ids.map .str) run).2.state
        (untilGone (stillExists looks) interval limit (ids.map .str) run).1 ∧
      ((untilGone (stillExists looks) interval limit (ids.map .str) run).1 = .ok () ↔
        ∀ id ∈ ids, firstGone id (repliesTo run.state id) ≤
          intervalsUntil deadline interval run.state.context.now) := by
  have waits : untilGone (stillExists looks) interval limit (ids.map .str) run =
      sweeps (stillExists looks) interval limit (ids.eraseDups.map .str) run := by
    rw [untilGone, Json.distinct_str]
  rw [waits]
  have fates := sweeps_fates looks (nodup_eraseDups ids) positive prompt
    fun _ => enough
  refine ⟨fates, ?_⟩
  rw [fates.outcome, conclusion_eq_ok_iff, List.filter_eq_nil_iff]
  simp only [List.mem_eraseDups, decide_eq_true_eq, not_lt]

/-- A run with five seconds for two volumes: one that stays in use, and one that does until it is
asked about for the second time. -/
def patient : Logged (World Rat) :=
  { state := ⟨.create 0 (some 5) none,
      { ec2 := { script :=
          [("v", [⟨some 0, .volumes (.arr [.obj [("State", .str "in-use")]])⟩]),
            ("w", [⟨some 0, .volumes (.arr [.obj [("State", .str "in-use")]])⟩,
              ⟨some 0, .volumes (.arr [])⟩])] } }⟩ }

theorem untilGone_fates_patient :
    Fates 2 (intervalsUntil 5 2 0) ["w", "v", "w"].eraseDups patient.state
        (untilGone (stillExists 0) 2 3 (["w", "v", "w"].map .str) patient).2.state
        (untilGone (stillExists 0) 2 3 (["w", "v", "w"].map .str) patient).1 ∧
      ((untilGone (stillExists 0) 2 3 (["w", "v", "w"].map .str) patient).1 = .ok () ↔
        ∀ id ∈ ["w", "v", "w"], firstGone id (repliesTo patient.state id) ≤
          intervalsUntil 5 2 0) := by
  refine untilGone_fates 0 3 2 5 ["w", "v", "w"] patient (by norm_num) ⟨rfl, rfl, rfl, ?_⟩ ?_
  · simp [patient, Script.All, Reply.prompt, Reply.wellFormed, Answer.volumes, Answer.wellFormed,
      Json.holds, Json.find?, Json.nullOr, Json.listsObjects, Json.isObject]
  · rw [intervalsUntil_le_iff (by norm_num)]
    norm_num [patient, Context.create, Context.settle]

end Poll

end VolumeReclaim
