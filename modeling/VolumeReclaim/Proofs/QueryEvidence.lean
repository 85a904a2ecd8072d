import VolumeReclaim.Proofs.SweepChain
import VolumeReclaim.Proofs.Verdicts

/-!
The requests behind the questions of a wait. A volume is found gone exactly if a request about it
was answered and the answer reports it gone; a wait leaves kubectl alone.
-/
set_option autoImplicit false

namespace VolumeReclaim

namespace Script

variable {ρ : Type} {p : ρ → Prop}

def All (p : ρ → Prop) (script : Script ρ) : Prop :=
  ∀ entry ∈ script, ∀ answer ∈ entry.2, p answer

theorem All.imp {q : ρ → Prop} {script : Script ρ} (all : script.All p)
    (implies : ∀ answer, p answer → q answer) : script.All q :=
  fun entry member answer given => implies answer (all entry member answer given)

theorem afterFirst_subset (answers : List ρ) : afterFirst answers ⊆ answers := by
  match answers with
  | [] => exact List.Subset.refl _
  | [_] => exact List.Subset.refl _
  | _ :: _ :: _ => exact List.subset_cons_self _ _

theorem all_go {script : Script ρ} (all : script.All p) (id : String) :
    (∀ answer, (take.go id script).1 = some answer → p answer) ∧ (take.go id script).2.All p := by
  induction script with
  | nil => exact ⟨nofun, all⟩
  | cons entry rest ih =>
    obtain ⟨known, answers⟩ := entry
    obtain ⟨first, others⟩ := List.forall_mem_cons.mp all
    rw [take.go]
    by_cases same : known = id
    · rw [if_pos same]
      exact ⟨fun answer taken => first answer (List.mem_of_head? taken),
        List.forall_mem_cons.mpr ⟨fun answer left => first answer (afterFirst_subset _ left),
          others⟩⟩
    · rw [if_neg same]
      obtain ⟨taken, left⟩ := ih others
      exact ⟨taken, List.forall_mem_cons.mpr ⟨first, left⟩⟩

theorem all_take {script : Script ρ} (all : script.All p) (volumeId : Json) :
    (∀ answer, (script.take volumeId).1 = some answer → p answer) ∧
      (script.take volumeId).2.All p := by
  cases volumeId with
  | str id => exact all_go all id
  | _ => exact ⟨nofun, all⟩

end Script

namespace Ec2

/-- Whether a reply is EC2's own: its failure, if it is one, names no volumes as not deleted. -/
def Reply.foreign {τ : Type} (reply : Reply τ) : Prop :=
  ∀ cause, reply.answer = .failure cause → cause.isVerdict = false

/-- Whether a request was answered and its answer reports the volume gone. -/
def Request.reportsGone {τ : Type} (request : Request τ) : Bool :=
  match request.ending with
  | .answered answer =>
    match answer.state request.volumeId with
    | .ok state => !existsIn state
    | .error _ => false
  | .givenUp => false

variable {τ : Type} [Time τ]

inductive Asked (session : Session τ) (volumeId : Json) :
    Except Failure Answer → Session τ → Prop where
  | refused (message : String) : Asked session volumeId (.error (.contextDone message)) session
  | spent : Asked session volumeId (.error .turnLimit)
      { session with script := (session.script.take volumeId).2 }
  | answered {request : Request τ} (about : request.volumeId = volumeId)
      (ending : request.ending =
        .answered ((session.script.take volumeId).1.getD .nothing).answer) :
      Asked session volumeId (.ok ((session.script.take volumeId).1.getD .nothing).answer)
        ⟨(session.script.take volumeId).2, session.requests.push request⟩
  | givenUp {request : Request τ} (about : request.volumeId = volumeId)
      (ending : request.ending = .givenUp) (message : String) :
      Asked session volumeId (.error (.contextDone message))
        ⟨(session.script.take volumeId).2, session.requests.push request⟩

theorem asked_ask (session : Session τ) (limit : Nat) (context : Context τ) (volumeId : Json) :
    Asked session volumeId (session.ask limit context volumeId).1
      (session.ask limit context volumeId).2.2 := by
  unfold Session.ask
  by_cases halted : context.done = true
  · rw [if_pos halted]
    exact .refused _
  · rw [if_neg halted]
    dsimp only
    cases await _ limit 0 context with
    | none => exact .spent
    | some wait =>
      obtain ⟨answered, polls, after⟩ := wait
      cases answered with
      | true => refine .answered ?_ ?_ <;> rfl
      | false => refine .givenUp ?_ ?_ _ <;> rfl

/-- What a question leaves behind: at most one request, which reports the volume gone exactly if
that is what the question comes to. -/
structure Evidence (volumeId : Json) (before : World τ) (answer : Except Failure Bool)
    (after : World τ) : Prop where
  kubectl : after.services.kubectl = before.services.kubectl
  foreign : after.services.ec2.script.All Reply.foreign
  requests : ∃ made : List (Request τ),
    after.services.ec2.requests.toList = before.services.ec2.requests.toList ++ made ∧
    (∀ request ∈ made, request.volumeId = volumeId) ∧
    (answer = .ok false ↔ ∃ request ∈ made, request.reportsGone = true)
  unjudged : Unjudged answer

theorem evidence_stillExists (limit : Nat) (volumeId : Json) (world : World τ)
    (foreign : world.services.ec2.script.All Reply.foreign) :
    Evidence volumeId world (stillExists limit volumeId world).1
      (stillExists limit volumeId world).2 := by
  obtain ⟨taken, left⟩ := Script.all_take foreign volumeId
  have course := asked_ask world.services.ec2 limit world.context volumeId
  unfold stillExists volumeState
  dsimp only
  generalize world.services.ec2.ask limit world.context volumeId = result at course ⊢
  obtain ⟨answer, context, session⟩ := result
  dsimp only at course ⊢
  cases course with
  | refused message =>
    exact ⟨rfl, foreign, ⟨[], by simp, by simp, by simp [Except.bind, Except.map]⟩,
      unjudged_error rfl⟩
  | spent =>
    exact ⟨rfl, left, ⟨[], by simp, by simp, by simp [Except.bind, Except.map]⟩,
      unjudged_error rfl⟩
  | givenUp about ending message =>
    refine ⟨rfl, left, ⟨[_], Array.toList_push, by simpa using about, ?_⟩, unjudged_error rfl⟩
    simp [Except.bind, Except.map, Request.reportsGone, ending]
  | answered about ending =>
    have fair : Reply.foreign ((world.services.ec2.script.take volumeId).1.getD .nothing) := by
      cases given : (world.services.ec2.script.take volumeId).1 with
      | some reply => exact taken reply given
      | none => exact nofun
    refine ⟨rfl, left, ⟨[_], Array.toList_push, by simpa using about, ?_⟩,
      (unjudged_state volumeId fair).map existsIn⟩
    simp only [Except.bind, List.mem_singleton, exists_eq_left, Request.reportsGone, ending, about]
    cases Answer.state volumeId _ with
    | error failure => simp [Except.map]
    | ok state => simp [Except.map]

/-- The record of a wait and the requests made in it agree on the volumes that are gone. -/
structure Backed (before : World τ) (world : Timed τ (Services τ × List Poll.Question)) :
    Prop where
  kubectl : world.services.1.kubectl = before.services.kubectl
  foreign : world.services.1.ec2.script.All Reply.foreign
  requests : ∃ made : List (Request τ),
    world.services.1.ec2.requests.toList = before.services.ec2.requests.toList ++ made ∧
    ∀ volumeId, ⟨volumeId, .ok false⟩ ∈ world.services.2 ↔
      ∃ request ∈ made, request.volumeId = volumeId ∧ request.reportsGone = true

omit [Time τ] in
theorem backed_unasked {run : Logged (World τ)}
    (foreign : run.state.services.ec2.script.All Reply.foreign) :
    Backed run.state (Poll.unasked run).state :=
  ⟨rfl, foreign, [], by simp [Poll.unasked], by simp [Poll.unasked]⟩

theorem backed_recorded {before : World τ} (limit : Nat) (volumeId : Json)
    {world : Timed τ (Services τ × List Poll.Question)} (backed : Backed before world) :
    Backed before (Poll.recorded (stillExists limit) volumeId world).2 := by
  have evidence := evidence_stillExists limit volumeId
    ⟨world.context, world.services.1⟩ backed.foreign
  obtain ⟨earlier, sofar, agreed⟩ := backed.requests
  obtain ⟨made, more, about, gone⟩ := evidence.requests
  refine ⟨evidence.kubectl.trans backed.kubectl, evidence.foreign, earlier ++ made, ?_, ?_⟩
  · rw [← List.append_assoc, ← sofar]
    exact more
  · intro other
    have record : (Poll.recorded (stillExists limit) volumeId world).2.services.2 =
        world.services.2 ++
          [⟨volumeId, (stillExists limit volumeId ⟨world.context, world.services.1⟩).1⟩] := rfl
    rw [record, List.mem_append, agreed other, List.mem_singleton, Poll.Question.mk.injEq]
    constructor
    · rintro (⟨request, member, named, reported⟩ | ⟨rfl, answer⟩)
      · exact ⟨request, List.mem_append_left made member, named, reported⟩
      · obtain ⟨request, member, reported⟩ := gone.mp answer.symm
        exact ⟨request, List.mem_append_right earlier member, about request member, reported⟩
    · rintro ⟨request, member, named, reported⟩
      obtain old | new := List.mem_append.mp member
      · exact .inl ⟨request, old, named, reported⟩
      · exact .inr ⟨named.symm.trans (about request new), (gone.mpr ⟨request, new, reported⟩).symm⟩

theorem steady_backed (before : World τ) (limit : Nat) :
    Poll.Steady (Poll.recorded (stillExists limit)) (Backed before) where
  asks volumeId _ backed := backed_recorded limit volumeId backed
  waits _ _ backed := ⟨backed.kubectl, backed.foreign, backed.requests⟩

/-- Whether some requests include one about a volume that reports it gone. -/
def Confirmed (made : List (Request τ)) (id : String) : Prop :=
  ∃ request ∈ made, request.volumeId = .str id ∧ request.reportsGone = true

/-- Some volumes split into those that are left and those that a request reports gone. -/
structure Splits (made : List (Request τ)) (ids left : List String) : Prop where
  whole : ∀ id, id ∈ ids ↔ id ∈ left ∨ Confirmed made id
  apart : ∀ id ∈ left, ¬ Confirmed made id

/-- How a wait for the answers of EC2 ends: its volumes are split and those left are named, it takes
too many sweeps, or the failure of a question escapes from it. -/
inductive Concluded (limit : Nat) (P : World τ → Prop) (ids : List String) (before : World τ) :
    Except Failure Unit → World τ → Prop where
  | split {left : List String} {made : List (Request τ)} {final : World τ}
      (stopped : left ≠ [] → final.context.done = true)
      (requests : final.services.ec2.requests.toList =
        before.services.ec2.requests.toList ++ made)
      (splits : Splits made ids left) :
      Concluded limit P ids before (Poll.conclusion left final.context.cancelled) final
  | spent {final : World τ} (open_ : final.context.done = false) :
      Concluded limit P ids before (.error .turnLimit) final
  | stray {id : Json} {world final : World τ} {failure : Failure} (holds : P world)
      (answer : stillExists limit id world = (.error failure, final))
      (escaping : Poll.escapes failure = true) (plain : failure.isVerdict = false) :
      Concluded limit P ids before (.error failure) final

/-- A wait leaves kubectl alone, keeps whatever is kept by every question and every sleep, and comes
to a conclusion. -/
theorem concluded_untilGone {P : World τ → Prop} {limit : Nat}
    (steady : Poll.Steady (stillExists limit) P) (interval : τ) (sweeps : Nat) (ids : List String)
    {run : Logged (World τ)} (holds : P run.state)
    (foreign : run.state.services.ec2.script.All Reply.foreign) :
    P (Poll.untilGone (stillExists limit) interval sweeps (ids.map .str) run).2.state ∧
      (Poll.untilGone (stillExists limit) interval sweeps
        (ids.map .str) run).2.state.services.kubectl = run.state.services.kubectl ∧
      Concluded limit P ids run.state
        (Poll.untilGone (stillExists limit) interval sweeps (ids.map .str) run).1
        (Poll.untilGone (stillExists limit) interval sweeps (ids.map .str) run).2.state := by
  obtain ⟨ended, -, plain, ⟨backed, kept⟩, account⟩ := Poll.untilGone_account
    ((steady_backed run.state limit).and steady.recorded) interval sweeps ids
    ⟨backed_unasked foreign, holds⟩
  rw [plain]
  refine ⟨kept, backed.kubectl, ?_⟩
  cases account with
  | @complete rounds left final chain record stopped =>
    obtain ⟨made, sofar, agreed⟩ := backed.requests
    have found : ∀ id, id ∈ Poll.goneIds rounds.flatten ↔ Confirmed made id := by
      intro id
      rw [Poll.mem_goneIds, Confirmed, ← agreed, record.record]
      rfl
    have within : ∀ id, id ∈ Poll.goneIds rounds.flatten → id ∈ ids := by
      intro id gone
      obtain ⟨other, present, same⟩ := chain.asked _ (Poll.mem_goneIds.mp gone)
      cases same
      exact List.mem_eraseDups.mp present
    have halted : left ≠ [] → (Poll.unrecorded final).state.context.done = true := stopped
    refine .split halted sofar ⟨?_, ?_⟩
    · intro id
      rw [chain.mem_last, ← found, List.mem_eraseDups]
      constructor
      · intro listed
        by_cases gone : id ∈ Poll.goneIds rounds.flatten
        · exact .inr gone
        · exact .inl ⟨listed, gone⟩
      · rintro (⟨listed, -⟩ | gone)
        · exact listed
        · exact within id gone
    · intro id remains
      rw [← found]
      exact ((chain.mem_last id).mp remains).2
  | spent final open_ => exact .spent open_
  | @stray id world failure final holds answer escaping left =>
    have evidence := evidence_stillExists limit id
      ⟨world.context, world.services.1⟩ holds.1.foreign
    have after : (stillExists limit id ⟨world.context, world.services.1⟩).2 =
        (Poll.unrecorded final).state := by
      rw [Poll.unrecorded, ← left]
      rfl
    exact .stray holds.2 (Prod.ext answer after) escaping (evidence.unjudged failure answer)

end Ec2

end VolumeReclaim
