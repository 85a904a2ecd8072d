import VolumeReclaim.Proofs.Clock
import VolumeReclaim.World

/-!
The wait for one answer of EC2, look by look, and what a question about a volume comes to with it:
it is refused, it takes more looks than allowed, or it is waited for to its end and written down.
-/
set_option autoImplicit false

namespace VolumeReclaim.Ec2

variable {τ : Type} [Time τ]

/-- One look at the context while an answer is missing, and whatever follows if the wait goes on. -/
def look (finish : Option τ) (polls : Nat) (context : Context τ) (later : Option (Wait τ)) :
    Option (Wait τ) :=
  match overBy finish (context.now + lookInterval) with
  | some moment => some ⟨true, polls, context.advance (Time.greater context.now moment)⟩
  | none =>
    if (context.advance (context.now + lookInterval)).done then
      some ⟨false, polls + 1, context.advance (context.now + lookInterval)⟩
    else later

theorem await_zero (finish : Option τ) (polls : Nat) (context : Context τ) :
    await finish 0 polls context = look finish polls context none := by
  rw [await]
  rfl

theorem await_succ (finish : Option τ) (looks polls : Nat) (context : Context τ) :
    await finish (looks + 1) polls context = look finish polls context
      (await finish looks (polls + 1) (context.advance (context.now + lookInterval))) := by
  rw [await]
  rfl

theorem overBy_le {finish : Option τ} {limit moment : τ}
    (awaited : overBy finish limit = some moment) : moment ≤ limit := by
  unfold overBy at awaited
  split at awaited
  · split at awaited
    · next within =>
      cases awaited
      exact within
    · cases awaited
  · cases awaited

/-- What is true of a wait that the next look ends, in a context that goes on as long as no look
ends the wait, is true of every wait. -/
theorem await_induction {finish : Option τ} (goesOn : Context τ → Prop) (ends : Wait τ → Prop)
    (answered : ∀ polls context moment, goesOn context →
      overBy finish (context.now + lookInterval) = some moment →
      ends ⟨true, polls, context.advance (Time.greater context.now moment)⟩)
    (givenUp : ∀ polls context, goesOn context →
      (context.advance (context.now + lookInterval)).done = true →
      ends ⟨false, polls + 1, context.advance (context.now + lookInterval)⟩)
    (next : ∀ context, goesOn context →
      (context.advance (context.now + lookInterval)).done = false →
      goesOn (context.advance (context.now + lookInterval)))
    (looks polls : Nat) {context : Context τ} {wait : Wait τ} (start : goesOn context)
    (awaited : await finish looks polls context = some wait) : ends wait := by
  have looked : ∀ polls context later, goesOn context →
      look finish polls context later = some wait →
      ends wait ∨
        (context.advance (context.now + lookInterval)).done = false ∧ later = some wait := by
    intro polls context later before seen
    unfold look at seen
    split at seen
    · next moment found =>
      cases seen
      exact .inl (answered polls context moment before found)
    · split at seen
      · next halted =>
        cases seen
        exact .inl (givenUp polls context before halted)
      · next open_ => exact .inr ⟨Bool.eq_false_iff.mpr open_, seen⟩
  induction looks generalizing polls context with
  | zero =>
    rw [await_zero] at awaited
    obtain ended | ⟨-, missing⟩ := looked polls context none start awaited
    · exact ended
    · cases missing
  | succ looks ih =>
    rw [await_succ] at awaited
    obtain ended | ⟨open_, later⟩ := looked polls context _ start awaited
    · exact ended
    · exact ih (polls + 1) (next context start open_) later

section Untouched

variable {finish : Option τ} {looks polls : Nat} {context : Context τ} {wait : Wait τ}

theorem await_same {α : Type} {part : Context τ → α}
    (same : ∀ context time, part (context.advance time) = part context)
    (awaited : await finish looks polls context = some wait) : part wait.context = part context := by
  refine await_induction (fun other => part other = part context)
    (fun wait => part wait.context = part context)
    ?answered ?givenUp ?next looks polls rfl awaited
  case answered => exact fun _ _ _ before _ => (same _ _).trans before
  case givenUp => exact fun _ _ before _ => (same _ _).trans before
  case next => exact fun _ before _ => (same _ _).trans before

theorem await_sleeps (awaited : await finish looks polls context = some wait) :
    wait.context.sleeps = context.sleeps :=
  await_same Context.advance_sleeps awaited

theorem await_deadline (awaited : await finish looks polls context = some wait) :
    wait.context.deadline = context.deadline :=
  await_same Context.advance_deadline awaited

end Untouched

def Session.nextReply (session : Session τ) (volumeId : Json) : Reply τ :=
  (session.script.take volumeId).1.getD .nothing

/-- The time at which a request with this reply ends, if it ever does. -/
def Reply.finish (reply : Reply τ) (started : τ) : Option τ :=
  reply.duration.map (started + ·)

def Wait.request (wait : Wait τ) (volumeId : Json) (started : Context τ) (answer : Answer) :
    Request τ :=
  ⟨volumeId, started, wait.polls, if wait.answered then .answered answer else .givenUp,
    wait.context.now⟩

section Asking

variable {session : Session τ} {limit : Nat} {context : Context τ}
  {volumeId : Json}

theorem ask_refused (halted : context.done = true) :
    session.ask limit context volumeId =
      (.error (.contextDone "context done before calling EC2"), context, session) :=
  if_pos halted

theorem ask_spent (open_ : context.done = false)
    (endless : await ((session.nextReply volumeId).finish context.now) limit 0 context = none) :
    session.ask limit context volumeId =
      (.error .turnLimit, context, { session with script := (session.script.take volumeId).2 }) := by
  rw [Session.ask, if_neg (Bool.eq_false_iff.mp open_)]
  dsimp only
  rw [← Session.nextReply, ← Reply.finish, endless]

theorem ask_waited (open_ : context.done = false) {wait : Wait τ}
    (awaited : await ((session.nextReply volumeId).finish context.now) limit 0 context =
      some wait) :
    session.ask limit context volumeId =
      (if wait.answered then .ok (session.nextReply volumeId).answer
        else .error (.contextDone "context done while waiting for EC2"), wait.context,
        ⟨(session.script.take volumeId).2, session.requests.push
          (wait.request volumeId context (session.nextReply volumeId).answer)⟩) := by
  rw [Session.ask, if_neg (Bool.eq_false_iff.mp open_)]
  dsimp only
  rw [← Session.nextReply, ← Reply.finish, awaited]
  obtain ⟨answered, polls, context⟩ := wait
  cases answered <;> rfl

end Asking

/-- What a wait says of a volume: what the answer says, unless it was given up. -/
def Wait.verdict (wait : Wait τ) (volumeId : Json) (answer : Answer) : Except Failure Bool :=
  if wait.answered then (answer.state volumeId).map existsIn
  else .error (.contextDone "context done while waiting for EC2")

inductive Questioned (looks : Nat) (volumeId : Json) (world : World τ) :
    Except Failure Bool × World τ → Prop where
  /-- The run has to stop, and no request is started. -/
  | refused (halted : world.context.done = true) :
      Questioned looks volumeId world
        (.error (.contextDone "context done before calling EC2"), world)
  /-- The request takes more looks than allowed. -/
  | spent (open_ : world.context.done = false)
      (endless : await ((world.services.ec2.nextReply volumeId).finish world.context.now) looks 0
        world.context = none) :
      Questioned looks volumeId world (.error .turnLimit,
        ⟨world.context, world.services.kubectl,
          (world.services.ec2.script.take volumeId).2, world.services.ec2.requests⟩)
  | waited (open_ : world.context.done = false) {wait : Wait τ}
      (awaited : await ((world.services.ec2.nextReply volumeId).finish world.context.now) looks 0
        world.context = some wait) :
      Questioned looks volumeId world
        (wait.verdict volumeId (world.services.ec2.nextReply volumeId).answer,
          ⟨wait.context, world.services.kubectl,
            (world.services.ec2.script.take volumeId).2, world.services.ec2.requests.push
              (wait.request volumeId world.context
                (world.services.ec2.nextReply volumeId).answer)⟩)

section StillExists

variable {looks : Nat} {volumeId : Json} {world : World τ}

theorem stillExists_refused (halted : world.context.done = true) :
    stillExists looks volumeId world =
      (.error (.contextDone "context done before calling EC2"), world) := by
  unfold stillExists volumeState
  rw [ask_refused halted]
  rfl

theorem stillExists_spent (open_ : world.context.done = false)
    (endless : await ((world.services.ec2.nextReply volumeId).finish world.context.now) looks 0
      world.context = none) :
    stillExists looks volumeId world = (.error .turnLimit,
      ⟨world.context, world.services.kubectl,
        (world.services.ec2.script.take volumeId).2, world.services.ec2.requests⟩) := by
  unfold stillExists volumeState
  rw [ask_spent open_ endless]
  rfl

theorem stillExists_waited (open_ : world.context.done = false) {wait : Wait τ}
    (awaited : await ((world.services.ec2.nextReply volumeId).finish world.context.now) looks 0
      world.context = some wait) :
    stillExists looks volumeId world =
      (wait.verdict volumeId (world.services.ec2.nextReply volumeId).answer,
        ⟨wait.context, world.services.kubectl,
          (world.services.ec2.script.take volumeId).2, world.services.ec2.requests.push
            (wait.request volumeId world.context
              (world.services.ec2.nextReply volumeId).answer)⟩) := by
  unfold stillExists volumeState
  rw [ask_waited open_ awaited, Wait.verdict]
  cases wait.answered <;> rfl

end StillExists

theorem stillExists_questioned (looks : Nat) (volumeId : Json) (world : World τ) :
    Questioned looks volumeId world (stillExists looks volumeId world) := by
  by_cases halted : world.context.done = true
  · rw [stillExists_refused halted]
    exact .refused halted
  · have open_ := Bool.eq_false_iff.mpr halted
    cases awaited : await ((world.services.ec2.nextReply volumeId).finish world.context.now) looks 0
        world.context with
    | none =>
      rw [stillExists_spent open_ awaited]
      exact .spent open_ awaited
    | some wait =>
      rw [stillExists_waited open_ awaited]
      exact .waited open_ awaited

theorem stillExists_sleeps (looks : Nat) (volumeId : Json) (world : World τ) :
    (stillExists looks volumeId world).2.context.sleeps = world.context.sleeps := by
  have course := stillExists_questioned looks volumeId world
  generalize stillExists looks volumeId world = result at course ⊢
  cases course with
  | refused => rfl
  | spent => rfl
  | waited open_ awaited => exact await_sleeps awaited

end VolumeReclaim.Ec2
