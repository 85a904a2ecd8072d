import VolumeReclaim.Context
import VolumeReclaim.Ec2.Answer
import VolumeReclaim.Script

/-!
Requests to EC2 about single volumes, each bounded by the context of the run. Whoever waits for an
answer looks at the context ten times a second and gives the request up once the run has to stop;
an answer that arrives within the last tenth still counts.
-/
set_option autoImplicit false

namespace VolumeReclaim.Ec2

structure Reply (τ : Type) where
  duration : Option τ
  answer : Answer

inductive Ending where
  | answered (answer : Answer)
  | givenUp

/-- A request that was started: about which volume, in which context, how often its answer was
still missing after a tenth of a second, how it ended and when. -/
structure Request (τ : Type) where
  volumeId : Json
  started : Context τ
  polls : Nat
  ending : Ending
  ended : τ

structure Session (τ : Type) where
  script : Script (Reply τ) := []
  requests : Array (Request τ) := #[]

variable {τ : Type} [Time τ]

def lookInterval : τ := 0.1

structure Wait (τ : Type) where
  answered : Bool
  polls : Nat
  context : Context τ

def overBy (finish : Option τ) (limit : τ) : Option τ :=
  match finish with
  | some moment => if moment ≤ limit then some moment else none
  | none => none

/-- Waits for a request that ends at a given time. There is no outcome after more looks than
allowed. -/
def await (finish : Option τ) : (looks : Nat) → (polls : Nat) → Context τ → Option (Wait τ)
  | looks, polls, context =>
    let limit := context.now + lookInterval
    match overBy finish limit with
    | some moment => some ⟨true, polls, context.advance (Time.greater context.now moment)⟩
    | none =>
      let context := context.advance limit
      if context.done then some ⟨false, polls + 1, context⟩
      else
        match looks with
        | 0 => none
        | looks + 1 => await finish looks (polls + 1) context

/-- The reply for a volume that has no replies: nothing is listed, at once. -/
def Reply.nothing : Reply τ := ⟨some 0.0, .volumes (.arr [])⟩

def Session.ask (session : Session τ) (limit : Nat) (context : Context τ) (volumeId : Json) :
    Except Failure Answer × Context τ × Session τ :=
  if context.done then (.error (.contextDone "context done before calling EC2"), context, session)
  else
    let (reply, script) := session.script.take volumeId
    let reply := reply.getD .nothing
    let finish := reply.duration.map (context.now + ·)
    match await finish limit 0 context with
    | none => (.error .turnLimit, context, { session with script })
    | some wait =>
      let ending := if wait.answered then .answered reply.answer else .givenUp
      let request : Request τ := ⟨volumeId, context, wait.polls, ending, wait.context.now⟩
      let session := ⟨script, session.requests.push request⟩
      match ending with
      | .answered answer => (.ok answer, wait.context, session)
      | .givenUp =>
        (.error (.contextDone "context done while waiting for EC2"), wait.context, session)

end VolumeReclaim.Ec2
