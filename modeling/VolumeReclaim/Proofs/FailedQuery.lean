import VolumeReclaim.Proofs.AnswerShape
import VolumeReclaim.Proofs.Lockstep
import VolumeReclaim.Proofs.ReplyStreams

/-!
Failed queries in place of answers that report a volume as present. A question whose reply is
replaced so takes the same time and leaves the same world, except for the answer in the record of
its request, and it fails as a query about the volume where the other one says that it is there.
-/
set_option autoImplicit false

namespace VolumeReclaim.Ec2

/-- Whether an answer reports a volume as present: the first one listed has a state, and that is
neither null nor deleted. -/
def Answer.reportsPresent : Answer → Bool
  | .result (.obj members) =>
    match Json.find? "Volumes" members with
    | some (.arr (.obj volume :: _)) =>
      (Json.find? "State" volume).any fun
        | .null => false
        | .str state => state != deletedState
        | _ => true
    | _ => false
  | _ => false

def errorCode? : Json → Option Json
  | .obj members =>
    match Json.find? "Error" members with
    | some (.obj details) => Json.find? "Code" details
    | _ => none
  | _ => none

/-- Whether an answer is a failed query: a service error in proper shape with another code than that
of an unknown volume, or a fault on this side. -/
def Answer.failsQuery : Answer → Bool
  | .serviceError response operation =>
    (Answer.serviceError response operation).wellFormed &&
      match errorCode? response with
      | some (.str code) => code != notFoundCode
      | _ => true
  | .clientFault _ => true
  | _ => false

example : (Answer.volumes (.arr [.obj [("State", .str "in-use")]])).reportsPresent = true := by
  decide

theorem exists_of_reportsPresent {answer : Answer} (present : answer.reportsPresent = true)
    (volumeId : Json) : (answer.state volumeId).map existsIn = .ok true := by
  unfold Answer.reportsPresent at present
  split at present
  · next members =>
    split at present
    · next volume others listed =>
      have state : listedState (.obj members) = .ok ((Json.find? "State" volume).getD .null) := by
        simp only [listedState, Json.memberOr, Json.member?, listed]
        rfl
      rw [Answer.state, state]
      cases held : Json.find? "State" volume with
      | none => simp [held] at present
      | some value =>
        rw [held, Option.any_some] at present
        cases value with
        | str text => exact congrArg Except.ok present
        | null => cases present
        | _ => rfl
    · cases present
  · cases present

theorem isNotFound_eq {response : Json} (error : response.holds "Error" Json.isObject = true) :
    isNotFound response = .ok (match errorCode? response with
      | some (.str code) => code == notFoundCode
      | _ => false) := by
  cases response with
  | obj members =>
    obtain ⟨details, held, code⟩ : ∃ details,
        (Json.find? "Error" members).getD (.obj []) = .obj details ∧
          errorCode? (.obj members) = Json.find? "Code" details := by
      rw [Json.holds] at error
      rw [errorCode?]
      cases found : Json.find? "Error" members with
      | none => exact ⟨[], rfl, rfl⟩
      | some section_ =>
        rw [found, Option.all_some] at error
        obtain ⟨details, rfl⟩ := Json.eq_obj_of_isObject error
        exact ⟨details, rfl, rfl⟩
    have looked : (Json.obj members).memberOr "Error" (.obj []) = .ok (.obj details) :=
      congrArg Except.ok held
    rw [isNotFound, looked, code]
    simp only [Json.memberOr, Json.member?, bind, Except.bind, pure, Except.pure]
    cases Json.find? "Code" details with
    | none => rfl
    | some value => cases value <;> rfl
  | _ => cases error

theorem isNotFound_of_failsQuery {response operation : Json}
    (fails : (Answer.serviceError response operation).failsQuery = true) :
    isNotFound response = .ok false := by
  rw [Answer.failsQuery, Answer.wellFormed] at fails
  simp only [Bool.and_eq_true] at fails
  obtain ⟨⟨error, -⟩, other⟩ := fails
  rw [isNotFound_eq error]
  cases held : errorCode? response with
  | none => rfl
  | some code =>
    rw [held] at other
    cases code with
    | str text => simpa using other
    | _ => rfl

theorem query_of_failsQuery {answer : Answer} (fails : answer.failsQuery = true)
    (volumeId : Json) : ∃ text, answer.state volumeId = .error (queryFailure volumeId text) := by
  cases answer with
  | serviceError response operation =>
    have judged := isNotFound_of_failsQuery fails
    rw [Answer.failsQuery, Bool.and_eq_true] at fails
    have shape := fails.1
    rw [Answer.wellFormed, Bool.and_eq_true] at shape
    obtain ⟨text, told, -⟩ := said_serviceErrorText operation shape.1 shape.2
    exact ⟨text, by rw [Answer.state, told, judged]; rfl⟩
  | clientFault fault => exact ⟨fault.message, rfl⟩
  | _ => cases fails

section Questions

variable {τ : Type}

/-- How replies may differ between two runs: not at all, or the second is a failed query that takes
as long as the first, which reports its volume as present. -/
inductive Reply.Disturbed : Reply τ → Reply τ → Prop where
  | same (reply : Reply τ) : Disturbed reply reply
  | failed (duration : Option τ) {answer answer' : Answer} :
    answer.reportsPresent = true → answer'.failsQuery = true →
      Disturbed ⟨duration, answer⟩ ⟨duration, answer'⟩

theorem Reply.Disturbed.duration {reply reply' : Reply τ} (disturbed : reply.Disturbed reply') :
    reply'.duration = reply.duration := by
  cases disturbed <;> rfl

/-- The requests of two runs, and the warnings that the second one has for its own: they are the same
requests at the same times, except that some answers that report a volume as present are failed
queries in the second run, each with a warning about its volume. -/
inductive Echoed : Array (Request τ) → Array (Request τ) → List LogLine → Prop where
  | start (requests : Array (Request τ)) : Echoed requests requests []
  | same {requests requests' : Array (Request τ)} {warnings : List LogLine}
    (request : Request τ) : Echoed requests requests' warnings →
      Echoed (requests.push request) (requests'.push request) warnings
  | failed {requests requests' : Array (Request τ)} {warnings : List LogLine}
    (request : Request τ) {answer answer' : Answer} {message : String} :
    answer.reportsPresent = true → answer'.failsQuery = true →
    answer'.state request.volumeId = .error (.volumeQuery request.volumeId message) →
    Echoed requests requests' warnings →
      Echoed (requests.push { request with ending := .answered answer })
        (requests'.push { request with ending := .answered answer' })
        (warnings ++ [⟨.warning, Poll.failedText request.volumeId message⟩])

/-- All of a request but what was answered: about which volume and in which context it was started,
how often its answer was missing, whether it came, and when the request ended. -/
def Request.call (request : Request τ) : Json × Context τ × Nat × Bool × τ :=
  (request.volumeId, request.started, request.polls,
    match request.ending with | .answered _ => true | .givenUp => false,
    request.ended)

theorem Echoed.calls {requests requests' : Array (Request τ)} {warnings : List LogLine}
    (echoed : Echoed requests requests' warnings) :
    requests'.map (·.call) = requests.map (·.call) := by
  induction echoed with
  | start => rfl
  | same request _ ih => rw [Array.map_push, Array.map_push, ih]
  | failed request _ _ _ _ ih =>
    rw [Array.map_push, Array.map_push, ih]
    rfl

variable [Time τ]

/-- Two worlds in step: they differ in the replies of EC2 only, in those to come and in the answers
of the requests made. -/
structure InStep (warnings : List LogLine) (world world' : World τ) : Prop where
  context : world'.context = world.context
  kubectl : world'.services.kubectl = world.services.kubectl
  script : Matched Reply.Disturbed world.services.ec2.script world'.services.ec2.script
  requests : Echoed world.services.ec2.requests world'.services.ec2.requests warnings

/-- A question in a world in step with another one has the same outcome and leaves worlds in step,
unless it fails as a query where the other one has the volume present. -/
theorem inStep_stillExists (looks : Nat) (volumeId : Json) {world world' : World τ}
    {warnings : List LogLine} (inStep : InStep warnings world world') :
    ((stillExists looks volumeId world').1 = (stillExists looks volumeId world).1 ∧
        InStep warnings (stillExists looks volumeId world).2
          (stillExists looks volumeId world').2) ∨
      ∃ message, (stillExists looks volumeId world).1 = .ok true ∧
        (stillExists looks volumeId world').1 = .error (.volumeQuery volumeId message) ∧
        InStep (warnings ++ [⟨.warning, Poll.failedText volumeId message⟩])
          (stillExists looks volumeId world).2 (stillExists looks volumeId world').2 := by
  obtain ⟨same, kubectl, script, requests⟩ := inStep
  have disturbed := script.next volumeId
  have taken := script.take volumeId
  by_cases halted : world.context.done = true
  · rw [stillExists_refused halted, stillExists_refused (same ▸ halted)]
    exact .inl ⟨rfl, same, kubectl, script, requests⟩
  · have open_ := Bool.eq_false_iff.mpr halted
    have open_' : world'.context.done = false := same ▸ open_
    have finish : (world'.services.ec2.nextReply volumeId).finish world'.context.now =
        (world.services.ec2.nextReply volumeId).finish world.context.now := by
      rw [Reply.finish, Reply.finish, disturbed.duration, same]
    cases awaited : await ((world.services.ec2.nextReply volumeId).finish world.context.now) looks 0
        world.context with
    | none =>
      have awaited' := awaited
      rw [← finish, ← same] at awaited'
      rw [stillExists_spent open_ awaited, stillExists_spent open_' awaited']
      exact .inl ⟨rfl, same, kubectl, taken, requests⟩
    | some wait =>
      have awaited' := awaited
      rw [← finish, ← same] at awaited'
      rw [stillExists_waited open_ awaited, stillExists_waited open_' awaited', same]
      generalize world.services.ec2.nextReply volumeId = reply at disturbed ⊢
      generalize world'.services.ec2.nextReply volumeId = reply' at disturbed ⊢
      cases disturbed with
      | same reply => exact .inl ⟨rfl, rfl, kubectl, taken, requests.same _⟩
      | @failed duration answer answer' present fails =>
        obtain ⟨answered, polls, context⟩ := wait
        cases answered with
        | false => exact .inl ⟨rfl, rfl, kubectl, taken, requests.same _⟩
        | true =>
          obtain ⟨text, query⟩ := query_of_failsQuery fails volumeId
          refine .inr ⟨_, exists_of_reportsPresent present volumeId, ?_, rfl, kubectl, taken,
            requests.failed ⟨volumeId, world.context, polls, .givenUp, context.now⟩ present fails
              query⟩
          rw [Wait.verdict, if_pos rfl, query]
          rfl

end Questions

end VolumeReclaim.Ec2
