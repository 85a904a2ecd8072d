import VolumeReclaim.Proofs.AnswerWait
import VolumeReclaim.Proofs.QueryEvidence
import VolumeReclaim.Proofs.Shapes

/-!
The shapes in which EC2 answers. An answer in one of them says something of the volume or makes for
a failed query, so that no other failure escapes from a wait than that of too many turns.
-/
set_option autoImplicit false

namespace VolumeReclaim

namespace Ec2

/-- Whether an answer lists volumes as objects, is a service error with objects for its sections, or
is a fault on this side. -/
def Answer.wellFormed : Answer → Bool
  | .result content => content.holds "Volumes" (Json.nullOr Json.listsObjects)
  | .serviceError response _ =>
    response.holds "Error" Json.isObject && response.holds "ResponseMetadata" Json.isObject
  | .clientFault _ => true
  | .failure _ => false

def Said {ε α : Type} (outcome : Except ε α) : Prop :=
  Gives outcome fun _ => True

theorem said_ok {ε α : Type} (value : α) : Said (.ok value : Except ε α) :=
  gives_ok trivial

theorem said_member {content : Json} (object : content.isObject = true) (name : String)
    (default : Json) : Said (content.memberOr name default) := by
  obtain ⟨members, rfl⟩ := Json.eq_obj_of_isObject object
  exact ⟨_, rfl, trivial⟩

theorem said_listedState {content : Json}
    (listing : content.holds "Volumes" (Json.nullOr Json.listsObjects) = true) :
    Said (listedState content) := by
  refine (Json.gives_memberOr listing rfl).bind fun volumes listed => ?_
  cases volumes with
  | null => exact said_ok _
  | arr elements =>
    cases elements with
    | nil => exact said_ok _
    | cons first rest =>
      simp only [Json.nullOr, Json.listsObjects, List.all_cons, Bool.and_eq_true] at listed
      exact said_member listed.1 "State" .null
  | _ => cases listed

theorem said_retryRemark {response : Json}
    (metadata : response.holds "ResponseMetadata" Json.isObject = true) :
    Said (retryRemark response) := by
  cases response with
  | obj members =>
    have known : Gives (hasMetadata (.obj members))
        fun given => given = (Json.find? "ResponseMetadata" members).isSome := gives_ok rfl
    refine known.bind fun given same => ?_
    rw [same]
    cases found : Json.find? "ResponseMetadata" members with
    | none => exact said_ok _
    | some entries =>
      rw [Json.holds, found, Option.all_some] at metadata
      dsimp only
      rw [found]
      refine (said_member metadata "MaxAttemptsReached" (.bool false)).bind fun exhausted _ => ?_
      obtain ⟨entries, rfl⟩ := Json.eq_obj_of_isObject metadata
      have attempts : Said (Json.member? "RetryAttempts" (.obj entries)) := said_ok _
      split
      · refine attempts.bind fun number _ => ?_
        cases number <;> exact said_ok _
      · exact said_ok _
  | _ => cases metadata

theorem said_serviceErrorText {response : Json} (operation : Json)
    (error : response.holds "Error" Json.isObject = true)
    (metadata : response.holds "ResponseMetadata" Json.isObject = true) :
    Said (serviceErrorText response operation) := by
  refine (said_retryRemark metadata).bind fun remark _ => ?_
  refine (Json.gives_memberOr error rfl).bind fun details object => ?_
  refine (said_member object "Code" (.str "Unknown")).bind fun code _ => ?_
  refine (said_member object "Message" (.str "Unknown")).bind fun message _ => ?_
  exact said_ok _

theorem said_isNotFound {response : Json} (error : response.holds "Error" Json.isObject = true) :
    Said (isNotFound response) := by
  refine (Json.gives_memberOr error rfl).bind fun details object => ?_
  refine (said_member object "Code" .null).bind fun code _ => ?_
  cases code <;> exact said_ok _

theorem state_of_wellFormed {answer : Answer} (shape : answer.wellFormed = true)
    (volumeId : Json) :
    (∃ state, answer.state volumeId = .ok state) ∨
      ∃ text, answer.state volumeId = .error (queryFailure volumeId text) := by
  cases answer with
  | result content =>
    obtain ⟨state, listed, -⟩ := said_listedState shape
    exact .inl ⟨state, by rw [Answer.state, listed]; rfl⟩
  | serviceError response operation =>
    rw [Answer.wellFormed, Bool.and_eq_true] at shape
    obtain ⟨text, told, -⟩ := said_serviceErrorText operation shape.1 shape.2
    obtain ⟨unknown, judged, -⟩ := said_isNotFound shape.1
    rw [Answer.state, told, judged]
    cases unknown with
    | true => exact .inl ⟨.null, rfl⟩
    | false => exact .inr ⟨text, rfl⟩
  | clientFault fault => exact .inr ⟨fault.message, rfl⟩
  | failure cause => cases shape

/-- What an answer says of a volume is its state, unless its shape is faulty, the volume could not
be asked about, or the answer is a failure itself. -/
theorem state_eq_error {answer : Answer} {volumeId : Json} {failure : Failure}
    (said : answer.state volumeId = .error failure) :
    (∃ fault, failure = .shape fault) ∨ (∃ text, failure = queryFailure volumeId text) ∨
      answer = .failure failure := by
  cases answer with
  | result content =>
    rw [Answer.state] at said
    cases listed : listedState content with
    | ok state =>
      rw [listed] at said
      cases said
    | error fault =>
      rw [listed] at said
      cases said
      exact .inl ⟨fault, rfl⟩
  | serviceError response operation =>
    rw [Answer.state] at said
    cases told : serviceErrorText response operation with
    | error fault =>
      rw [told] at said
      cases said
      exact .inl ⟨fault, rfl⟩
    | ok text =>
      cases judged : isNotFound response with
      | error fault =>
        rw [told, judged] at said
        cases said
        exact .inl ⟨fault, rfl⟩
      | ok unknown =>
        rw [told, judged] at said
        cases unknown <;> cases said
        exact .inr (.inl ⟨text, rfl⟩)
  | clientFault fault =>
    cases said
    exact .inr (.inl ⟨fault.message, rfl⟩)
  | failure cause =>
    cases said
    exact .inr (.inr rfl)

section Questions

variable {τ : Type} [Time τ]

theorem nextReply_of_all {p : Reply τ → Prop} {session : Session τ} (all : session.script.All p)
    (nothing : p .nothing) (volumeId : Json) : p (session.nextReply volumeId) := by
  unfold Session.nextReply
  cases taken : (session.script.take volumeId).1 with
  | none => exact nothing
  | some reply => exact (Script.all_take all volumeId).1 reply taken

/-- Whether a reply is EC2's own: its failure, if it is one, is not that of too many turns. -/
def Reply.timely (reply : Reply τ) : Prop :=
  reply.answer ≠ .failure .turnLimit

omit [Time τ] in
theorem Wait.verdict_error_cases (wait : Wait τ) {answer : Answer} {volumeId : Json}
    {failure : Failure} (said : wait.verdict volumeId answer = .error failure) :
    (∃ message, failure = .contextDone message) ∨ (∃ fault, failure = .shape fault) ∨
      (∃ text, failure = queryFailure volumeId text) ∨ answer = .failure failure := by
  unfold Wait.verdict at said
  split at said
  · cases given : answer.state volumeId with
    | ok state =>
      rw [given] at said
      cases said
    | error cause =>
      rw [given] at said
      cases said
      exact .inr (state_eq_error given)
  · cases said
    exact .inl ⟨_, rfl⟩

omit [Time τ] in
theorem Wait.verdict_ne_turnLimit (wait : Wait τ) {answer : Answer}
    (timely : answer ≠ .failure .turnLimit) (volumeId : Json) :
    wait.verdict volumeId answer ≠ .error .turnLimit := by
  intro said
  obtain ⟨message, late⟩ | ⟨fault, shape⟩ | ⟨text, query⟩ | brought := wait.verdict_error_cases said
  · cases late
  · cases shape
  · cases query
  · exact timely brought

/-- Whether a reply has one of the shapes in which EC2 answers. -/
def Reply.wellFormed (reply : Reply τ) : Prop :=
  reply.answer.wellFormed = true

theorem steady_script (looks : Nat) (p : Reply τ → Prop) :
    Poll.Steady (stillExists looks) fun world => world.services.ec2.script.All p where
  asks volumeId world all := by
    have left := (Script.all_take all volumeId).2
    have course := stillExists_questioned looks volumeId world
    generalize stillExists looks volumeId world = result at course ⊢
    cases course with
    | refused => exact all
    | spent => exact left
    | waited => exact left
  waits _ _ all := all

omit [Time τ] in
theorem Wait.not_escapes_verdict (wait : Wait τ) {answer : Answer} {volumeId : Json}
    {failure : Failure} (shape : answer.wellFormed = true)
    (said : wait.verdict volumeId answer = .error failure) : Poll.escapes failure = false := by
  unfold Wait.verdict at said
  split at said
  · obtain ⟨state, known⟩ | ⟨text, unknown⟩ := state_of_wellFormed shape volumeId
    · rw [known] at said
      cases said
    · rw [unknown] at said
      cases said
      rfl
  · cases said
    rfl

/-- Of a question with a well-formed answer, no failure escapes but that of too many turns, with
which the run does not have to stop. -/
theorem spent_of_escapes {looks : Nat} {volumeId : Json} {world after : World τ}
    {failure : Failure} (wellFormed : world.services.ec2.script.All Reply.wellFormed)
    (asked : stillExists looks volumeId world = (.error failure, after))
    (escaping : Poll.escapes failure = true) :
    failure = .turnLimit ∧ after.context.done = false := by
  have course := stillExists_questioned looks volumeId world
  generalize stillExists looks volumeId world = result at course asked
  cases course with
  | refused halted =>
    cases asked
    cases escaping
  | spent open_ endless =>
    cases asked
    exact ⟨rfl, open_⟩
  | @waited open_ wait awaited =>
    have shape := nextReply_of_all (p := Reply.wellFormed) wellFormed rfl volumeId
    have kept := wait.not_escapes_verdict shape (congrArg Prod.fst asked)
    rw [escaping] at kept
    cases kept

omit [Time τ] in
theorem Reply.foreign_of_wellFormed {reply : Reply τ} (shape : reply.wellFormed) :
    reply.foreign := by
  intro cause given
  rw [Reply.wellFormed, given] at shape
  cases shape

theorem Concluded.split_or_spent {looks : Nat} {P : World τ → Prop} {ids : List String}
    {before final : World τ} {outcome : Except Failure Unit}
    (concluded : Concluded looks P ids before outcome final)
    (wellFormed : ∀ world, P world → world.services.ec2.script.All Reply.wellFormed) :
    (∃ left made,
      outcome = Poll.conclusion left final.context.cancelled ∧
      (left ≠ [] → final.context.done = true) ∧
      final.services.ec2.requests.toList = before.services.ec2.requests.toList ++ made ∧
      Splits made ids left) ∨
    outcome = .error .turnLimit ∧ final.context.done = false := by
  cases concluded with
  | @split left made _ stopped requests splits =>
    exact .inl ⟨left, made, rfl, stopped, requests, splits⟩
  | spent open_ => exact .inr ⟨rfl, open_⟩
  | stray holds answer escaping plain =>
    obtain ⟨rfl, open_⟩ := spent_of_escapes (wellFormed _ holds) answer escaping
    exact .inr ⟨rfl, open_⟩

end Questions

end Ec2

end VolumeReclaim
