import VolumeReclaim.Proofs.FailedQuery

/-!
What a question about a volume comes to with an answer that arrives in time. The volume is gone if
EC2 does not know it or lists it as deleted, and also if EC2 lists it and gives it no state: that is
read like a volume that is not listed at all. Any other state means that it is there, and any other
error fails the query.
-/
set_option autoImplicit false

namespace VolumeReclaim.Ec2

inductive Report where
  /-- EC2 does not know the volume, or lists none. -/
  | unknown
  /-- EC2 lists the volume, with whatever stands in its state if there is one. -/
  | listed (state : Option Json)
  /-- There is an error instead, with this text. -/
  | failed (text : String)

/-- The report in an answer, if it has one of the shapes in which EC2 and its client answer: a
response with objects for volumes or without volumes, a service error that has a text, or a fault on
this side. -/
def Answer.report? : Answer → Option Report
  | .result (.obj members) =>
    match Json.find? "Volumes" members with
    | none | some .null | some (.arr []) => some .unknown
    | some (.arr (.obj volume :: _)) => some (.listed (Json.find? "State" volume))
    | _ => none
  | .serviceError response operation =>
    match serviceErrorText response operation, errorCode? response with
    | .ok _, some (.str "InvalidVolume.NotFound") => some .unknown
    | .ok text, _ => some (.failed text)
    | .error _, _ => none
  | .clientFault fault => some (.failed fault.message)
  | _ => none

/-- What a question comes to beside the report that answers it. -/
structure Judged (volumeId : Json) (report : Report) (outcome : Except Failure Bool) : Prop where
  gone : outcome = .ok false ↔ report = .unknown ∨ report = .listed (some (.str "deleted")) ∨
    report = .listed none ∨ report = .listed (some .null)
  present : outcome = .ok true ↔
    ∃ state, report = .listed (some state) ∧ state ≠ .null ∧ state ≠ .str "deleted"
  failed : ∀ failure, outcome = .error failure ↔ ∃ text, report = .failed text ∧
    failure = .volumeQuery volumeId s!"cannot describe EBS volume {volumeId.display}: {text}"

theorem isSome_report? {answer : Answer} (shape : answer.wellFormed = true) :
    answer.report?.isSome = true := by
  cases answer with
  | result content =>
    cases content with
    | obj members =>
      simp only [Answer.wellFormed, Json.holds] at shape
      rw [Answer.report?]
      cases found : Json.find? "Volumes" members with
      | none => rfl
      | some volumes =>
        rw [found, Option.all_some] at shape
        cases volumes with
        | null => rfl
        | arr elements =>
          cases elements with
          | nil => rfl
          | cons first rest =>
            simp only [Json.nullOr, Json.listsObjects, List.all_cons, Bool.and_eq_true] at shape
            obtain ⟨volume, rfl⟩ := Json.eq_obj_of_isObject shape.1
            rfl
        | _ => cases shape
    | _ => cases shape
  | serviceError response operation =>
    simp only [Answer.wellFormed, Bool.and_eq_true] at shape
    obtain ⟨text, told, -⟩ := said_serviceErrorText operation shape.1 shape.2
    rw [Answer.report?, told]
    split <;> simp_all
  | clientFault fault => rfl
  | failure cause => cases shape

section Reading

variable {volumeId : Json}

theorem judged_unknown : Judged volumeId .unknown (.ok false) := by
  constructor <;> simp

theorem judged_failed (text : String) :
    Judged volumeId (.failed text) (.error (queryFailure volumeId text)) := by
  constructor
  · simp
  · simp
  · intro failure
    simp [queryFailure, eq_comm]

theorem judged_listed (state : Option Json) :
    Judged volumeId (.listed state) (.ok (existsIn (state.getD .null))) := by
  cases state with
  | none => constructor <;> simp [existsIn]
  | some held =>
    cases held with
    | null => constructor <;> simp [existsIn]
    | str text => constructor <;> simp [existsIn, deletedState]
    | _ => constructor <;> simp [existsIn]

theorem holds_of_serviceErrorText {response operation : Json} {text : String}
    (told : serviceErrorText response operation = .ok text) :
    response.holds "Error" Json.isObject = true := by
  obtain ⟨remark, -, told⟩ := bind_eq_ok told
  obtain ⟨error, held, told⟩ := bind_eq_ok told
  obtain ⟨code, named, -⟩ := bind_eq_ok told
  cases response with
  | obj members =>
    have same : (Json.find? "Error" members).getD (.obj []) = error := Except.ok.inj held
    rw [Json.holds]
    cases found : Json.find? "Error" members with
    | none => rfl
    | some inside =>
      rw [found, Option.getD_some] at same
      rw [Option.all_some, same]
      cases error with
      | obj details => rfl
      | _ => cases named
  | _ => cases held

theorem isNotFound_of_other {response : Json} (error : response.holds "Error" Json.isObject = true)
    (other : errorCode? response ≠ some (.str notFoundCode)) : isNotFound response = .ok false := by
  rw [isNotFound_eq error]
  split
  · next code held =>
    have different : code ≠ notFoundCode := by
      rintro rfl
      exact other held
    rw [beq_eq_false_iff_ne.mpr different]
  · rfl

theorem judged_serviceError {response operation : Json} {report : Report}
    (reported : (Answer.serviceError response operation).report? = some report) :
    Judged volumeId report
      (((Answer.serviceError response operation).state volumeId).map existsIn) := by
  rw [Answer.report?] at reported
  cases told : serviceErrorText response operation with
  | error fault => simp [told] at reported
  | ok text =>
    have error := holds_of_serviceErrorText told
    rw [told] at reported
    rw [Answer.state, told]
    by_cases known : errorCode? response = some (.str notFoundCode)
    · have judged := isNotFound_eq error
      rw [known] at judged reported
      cases reported
      rw [judged]
      exact judged_unknown
    · have other : report = .failed text := by
        split at reported
        · next code => exact absurd code known
        · next same _ =>
          cases same
          exact (Option.some.inj reported).symm
        · next same => cases same
      rw [other, isNotFound_of_other error known]
      exact judged_failed text

theorem judged_result {content : Json} {report : Report}
    (reported : (Answer.result content).report? = some report) :
    Judged volumeId report (((Answer.result content).state volumeId).map existsIn) := by
  cases content with
  | obj members =>
    have listed : (Json.obj members).memberOr "Volumes" .null =
        .ok ((Json.find? "Volumes" members).getD .null) := rfl
    rw [Answer.report?] at reported
    rw [Answer.state, listedState, listed]
    split at reported
    · next missing =>
      cases reported
      rw [missing]
      exact judged_unknown
    · next empty =>
      cases reported
      rw [empty]
      exact judged_unknown
    · next empty =>
      cases reported
      rw [empty]
      exact judged_unknown
    · next volume others first =>
      cases reported
      rw [first]
      exact judged_listed (Json.find? "State" volume)
    · cases reported
  | _ => cases reported

theorem judged_state {answer : Answer} {report : Report}
    (reported : answer.report? = some report) :
    Judged volumeId report ((answer.state volumeId).map existsIn) := by
  cases answer with
  | result content => exact judged_result reported
  | serviceError response operation => exact judged_serviceError reported
  | clientFault fault =>
    cases reported
    exact judged_failed fault.message
  | failure cause => cases reported

end Reading

section Asking

variable {τ : Type} [Time τ] {looks : Nat} {volumeId : Json}

theorem stillExists_of_answered {world : World τ} {answer : Answer}
    (inTime : (world.services.ec2.ask looks world.context volumeId).1 = .ok answer) :
    (stillExists looks volumeId world).1 = (answer.state volumeId).map existsIn := by
  unfold stillExists volumeState
  generalize world.services.ec2.ask looks world.context volumeId = asked at inTime ⊢
  obtain ⟨result, context, session⟩ := asked
  cases inTime
  rfl

theorem ask_of_isOk {session : Session τ} {context : Context τ}
    (answered : (session.ask looks context volumeId).1.isOk = true) :
    (session.ask looks context volumeId).1 = .ok (session.nextReply volumeId).answer := by
  have course := asked_ask session looks context volumeId
  generalize session.ask looks context volumeId = asked at answered course ⊢
  obtain ⟨result, after, later⟩ := asked
  dsimp only at answered course ⊢
  cases course with
  | answered => rfl
  | _ => cases answered

end Asking

/-- With an answer that arrives before the request is given up, a volume is gone exactly if EC2 does
not know it, lists it as deleted or lists it without a state, it is there exactly if EC2 lists it
with another state, and every other error fails the query and names the volume. All well-formed
answers report one of these. -/
theorem stillExists_judged {τ : Type} [Time τ] (looks : Nat) (volumeId : Json) (world : World τ)
    (answer : Answer)
    (inTime : (world.services.ec2.ask looks world.context volumeId).1 = .ok answer) :
    (answer.wellFormed = true → answer.report?.isSome = true) ∧
      ∀ report, answer.report? = some report →
        Judged volumeId report (stillExists looks volumeId world).1 := by
  refine ⟨isSome_report?, fun report reported => ?_⟩
  rw [stillExists_of_answered inTime]
  exact judged_state reported

/-- A world in which EC2 lists a volume, half a second after it was asked, and says nothing of its
state. -/
def unstated : World Rat :=
  ⟨.create 0 (some 60) none,
    { ec2 := { script := [("vol-1",
        [⟨some 0.5, .volumes (.arr [.obj [("VolumeId", .str "vol-1"), ("Size", .int 8)]])⟩])] } }⟩

theorem stillExists_judged_unstated :
    Judged (.str "vol-1") (.listed none) (stillExists 9 (.str "vol-1") unstated).1 ∧
      (stillExists 9 (.str "vol-1") unstated).1 = .ok false := by
  have judged := (stillExists_judged 9 (.str "vol-1") unstated _
    (ask_of_isOk (by decide +kernel))).2 (.listed none) rfl
  exact ⟨judged, judged.gone.mpr (.inr (.inr (.inl rfl)))⟩

end VolumeReclaim.Ec2
