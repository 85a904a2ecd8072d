import VolumeReclaim.Proofs.ReleaseSteps

/-!
What a discovery does to a cluster, invocation by invocation: the listing, then an update and a
deletion for every volume on EBS, in the order of the listing and up to the first invocation that
fails. Volumes without an id are never touched. The volumes are those that were read, with lone
surrogates in their names and ids replaced.
-/
set_option autoImplicit false

namespace VolumeReclaim.Discovery

/-- The whole command line of a step. Without a kubectl context, or with an empty one, it selects no
cluster. -/
def Step.commandLine (context : Option String) (step : Step) : List Json :=
  match context with
  | none | some "" => .str "kubectl" :: step.arguments
  | some name => .str "kubectl" :: .str "--context" :: .str name :: step.arguments

theorem commandLine_ofText? (context : Option String) (step : Step) :
    Kubectl.commandLine (.ofText? context) step.arguments = step.commandLine context := by
  cases context with
  | none => rfl
  | some name =>
    by_cases empty : name = ""
    · rw [empty]
      rfl
    · have present : (Json.ofText? (some name)).isPresent = true := by
        simpa [Json.ofText?, Json.isPresent] using empty
      rw [Kubectl.commandLine, Kubectl.selection, if_pos present]
      simp [Step.commandLine, Json.ofText?]

theorem commandLine_steps (context : Option String) :
    (fun step : Step => Kubectl.commandLine (.ofText? context) step.arguments) =
      Step.commandLine context := by
  funext step
  exact commandLine_ofText? context step

theorem Step.arguments_injective {step other : Step} (same : step.arguments = other.arguments) :
    step = other := by
  cases step <;> cases other <;> simp_all [Step.arguments]

theorem Step.commandLine_injective {context : Option String} {step other : Step}
    (same : step.commandLine context = other.commandLine context) : step = other := by
  apply Step.arguments_injective
  unfold Step.commandLine at same
  split at same <;> simpa using same

def plan (volumes : List PersistentVolume) : List Step :=
  .list :: releaseSteps volumes

/-- All steps were taken and ended well, and the ids behind the volumes were given back, each once,
in the order of first occurrence. -/
def Finished (context : Option String) (volumes : List PersistentVolume)
    (made : List Kubectl.Invocation) (outcome : Except Failure (List Json)) : Prop :=
  made.map (·.commandLine) = (plan volumes).map (Step.commandLine context) ∧
    (∀ invocation ∈ made, invocation.ending.succeeded = true) ∧
    outcome = .ok ((volumes.filterMap (·.ebsId?)).eraseDups.map .str)

/-- A step failed: it was the last one taken, those before it ended well, and the failure of the
cluster names the step and its volume. -/
def Aborted (context : Option String) (volumes : List PersistentVolume)
    (made : List Kubectl.Invocation) (outcome : Except Failure (List Json)) : Prop :=
  ∃ before step after earlier failing,
    plan volumes = before ++ step :: after ∧
    made = earlier ++ [failing] ∧
    earlier.map (·.commandLine) = before.map (Step.commandLine context) ∧
    (∀ invocation ∈ earlier, invocation.ending.succeeded = true) ∧
    failing.commandLine = step.commandLine context ∧
    failing.ending.succeeded = false ∧
    ∃ (details : String) (forbidden : Bool),
      outcome = .error (.cluster s!"{step.failed}: {details}" forbidden)

/-- What the invocations made by a discovery have to do with its listing and with the replies. -/
structure MutationTrace {τ : Type} (context : Option String) (volumes : List PersistentVolume)
    (before : World τ) (made : List Kubectl.Invocation)
    (result : Except Failure (List Json) × Logged (World τ)) : Prop where
  journal : result.2.state.services.kubectl.invocations.toList =
    before.services.kubectl.invocations.toList ++ made
  endings : ∀ place invocation, made[place]? = some invocation →
    invocation.ending = (before.services.kubectl.replies.getD place {}).ending
  course : Finished context volumes made result.1 ∨ Aborted context volumes made result.1
  /-- Whatever is updated or deleted is a listed volume on EBS. -/
  touched : ∀ invocation ∈ made, ∀ name,
    invocation.commandLine = (Step.update name).commandLine context ∨
      invocation.commandLine = (Step.delete name).commandLine context →
    ∃ volume ∈ volumes, volume.name = name ∧ volume.onEbs = true

theorem mem_plan_mutation {volumes : List PersistentVolume} {name : Json}
    (member : .update name ∈ plan volumes ∨ .delete name ∈ plan volumes) :
    ∃ volume ∈ volumes, volume.name = name ∧ volume.onEbs = true := by
  simp only [plan, releaseSteps, List.mem_cons, List.mem_flatMap, List.mem_filter, reduceCtorEq,
    Step.update.injEq, Step.delete.injEq, List.not_mem_nil, or_false, false_or] at member
  obtain ⟨volume, ⟨listed, onEbs⟩, same⟩ | ⟨volume, ⟨listed, onEbs⟩, same⟩ := member
  · exact ⟨volume, listed, same.symm, onEbs⟩
  · exact ⟨volume, listed, same.symm, onEbs⟩

theorem planned_of_course {context : Option String} {volumes : List PersistentVolume}
    {made : List Kubectl.Invocation} {outcome : Except Failure (List Json)}
    (course : Finished context volumes made outcome ∨ Aborted context volumes made outcome)
    {invocation : Kubectl.Invocation} (member : invocation ∈ made) :
    ∃ step ∈ plan volumes, invocation.commandLine = step.commandLine context := by
  have line : invocation.commandLine ∈ (plan volumes).map (Step.commandLine context) := by
    have present := List.mem_map_of_mem (f := Kubectl.Invocation.commandLine) member
    obtain ⟨lines, -⟩ | ⟨before, step, after, earlier, failing, split, whole, lines, -, last, -⟩ :=
      course
    · exact lines ▸ present
    · rw [whole, List.map_append, lines, List.map_singleton, last] at present
      rw [split, List.map_append, List.map_cons]
      simp only [List.mem_append, List.mem_cons, List.not_mem_nil, or_false] at present ⊢
      tauto
  obtain ⟨step, planned, same⟩ := List.mem_map.mp line
  exact ⟨step, planned, same.symm⟩

theorem Step.failure_kubectl (step : Step) (cause : Kubectl.Failure) :
    ∃ (details : String) (forbidden : Bool),
      step.failure (.kubectl cause) = .cluster s!"{step.failed}: {details}" forbidden := by
  rw [Step.failure, Step.clusterFailure]
  by_cases refused : cause.forbidden = true
  · refine ⟨cause.message ++ step.hint, cause.forbidden, ?_⟩
    simp only [if_pos refused, toString, String.append_assoc]
  · exact ⟨cause.message, cause.forbidden, by simp [if_neg refused]⟩

theorem wellFormed_of_performed {τ : Type} {context : Json} {steps : List Step}
    {replies : List (Kubectl.Reply τ)}
    (formed : ∀ reply ∈ replies, reply.ending.wellFormed = true)
    {invocation : Kubectl.Invocation} (member : invocation ∈ performed context steps replies) :
    invocation.ending.wellFormed = true := by
  obtain ⟨place, found⟩ := List.mem_iff_getElem?.mp member
  rw [performed_ending context found, List.getD_eq_getElem?_getD]
  cases given : replies[place]? with
  | none => rfl
  | some reply => exact formed reply (List.mem_of_getElem? given)

theorem course_of_carriesOut {τ : Type} {context : Option String} {volumes : List PersistentVolume}
    {before : World τ} {result : Except Failure (List Json) × Logged (World τ)}
    (formed : ∀ reply ∈ before.services.kubectl.replies, reply.ending.wellFormed = true)
    (whole : CarriesOut (.ofText? context) (plan volumes)
      ((volumes.filterMap (·.ebsId?)).eraseDups.map .str) before result) :
    Finished context volumes
        (performed (.ofText? context) (plan volumes) before.services.kubectl.replies) result.1 ∨
      Aborted context volumes
        (performed (.ofText? context) (plan volumes) before.services.kubectl.replies) result.1 := by
  have outcome := whole.outcome
  cases stop : stopped? (plan volumes) before.services.kubectl.replies with
  | none =>
    rw [stop] at outcome
    have all := performed_of_none (.ofText? context) stop
    rw [commandLine_steps] at all
    exact .inl ⟨all.1, all.2, outcome⟩
  | some failure =>
    rw [stop] at outcome
    obtain ⟨before, step, after, earlier, failing, split, made, sent, ends, last, bad, reason⟩ :=
      performed_of_some (.ofText? context) stop
    have formed : failing.ending.wellFormed = true :=
      wellFormed_of_performed formed (made ▸ List.mem_append_right earlier (by simp))
    have asked : step.arguments ≠ [] := by cases step <;> simp [Step.arguments]
    obtain ⟨cause, said⟩ := Kubectl.failure_of_wellFormed asked formed
    obtain ⟨details, forbidden, named⟩ := step.failure_kubectl cause
    rw [commandLine_steps] at sent
    rw [commandLine_ofText?] at last
    exact .inr ⟨before, step, after, earlier, failing, split, made, sent, ends, last, bad,
      details, forbidden, by rw [outcome, reason, said, named]⟩

/-- A discovery makes the invocations of its plan up to the first that fails, under whatever replies
it gets. If none fails it gives the ids behind the volumes, and if one fails it names its step. -/
theorem releaseListed_mutation_trace {τ : Type} [Time τ] (context : Option String)
    (volumes : List PersistentVolume) (run : Logged (World τ))
    (typed : ∀ volume ∈ volumes, volume.wellTyped = true)
    (replies : ∀ reply ∈ run.state.services.kubectl.replies, reply.ending.wellFormed = true)
    (listed : ∀ process, run.state.services.kubectl.nextEnding = .completed process →
      process.succeeded = true →
      Kubectl.readListing run.state.services.kubectl.levels process.stdout = .ok volumes) :
    ∃ made, MutationTrace context volumes run.state made
      (releaseListed (Kubectl.cluster (.ofText? context)) run) := by
  have readable : ∀ volume ∈ volumes, volume.Readable :=
    fun volume member => PersistentVolume.readable_of_wellTyped (typed volume member)
  have whole := carriesOut_releaseListed (.ofText? context) volumes run listed readable
  have course := course_of_carriesOut replies whole
  refine ⟨_, whole.journal.invocations, fun _ _ => performed_ending _, course, ?_⟩
  intro invocation member name mutation
  obtain ⟨step, planned, line⟩ := planned_of_course course member
  apply mem_plan_mutation
  obtain update | delete := mutation
  · left
    rw [Step.commandLine_injective (update.symm.trans line)]
    exact planned
  · right
    rw [Step.commandLine_injective (delete.symm.trans line)]
    exact planned

/-- A world with the sample listing in which the first deletion is refused. -/
def refusedDeletion : World Rat :=
  ⟨.create 0 (some 60) none,
    { kubectl := { replies :=
        [{ ending := .completed { stdout := .str sampleListing } }, {},
         { ending := .completed
            { status := .int 1, stderr := .str "Error from server (Forbidden): no" } }] } }⟩

theorem releaseListed_mutation_trace_refused :
    (∀ volume ∈ sampleVolumes, volume.wellTyped = true) ∧
    (∀ reply ∈ refusedDeletion.services.kubectl.replies, reply.ending.wellFormed = true) ∧
    ∃ made, MutationTrace (some "staging") sampleVolumes refusedDeletion made
      (releaseListed (Kubectl.cluster (.ofText? (some "staging"))) { state := refusedDeletion }) := by
  have typed : ∀ volume ∈ sampleVolumes, volume.wellTyped = true := by decide +kernel
  have replies : ∀ reply ∈ refusedDeletion.services.kubectl.replies,
      reply.ending.wellFormed = true := by decide +kernel
  refine ⟨typed, replies, releaseListed_mutation_trace (some "staging") sampleVolumes
    { state := refusedDeletion } typed replies ?_⟩
  intro process ending well
  cases ending
  exact readListing_sample

end VolumeReclaim.Discovery
