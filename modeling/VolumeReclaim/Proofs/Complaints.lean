import VolumeReclaim.Proofs.MutationTrace
import VolumeReclaim.Proofs.Trimming

/-!
How a failure of the cluster is told. It is that of the last invocation, and a matter of permissions
exactly if that invocation ended badly and the server's word for it stands in what was printed as
errors, blanks or not. The message names the step and its volume, gives the reason, and only for
lack of permissions says which one is needed.
-/
set_option autoImplicit false

namespace VolumeReclaim

namespace Kubectl

/-- What a process printed as errors, nothing if that was not captured. -/
def Completed.printedErrors (process : Completed) : String :=
  match process.stderr with
  | .str text => text
  | _ => ""

/-- What is said of an invocation that failed, where the subcommand is its first argument. -/
inductive Told (levels : Nat) (subcommand : String) : Ending → String → Prop where
  | errors {process : Completed} {core : String} (bad : process.succeeded = false)
      (trimmed : Text.Trimmed process.printedErrors.toList core.toList) (some : core ≠ "") :
      Told levels subcommand (.completed process) core
  | status {process : Completed} (bad : process.succeeded = false)
      (trimmed : Text.Trimmed process.printedErrors.toList []) :
      Told levels subcommand (.completed process)
        s!"kubectl exited with status {process.status.display}"
  | timedOut : Told levels subcommand .timedOut s!"kubectl {subcommand} timed out after 60s"
  | notStarted {details : List Json} {reason : String}
      (described : describeStart details = .ok reason) :
      Told levels subcommand (.notStarted details) s!"cannot run kubectl: {reason}"
  | garbled {process : Completed} {text : String} {violation : Json.Violation}
      {line column offset : Nat} (well : process.succeeded = true)
      (printed : process.stdout = .str text)
      (malformed : Json.parse levels text = .error (.malformed violation line column offset)) :
      Told levels subcommand (.completed process)
        (s!"invalid JSON from kubectl get persistentvolumes: {violation.message}: " ++
          s!"line {line} column {column} (char {offset})")

/-- Whether an invocation ended badly with the server's word for a lack of permissions. -/
def Ending.Forbidden (ending : Ending) : Prop :=
  ∃ process, ending = .completed process ∧ process.succeeded = false ∧
    "Error from server (Forbidden)".toList <:+: process.printedErrors.toList

theorem complaint_eq {process : Completed} {core : String}
    (complaint : process.complaint = .ok core) : core = Text.strip process.printedErrors := by
  unfold Completed.complaint at complaint
  unfold Completed.printedErrors
  rcases Json.orElse_cases process.stderr (.str "") with ⟨same, -⟩ | ⟨same, absent⟩
  · rw [same] at complaint
    cases held : process.stderr with
    | str text =>
      rw [held] at complaint
      exact (Except.ok.inj complaint).symm
    | _ =>
      rw [held] at complaint
      cases complaint
  · rw [same] at complaint
    have nothing : core = Text.strip "" := (Except.ok.inj complaint).symm
    cases held : process.stderr with
    | str text =>
      have empty : text = "" := by simpa [held, Json.isPresent] using absent
      rw [nothing, empty]
    | _ => exact nothing

theorem forbidden_exited (process : Completed) (status : Json) :
    (Failure.exited status (Text.strip process.printedErrors)).forbidden = true ↔
      "Error from server (Forbidden)".toList <:+: process.printedErrors.toList := by
  rw [Failure.forbidden, Text.occursIn_iff]
  have first : forbiddenMarker.toList.head? = some 'E' := by decide +kernel
  have last : forbiddenMarker.toList.getLast? = some ')' := by decide +kernel
  exact ((Text.trimmed_strip _).infix_iff first (by decide) last (by decide)).symm

theorem told_exited {levels : Nat} {process : Completed} (subcommand : String)
    (bad : process.succeeded = false) :
    Told levels subcommand (.completed process)
      (Failure.exited process.status (Text.strip process.printedErrors)).message := by
  have trimmed := Text.trimmed_strip process.printedErrors
  have said : (Failure.exited process.status (Text.strip process.printedErrors)).message =
      if Text.strip process.printedErrors = "" then
        s!"kubectl exited with status {process.status.display}"
      else Text.strip process.printedErrors := rfl
  rw [said]
  by_cases nothing : Text.strip process.printedErrors = ""
  · rw [if_pos nothing]
    rw [nothing] at trimmed
    exact .status bad trimmed
  · rw [if_neg nothing]
    exact .errors bad trimmed nothing

theorem message_timedOut (subcommand : String) :
    (Failure.timedOut (.str subcommand)).message =
      s!"kubectl {subcommand} timed out after 60s" := by
  have ending : " timed out after " ++ toString timeoutSeconds ++ "s" = " timed out after 60s" := by
    decide +kernel
  change "kubectl " ++ subcommand ++ " timed out after " ++ toString timeoutSeconds ++ "s" =
    "kubectl " ++ subcommand ++ " timed out after 60s"
  rw [← ending]
  simp only [String.append_assoc]

/-- A failure that is told of an ending: kubectl's own, or a fault of which the cluster is not
accused. -/
inductive Accounted (levels : Nat) (subcommand : String) (ending : Ending) :
    VolumeReclaim.Failure → Prop where
  | shape (fault : ShapeFault) : Accounted levels subcommand ending (.shape fault)
  | told {cause : Failure} (reason : Told levels subcommand ending cause.message)
      (flag : cause.forbidden = true ↔ ending.Forbidden) :
      Accounted levels subcommand ending (.kubectl cause)

theorem allowed_of_silent {cause : Failure} (silent : cause.stderr = "") :
    cause.forbidden = false := by
  rw [Failure.forbidden, silent]
  decide +kernel

theorem accounted_failure {levels : Nat} (subcommand : String) (others : List Json)
    {ending : Ending}    (bad : ending.succeeded = false) :
    Accounted levels subcommand ending (ending.failure (.str subcommand :: others)) := by
  unfold Ending.failure
  cases ending with
  | completed process =>
    rw [Ending.reason]
    cases complaint : process.complaint with
    | error fault => exact .shape fault
    | ok core =>
      refine .told ?_ ?_
      · rw [complaint_eq complaint]
        exact told_exited subcommand bad
      · rw [complaint_eq complaint, forbidden_exited]
        simp [Ending.Forbidden, show process.succeeded = false from bad]
  | timedOut =>
    refine .told (message_timedOut subcommand ▸ .timedOut) ?_
    rw [allowed_of_silent rfl]
    simp [Ending.Forbidden]
  | notStarted details =>
    rw [Ending.reason]
    cases described : describeStart details with
    | error fault => exact .shape fault
    | ok text =>
      refine .told (.notStarted described) ?_
      rw [allowed_of_silent rfl]
      simp [Ending.Forbidden]

theorem accounted_readListing {levels : Nat} (subcommand : String) {process : Completed}
    {failure : VolumeReclaim.Failure} (well : process.succeeded = true)
    (failed : readListing levels process.stdout = .error failure) :
    Accounted levels subcommand (.completed process) failure := by
  unfold readListing at failed
  rcases Json.orElse_cases process.stdout (.str "\x7b\x7d") with ⟨same, -⟩ | ⟨same, -⟩
  · rw [same] at failed
    split at failed
    · next text printed =>
      split at failed
      · next listing parsed =>
        cases read : PersistentVolume.ofListing listing with
        | ok volumes => simp [read, shaped] at failed
        | error fault =>
          rw [read] at failed
          cases failed
          exact .shape fault
      · next violation line column offset malformed =>
        cases failed
        refine .told (.garbled well printed malformed) ?_
        rw [allowed_of_silent rfl]
        simp [Ending.Forbidden, well]
      · cases failed
        exact .shape _
      · cases failed
        exact .shape _
    · cases failed
      exact .shape _
  · rw [same] at failed
    cases levels with
    | zero =>
      cases failed
      exact .shape .nestedTooDeep
    | succ levels => cases failed

end Kubectl

namespace Discovery

/-- How the failure of a step begins, the verb of the permission that it needs, and the subcommand
that it gives kubectl. -/
inductive Step.Worded : Step → (opening verb subcommand : String) → Prop where
  | list : Worded .list "cannot list Kubernetes Persistent Volumes" "list" "get"
  | update (name : String) : Worded (.update (.str name))
      s!"cannot update Kubernetes Persistent Volume {name}" "patch" "patch"
  | delete (name : String) : Worded (.delete (.str name))
      s!"cannot delete Kubernetes Persistent Volume {name}" "delete" "delete"

structure Explained (levels : Nat) (step : Step) (ending : Kubectl.Ending)
    (message : String) (forbidden : Bool) : Prop where
  flag : forbidden = true ↔ ending.Forbidden
  told : ∃ opening verb subcommand reason, step.Worded opening verb subcommand ∧
    Kubectl.Told levels subcommand ending reason ∧
    message = s!"{opening}: {reason}" ++ if forbidden then
      s!" (deleting a cluster requires permission to {verb} Kubernetes Persistent Volumes)" else ""

theorem Step.Worded.failed_eq {step : Step} {opening verb subcommand : String}
    (worded : step.Worded opening verb subcommand) :
    step.failed = opening ∧ step.verb = verb ∧
      ∃ others, step.arguments = .str subcommand :: others := by
  cases worded with
  | list => exact ⟨rfl, rfl, _, rfl⟩
  | update name => exact ⟨rfl, rfl, _, rfl⟩
  | delete name => exact ⟨rfl, rfl, _, rfl⟩

theorem explained_failure {levels : Nat} {step : Step} {opening verb subcommand message : String}
    {ending : Kubectl.Ending} {failure : Failure} {forbidden : Bool}
    (worded : step.Worded opening verb subcommand)
    (accounted : Kubectl.Accounted levels subcommand ending failure)
    (failed : step.failure failure = .cluster message forbidden) :
    Explained levels step ending message forbidden := by
  obtain ⟨opens, takes, -⟩ := worded.failed_eq
  cases accounted with
  | shape fault => cases failed
  | @told cause reason flag =>
    rw [Step.failure, Step.clusterFailure, opens] at failed
    injection failed with text same
    rw [← same]
    refine ⟨flag, opening, verb, subcommand, cause.message, worded, reason, ?_⟩
    have hint : step.hint =
        s!" (deleting a cluster requires permission to {verb} Kubernetes Persistent Volumes)" := by
      rw [← takes]
      rfl
    rw [← text, ← hint]
    by_cases refused : cause.forbidden = true
    · rw [if_pos refused, if_pos refused]
    · rw [if_neg refused, if_neg refused, String.append_empty]

abbrev journal {τ : Type} (world : World τ) : List Kubectl.Invocation :=
  world.services.kubectl.invocations.toList

/-- A part of a run adds to the invocations made so far, and if the cluster fails in it, that is
told of the last one that it adds. -/
structure Accountable {τ α : Type} (levels : Nat) (context : Option String)
    (start : List Kubectl.Invocation)
    (result : Except Failure α × Logged (World τ)) : Prop where
  kept : start <+: journal result.2.state
  explained : ∀ message forbidden, result.1 = .error (.cluster message forbidden) →
    ∃ earlier step ending, journal result.2.state =
      start ++ earlier ++ [⟨step.commandLine context, true, ending⟩] ∧
      Explained levels step ending message forbidden

section Runs

variable {τ : Type} {levels : Nat} {context : Option String} {start : List Kubectl.Invocation}

theorem Accountable.of_ok {α : Type} {value : α} {run : Logged (World τ)}
    (kept : start <+: journal run.state) : Accountable levels context start (.ok value, run) :=
  ⟨kept, nofun⟩

theorem Accountable.of_shape {α : Type} {fault : ShapeFault} {run : Logged (World τ)}
    (kept : start <+: journal run.state) :
    Accountable levels context start ((.error (.shape fault) : Except Failure α), run) :=
  ⟨kept, nofun⟩

theorem Accountable.failed {α β : Type} {failure : Failure} {run : Logged (World τ)}
    (part : Accountable levels context start ((.error failure : Except Failure α), run)) :
    Accountable levels context start ((.error failure : Except Failure β), run) := by
  refine ⟨part.kept, fun message forbidden failed => ?_⟩
  cases failed
  exact part.explained message forbidden rfl

variable (context) [Time τ]

theorem accountable_attempt {α : Type} {step : Step} (command : Kubectl.Command)
    {opening verb subcommand : String} (worded : step.Worded opening verb subcommand)
    (same : command.arguments = step.arguments)
    (read : Kubectl.Completed → Except Failure α)
    (reads : ∀ process failure, process.succeeded = true → read process = .error failure →
      Kubectl.Accounted levels subcommand (.completed process) failure)
    {run : Logged (World τ)} (kept : start <+: journal run.state) :
    Accountable levels context start (attempt step (fun world =>
      match Kubectl.execute (.ofText? context) command world with
      | (.ok process, world) => (read process, world)
      | (.error failure, world) => (.error failure, world)) run) := by
  have made := (Kubectl.journaled_afterCommand (.ofText? context) command run.state).invocations
  rw [same, commandLine_ofText?] at made
  obtain ⟨before, whole⟩ := kept
  have told : ∀ outcome : Except Failure α, (∀ failure, outcome = .error failure →
        Kubectl.Accounted levels subcommand run.state.services.kubectl.nextEnding failure) →
      Accountable levels context start (outcome.mapError step.failure,
        { run with state := Kubectl.afterCommand (.ofText? context) command run.state }) := by
    intro outcome accounted
    refine ⟨⟨before ++ [_], by rw [← List.append_assoc, whole]; exact made.symm⟩, ?_⟩
    intro message forbidden failed
    cases outcome with
    | ok value => cases failed
    | error failure =>
      refine ⟨before, step, _, by rw [whole]; exact made, ?_⟩
      exact explained_failure worded (accounted failure rfl) (Except.error.inj failed)
  simp only [attempt, Logged.perform, Kubectl.execute_eq, same]
  by_cases well : run.state.services.kubectl.nextEnding.succeeded = true
  · obtain ⟨process, ending, verdict⟩ := Kubectl.verdict_of_succeeded step.arguments well
    rw [ending, Kubectl.Ending.succeeded] at well
    rw [verdict]
    apply told
    intro failure failed
    rw [ending]
    exact reads process failure well failed
  · have bad := Bool.eq_false_iff.mpr well
    obtain ⟨-, -, others, arguments⟩ := worded.failed_eq
    rw [Kubectl.verdict_of_failed _ bad, arguments]
    apply told
    intro failure failed
    rw [← Except.error.inj failed]
    exact Kubectl.accounted_failure subcommand others bad

theorem accountable_list {run : Logged (World τ)} (kept : start <+: journal run.state) :
    Accountable run.state.services.kubectl.levels context start
      (attempt .list (Kubectl.cluster (.ofText? context)).list run) :=
  accountable_attempt context .list .list rfl
    (fun process => Kubectl.readListing run.state.services.kubectl.levels process.stdout)
    (fun _ _ => Kubectl.accounted_readListing "get") kept

theorem accountable_release (levels : Nat) {volume : PersistentVolume}
    (named : volume.name.isText = true)
    {run : Logged (World τ)} (kept : start <+: journal run.state) :
    Accountable levels context start (release (Kubectl.cluster (.ofText? context)) volume run) := by
  obtain ⟨name, text⟩ := Json.eq_str_of_isText named
  have update := Step.Worded.update name
  have delete := Step.Worded.delete name
  rw [← text] at update delete
  unfold release
  dsimp only
  have told : start <+: journal (run.note .debug
      s!"updating Kubernetes Persistent Volume (setting finalizers to null) {volume.name.display}"
      ).state := kept
  have part : Accountable levels context start (attempt (.update volume.name)
      ((Kubectl.cluster (.ofText? context)).update { volume with finalizers := .arr [] }) _) :=
    accountable_attempt context (.update { volume with finalizers := .arr [] }) update rfl
      (fun _ => .ok ()) nofun told
  generalize attempt (.update volume.name) _ _ = halfway at part ⊢
  obtain ⟨outcome, after⟩ := halfway
  cases outcome with
  | error failure => exact part.failed
  | ok done =>
    exact accountable_attempt context (.delete volume.name) delete rfl (fun _ => .ok ()) nofun
      part.kept

theorem accountable_releaseAll (levels : Nat) {volumes : List PersistentVolume}
    (named : ∀ volume ∈ volumes, volume.name.isText = true) (tracked : List Json)
    {run : Logged (World τ)} (kept : start <+: journal run.state) :
    Accountable levels context start
      (releaseAll (Kubectl.cluster (.ofText? context)) volumes tracked run) := by
  induction volumes, tracked, run using
    releaseAll_induction (Kubectl.cluster (τ := τ) (.ofText? context)) with
  | nil => exact .of_ok kept
  | refused => exact .of_shape kept
  | skipped volume rest tracked run later _ left ih =>
    have same : later.state = run.state := skip_state left
    exact ih (List.forall_mem_cons.mp named).2 (same ▸ kept)
  | failed volume rest tracked run id failure after _ given =>
    have part := accountable_release context levels (List.forall_mem_cons.mp named).1 kept
    rw [given] at part
    exact part.failed
  | released volume rest tracked run id after _ given ih =>
    obtain ⟨first, others⟩ := List.forall_mem_cons.mp named
    have part := accountable_release context levels first kept
    rw [given] at part
    exact ih others part.kept

theorem accountable_releaseListed {run : Logged (World τ)}
    (named : ∀ volumes, (Kubectl.list (.ofText? context) run.state).1 = .ok volumes →
      ∀ volume ∈ volumes, volume.name.isText = true) :
    Accountable run.state.services.kubectl.levels context (journal run.state)
      (releaseListed (Kubectl.cluster (.ofText? context)) run) := by
  have listed := accountable_list context (List.prefix_refl (journal run.state))
  have taken : ∀ volumes, (attempt .list (Kubectl.cluster (.ofText? context)).list run).1 =
      .ok volumes → (Kubectl.list (.ofText? context) run.state).1 = .ok volumes := by
    intro volumes given
    rw [attempt, Logged.perform] at given
    dsimp only [Kubectl.cluster] at given
    cases read : (Kubectl.list (.ofText? context) run.state).1 with
    | ok others =>
      rw [read] at given
      exact given
    | error failure =>
      rw [read] at given
      cases given
  rw [releaseListed]
  generalize attempt .list _ run = halfway at listed taken ⊢
  obtain ⟨outcome, after⟩ := halfway
  cases outcome with
  | error failure => exact listed.failed
  | ok volumes =>
    have released := accountable_releaseAll context run.state.services.kubectl.levels
      (named volumes (taken volumes rfl)) [] listed.kept
    dsimp only
    generalize releaseAll _ volumes [] after = whole at released ⊢
    obtain ⟨outcome, final⟩ := whole
    cases outcome with
    | error failure => exact released.failed
    | ok tracked => exact .of_ok released.kept

end Runs

/-- If the cluster fails a discovery, the failure is told of the last invocation: it is a matter of
permissions exactly if that one was forbidden, and it says which step failed, why, and for lack of
which permission. -/
theorem releaseListed_explained {τ : Type} [Time τ] (context : Option String)
    (run : Logged (World τ)) (message : String) (forbidden : Bool)
    (named : ∀ volumes, (Kubectl.list (.ofText? context) run.state).1 = .ok volumes →
      ∀ volume ∈ volumes, volume.name.isText = true)
    (failed : (releaseListed (Kubectl.cluster (.ofText? context)) run).1 =
      .error (.cluster message forbidden)) :
    ∃ earlier step ending,
      journal (releaseListed (Kubectl.cluster (.ofText? context)) run).2.state =
        journal run.state ++ earlier ++ [⟨step.commandLine context, true, ending⟩] ∧
      Explained run.state.services.kubectl.levels step ending message forbidden :=
  (accountable_releaseListed context named).explained message forbidden failed

def clusterFailure? {α : Type} : Except Failure α → Option (String × Bool)
  | .error (.cluster message forbidden) => some (message, forbidden)
  | _ => none

theorem eq_of_clusterFailure? {α : Type} {outcome : Except Failure α} {message : String}
    {forbidden : Bool} (told : clusterFailure? outcome = some (message, forbidden)) :
    outcome = .error (.cluster message forbidden) := by
  unfold clusterFailure? at told
  split at told
  · cases told
    rfl
  · cases told

theorem releaseListed_explained_refused :
    (∀ volumes, (Kubectl.list (.ofText? (some "staging")) refusedDeletion).1 = .ok volumes →
      ∀ volume ∈ volumes, volume.name.isText = true) ∧
    ∃ earlier step ending,
      journal (releaseListed (Kubectl.cluster (.ofText? (some "staging")))
        { state := refusedDeletion }).2.state =
          journal refusedDeletion ++ earlier ++
            [⟨step.commandLine (some "staging"), true, ending⟩] ∧
      Explained Kubectl.usualLevels step ending
        ("cannot delete Kubernetes Persistent Volume a: Error from server " ++
          "(Forbidden): no (deleting a cluster requires permission to delete Kubernetes " ++
          "Persistent Volumes)") true := by
  have listed : (Kubectl.list (.ofText? (some "staging")) refusedDeletion).1 = .ok sampleVolumes :=
    Kubectl.list_of_printed rfl readListing_sample
  have named : ∀ volumes, (Kubectl.list (.ofText? (some "staging")) refusedDeletion).1 =
      .ok volumes → ∀ volume ∈ volumes, volume.name.isText = true := by
    intro volumes given
    rw [listed] at given
    cases given
    decide +kernel
  refine ⟨named, releaseListed_explained (some "staging") { state := refusedDeletion } _ true named
    (eq_of_clusterFailure? ?_)⟩
  decide +kernel

end Discovery

end VolumeReclaim
