import VolumeReclaim.Proofs.InvocationJournal
import VolumeReclaim.Proofs.ReleaseCases
import VolumeReclaim.Proofs.TextKeys
import VolumeReclaim.Reclamation

/-!
The steps of a discovery against kubectl: the listing, and for every volume on EBS an update and a
deletion. A discovery makes the invocations of its steps in order, up to the first that fails, and
fails with that one.
-/
set_option autoImplicit false

namespace VolumeReclaim.Discovery

def Step.arguments : Step → List Json
  | .list => [.str "get", .str "persistentvolumes", .str "-o", .str "json"]
  | .update name => [.str "patch", .str "persistentvolume", name, .str "--type=merge", .str "-p",
      .str "\x7b\"metadata\": \x7b\"finalizers\": null\x7d\x7d"]
  | .delete name => [.str "delete", .str "persistentvolume", name, .str "--wait=false"]

/-- The steps that release the volumes of a listing: those on EBS, in order, each by an update and
a deletion. -/
def releaseSteps (volumes : List PersistentVolume) : List Step :=
  (volumes.filter (·.onEbs)).flatMap fun volume => [.update volume.name, .delete volume.name]

/-- A listing with a volume that is not on EBS and one that is. -/
def sampleListing : String :=
  "\x7b\"items\":[\x7b\x7d,\x7b\"metadata\":\x7b\"name\":\"a\",\"annotations\":" ++
    "\x7b\"pv.kubernetes.io/provisioned-by\":\"ebs.csi.aws.com\"\x7d\x7d," ++
    "\"spec\":\x7b\"csi\":\x7b\"volumeHandle\":\"v\"\x7d\x7d\x7d]\x7d"

def sampleVolumes : List PersistentVolume :=
  [{ name := .str "" },
   { name := .str "a", annotations := .obj [( provisionedByAnnotation, .str "ebs.csi.aws.com")],
     csiVolumeHandle := .str "v" }]

set_option maxRecDepth 20000 in
theorem readListing_sample :
    Kubectl.readListing Kubectl.usualLevels (.str sampleListing) = .ok sampleVolumes := by
  rfl

example : releaseSteps sampleVolumes = [.update (.str "a"), .delete (.str "a")] := by
  rfl

variable {τ : Type}

/-- The invocations of some steps under the replies to come, up to the first that fails. -/
def performed (context : Json) : List Step → List (Kubectl.Reply τ) → List Kubectl.Invocation
  | [], _ => []
  | step :: later, replies =>
    let ending := (replies.headD {}).ending
    ⟨Kubectl.commandLine context step.arguments, true, ending⟩ ::
      if ending.succeeded then performed context later replies.tail else []

/-- The failure of the first of some steps that fails under the replies to come. -/
def stopped? : List Step → List (Kubectl.Reply τ) → Option Failure
  | [], _ => none
  | step :: later, replies =>
    let ending := (replies.headD {}).ending
    if ending.succeeded then stopped? later replies.tail
    else some (step.failure (ending.failure step.arguments))

section Steps

variable {step : Step} {steps later : List Step} {replies : List (Kubectl.Reply τ)}

theorem performed_pass (context : Json) (well : (replies.headD {}).ending.succeeded = true) :
    performed context (step :: later) replies =
      ⟨Kubectl.commandLine context step.arguments, true, (replies.headD {}).ending⟩ ::
        performed context later replies.tail := by
  simp only [performed, if_pos well]

theorem performed_stop (context : Json) (bad : ¬ (replies.headD {}).ending.succeeded = true) :
    performed context (step :: later) replies =
      [⟨Kubectl.commandLine context step.arguments, true, (replies.headD {}).ending⟩] := by
  simp only [performed, if_neg bad]

theorem stopped?_pass (well : (replies.headD {}).ending.succeeded = true) :
    stopped? (step :: later) replies = stopped? later replies.tail := by
  simp only [stopped?, if_pos well]

theorem stopped?_stop (bad : ¬ (replies.headD {}).ending.succeeded = true) :
    stopped? (step :: later) replies =
      some (step.failure ((replies.headD {}).ending.failure step.arguments)) := by
  simp only [stopped?, if_neg bad]

theorem performed_of_none (context : Json) (smooth : stopped? steps replies = none) :
    (performed context steps replies).map (·.commandLine) =
        steps.map (fun step => Kubectl.commandLine context step.arguments) ∧
      ∀ invocation ∈ performed context steps replies, invocation.ending.succeeded = true := by
  induction steps generalizing replies with
  | nil => exact ⟨rfl, by simp [performed]⟩
  | cons step later ih =>
    by_cases well : (replies.headD {}).ending.succeeded = true
    · rw [stopped?_pass well] at smooth
      obtain ⟨lines, ends⟩ := ih smooth
      rw [performed_pass context well, List.map_cons, List.map_cons, lines]
      exact ⟨rfl, List.forall_mem_cons.mpr ⟨well, ends⟩⟩
    · rw [stopped?_stop well] at smooth
      cases smooth

theorem performed_of_some (context : Json) {failure : Failure}
    (stop : stopped? steps replies = some failure) :
    ∃ before step after earlier failing,
      steps = before ++ step :: after ∧
      performed context steps replies = earlier ++ [failing] ∧
      earlier.map (·.commandLine) =
        before.map (fun step => Kubectl.commandLine context step.arguments) ∧
      (∀ invocation ∈ earlier, invocation.ending.succeeded = true) ∧
      failing.commandLine = Kubectl.commandLine context step.arguments ∧
      failing.ending.succeeded = false ∧
      failure = step.failure (failing.ending.failure step.arguments) := by
  induction steps generalizing replies with
  | nil => cases stop
  | cons step later ih =>
    by_cases well : (replies.headD {}).ending.succeeded = true
    · rw [stopped?_pass well] at stop
      obtain ⟨before, last, after, earlier, failing, split, made, lines, ends, rest⟩ := ih stop
      refine ⟨step :: before, last, after,
        ⟨Kubectl.commandLine context step.arguments, true, (replies.headD {}).ending⟩ :: earlier,
        failing, by rw [split]; rfl, ?_, ?_, ?_, rest⟩
      · rw [performed_pass context well, made]
        rfl
      · rw [List.map_cons, List.map_cons, lines]
      · exact List.forall_mem_cons.mpr ⟨well, ends⟩
    · rw [stopped?_stop well] at stop
      exact ⟨[], step, later, [],
        ⟨Kubectl.commandLine context step.arguments, true, (replies.headD {}).ending⟩,
        rfl, performed_stop context well, rfl, by simp, rfl, by simpa using well,
        (Option.some.inj stop).symm⟩

theorem performed_ending (context : Json) {place : Nat} {invocation : Kubectl.Invocation}
    (made : (performed context steps replies)[place]? = some invocation) :
    invocation.ending = (replies.getD place {}).ending := by
  induction steps generalizing replies place with
  | nil => cases made
  | cons step later ih =>
    cases place with
    | zero =>
      rw [performed, List.getElem?_cons_zero, Option.some.injEq] at made
      rw [← made]
      cases replies <;> rfl
    | succ place =>
      by_cases well : (replies.headD {}).ending.succeeded = true
      · rw [performed_pass context well, List.getElem?_cons_succ] at made
        rw [ih made]
        cases replies <;> rfl
      · rw [performed_stop context well] at made
        cases made

theorem stopped?_append :
    stopped? (steps ++ later) replies =
      match stopped? steps replies with
      | none => stopped? later (replies.drop steps.length)
      | some failure => some failure := by
  induction steps generalizing replies with
  | nil => rfl
  | cons step rest ih =>
    rw [List.cons_append]
    by_cases well : (replies.headD {}).ending.succeeded = true
    · rw [stopped?_pass well, stopped?_pass well, ih, List.length_cons, List.drop_tail]
    · rw [stopped?_stop well, stopped?_stop well]

theorem performed_append (context : Json) :
    performed context (steps ++ later) replies =
      performed context steps replies ++
        match stopped? steps replies with
        | none => performed context later (replies.drop steps.length)
        | some _ => [] := by
  induction steps generalizing replies with
  | nil => rfl
  | cons step rest ih =>
    rw [List.cons_append]
    by_cases well : (replies.headD {}).ending.succeeded = true
    · rw [performed_pass context well, performed_pass context well, stopped?_pass well, ih,
        List.length_cons, List.drop_tail, List.cons_append]
    · rw [performed_stop context well, performed_stop context well, stopped?_stop well,
        List.append_nil]

theorem length_performed (context : Json) (smooth : stopped? steps replies = none) :
    (performed context steps replies).length = steps.length := by
  have lines := congrArg List.length (performed_of_none context smooth).1
  simpa using lines

end Steps

/-- A part of a run carries out some steps: it makes their invocations up to the first that fails,
fails with that one, and gives a value if none fails. -/
structure CarriesOut {α : Type} (context : Json) (steps : List Step) (value : α)
    (before : World τ) (result : Except Failure α × Logged (World τ)) : Prop where
  outcome : result.1 = match stopped? steps before.services.kubectl.replies with
    | none => .ok value
    | some failure => .error failure
  journal : Kubectl.Journaled (performed context steps before.services.kubectl.replies) before
    result.2.state

theorem CarriesOut.nothing {α : Type} (context : Json) (value : α) (run : Logged (World τ)) :
    CarriesOut context [] value run.state (.ok value, run) :=
  ⟨rfl, .refl run.state⟩

theorem CarriesOut.halt {α β : Type} {context : Json} {steps : List Step} {value : α}
    {before : World τ} {failure : Failure} {run : Logged (World τ)}
    (part : CarriesOut context steps value before (.error failure, run)) (later : List Step)
    (value' : β) : CarriesOut context (steps ++ later) value' before (.error failure, run) := by
  have outcome := part.outcome
  cases stop : stopped? steps before.services.kubectl.replies with
  | none => simp [stop] at outcome
  | some reason =>
    rw [stop] at outcome
    constructor
    · rw [stopped?_append, stop]
      exact congrArg Except.error (Except.error.inj outcome)
    · rw [performed_append, stop, List.append_nil]
      exact part.journal

theorem CarriesOut.smooth {α : Type} {context : Json} {steps : List Step} {value given : α}
    {before : World τ} {run : Logged (World τ)}
    (part : CarriesOut context steps value before (.ok given, run)) :
    stopped? steps before.services.kubectl.replies = none := by
  have outcome := part.outcome
  cases stop : stopped? steps before.services.kubectl.replies with
  | none => rfl
  | some failure => simp [stop] at outcome

theorem CarriesOut.value_eq {α : Type} {context : Json} {steps : List Step} {value given : α}
    {before : World τ} {run : Logged (World τ)}
    (part : CarriesOut context steps value before (.ok given, run)) : given = value := by
  have outcome := part.outcome
  rw [part.smooth] at outcome
  exact Except.ok.inj outcome

theorem CarriesOut.andThen {α β : Type} {context : Json} {steps later : List Step}
    {value given : α} {value' : β} {before : World τ} {run : Logged (World τ)}
    {result : Except Failure β × Logged (World τ)}
    (part : CarriesOut context steps value before (.ok given, run))
    (next : CarriesOut context later value' run.state result) :
    CarriesOut context (steps ++ later) value' before result := by
  have replies : run.state.services.kubectl.replies =
      before.services.kubectl.replies.drop steps.length := by
    rw [part.journal.replies, length_performed context part.smooth]
  constructor
  · rw [next.outcome, stopped?_append, part.smooth, replies]
  · have journal := part.journal.trans next.journal
    rw [replies] at journal
    rw [performed_append, part.smooth]
    exact journal

variable [Time τ]

theorem carriesOut_attempt {α : Type} (context : Json) (step : Step) (command : Kubectl.Command)
    (read : Kubectl.Completed → Except Failure α) (value : α) (run : Logged (World τ))
    (same : command.arguments = step.arguments)
    (reads : ∀ process, run.state.services.kubectl.nextEnding = .completed process →
      process.succeeded = true → read process = .ok value) :
    CarriesOut context [step] value run.state (attempt step (fun world =>
      match Kubectl.execute context command world with
      | (.ok process, world) => (read process, world)
      | (.error failure, world) => (.error failure, world)) run) := by
  have journal := Kubectl.journaled_afterCommand context command run.state
  rw [same] at journal
  simp only [attempt, Logged.perform, Kubectl.execute_eq, same]
  by_cases well : run.state.services.kubectl.nextEnding.succeeded = true
  · obtain ⟨process, ending, verdict⟩ := Kubectl.verdict_of_succeeded step.arguments well
    have succeeded : process.succeeded = true := by rwa [ending] at well
    rw [verdict]
    dsimp only
    rw [reads process ending succeeded]
    constructor
    · rw [stopped?_pass well]
      rfl
    · rw [performed_pass context well]
      exact journal
  · rw [Kubectl.verdict_of_failed step.arguments (Bool.eq_false_iff.mpr well)]
    constructor
    · rw [stopped?_stop well]
      rfl
    · rw [performed_stop context well]
      exact journal

theorem carriesOut_list (context : Json) (volumes : List PersistentVolume)
    (run : Logged (World τ))
    (reads : ∀ process, run.state.services.kubectl.nextEnding = .completed process →
      process.succeeded = true →
      Kubectl.readListing run.state.services.kubectl.levels process.stdout = .ok volumes) :
    CarriesOut context [.list] volumes run.state
      (attempt .list (Kubectl.cluster context).list run) :=
  carriesOut_attempt context .list .list
    (fun process => Kubectl.readListing run.state.services.kubectl.levels process.stdout)
    volumes run rfl reads

theorem carriesOut_update (context : Json) (volume : PersistentVolume) (run : Logged (World τ)) :
    CarriesOut context [.update volume.name] () run.state
      (attempt (.update volume.name)
        ((Kubectl.cluster context).update { volume with finalizers := .arr [] }) run) :=
  carriesOut_attempt context (.update volume.name) (.update { volume with finalizers := .arr [] })
    (fun _ => .ok ()) () run rfl (fun _ _ _ => rfl)

theorem carriesOut_delete (context : Json) (name : Json) (run : Logged (World τ)) :
    CarriesOut context [.delete name] () run.state
      (attempt (.delete name) ((Kubectl.cluster context).delete name) run) :=
  carriesOut_attempt context (.delete name) (.delete name) (fun _ => .ok ()) () run rfl
    (fun _ _ _ => rfl)

theorem carriesOut_release (context : Json) (volume : PersistentVolume) (run : Logged (World τ)) :
    CarriesOut context [.update volume.name, .delete volume.name] () run.state
      (release (Kubectl.cluster context) volume run) := by
  have unprotect := carriesOut_update context volume (run.note .debug
    s!"updating Kubernetes Persistent Volume (setting finalizers to null) {volume.name.display}")
  unfold release
  dsimp only
  generalize attempt (.update volume.name) _ _ = halfway at unprotect ⊢
  obtain ⟨outcome, run⟩ := halfway
  cases outcome with
  | error failure => exact unprotect.halt [.delete volume.name] ()
  | ok done => exact unprotect.andThen (carriesOut_delete context volume.name (run.note _ _))

theorem skip_ok {S : Type} {volume : PersistentVolume} (run : Logged S)
    (found : volume.volumeId = .ok none) :
    ∃ later, skip volume run = .ok later ∧ later.state = run.state := by
  cases named : volume.provisionedBy with
  | error fault =>
    have faulty : volume.provisioner = .error fault := by
      rw [PersistentVolume.provisioner, named]
      rfl
    rw [PersistentVolume.volumeId_eq, faulty] at found
    cases found
  | ok plugin =>
    cases known : volume.provisioner with
    | error fault =>
      rw [PersistentVolume.volumeId_eq, known] at found
      cases found
    | ok kind =>
      rw [skip, named, known]
      cases kind <;> exact ⟨_, rfl, rfl⟩

theorem readable_of_releaseAll {S : Type} {cluster : Cluster S}
    {volumes : List PersistentVolume} {tracked given : List Json}
    {run after : Logged S} (identified : ∀ volume ∈ volumes, volume.identified = true)
    (released : releaseAll cluster volumes tracked run = (.ok given, after)) :
    ∀ volume ∈ volumes, volume.Readable := by
  induction volumes, tracked, run using releaseAll_induction cluster with
  | nil => exact List.forall_mem_nil _
  | refused => cases released
  | skipped volume rest tracked run later found _ ih =>
    obtain ⟨first, others⟩ := List.forall_mem_cons.mp identified
    exact List.forall_mem_cons.mpr
      ⟨PersistentVolume.readable_of_volumeId first found, ih others released⟩
  | failed => cases released
  | released volume rest tracked run id between found _ ih =>
    obtain ⟨first, others⟩ := List.forall_mem_cons.mp identified
    exact List.forall_mem_cons.mpr
      ⟨PersistentVolume.readable_of_volumeId first found, ih others released⟩

/-- Releasing the volumes of a listing carries out the steps of those on EBS, and adds their ids to
those tracked. -/
theorem carriesOut_releaseAll (context : Json) (volumes : List PersistentVolume)
    (tracked : List Json) (run : Logged (World τ))
    (readable : ∀ volume ∈ volumes, volume.Readable) :
    CarriesOut context (releaseSteps volumes)
      (((volumes.filterMap (·.ebsId?)).map .str).foldl Json.addKey tracked) run.state
      (releaseAll (Kubectl.cluster context) volumes tracked run) := by
  induction volumes generalizing tracked run with
  | nil => exact .nothing context tracked run
  | cons volume rest ih =>
    obtain ⟨first, others⟩ := List.forall_mem_cons.mp readable
    rw [PersistentVolume.Readable] at first
    rw [releaseAll, first]
    cases found : volume.ebsId? with
    | none =>
      rw [found] at first
      obtain ⟨later, skipped, same⟩ := skip_ok run first
      have steps : releaseSteps (volume :: rest) = releaseSteps rest := by
        simp [releaseSteps, PersistentVolume.onEbs, found]
      have ids : (volume :: rest).filterMap (·.ebsId?) = rest.filterMap (·.ebsId?) := by
        simp [found]
      simp only [Option.map_none, skipped]
      rw [steps, ids, ← same]
      exact ih tracked later others
    | some id =>
      have steps : releaseSteps (volume :: rest) =
          [.update volume.name, .delete volume.name] ++ releaseSteps rest := by
        simp [releaseSteps, PersistentVolume.onEbs, found]
      have ids : (volume :: rest).filterMap (·.ebsId?) = id :: rest.filterMap (·.ebsId?) := by
        simp [found]
      have released := carriesOut_release context volume run
      rw [steps, ids, List.map_cons, List.foldl_cons]
      simp only [Option.map_some, Json.isKey, if_true]
      generalize release (Kubectl.cluster context) volume run = halfway at released ⊢
      obtain ⟨outcome, run⟩ := halfway
      cases outcome with
      | error failure => exact released.halt _ _
      | ok done => exact released.andThen (ih _ run others)

/-- A discovery whose listing can be read carries out the listing and then the steps of the volumes
on EBS. It gives their ids in the order of first occurrence. -/
theorem carriesOut_releaseListed (context : Json) (volumes : List PersistentVolume)
    (run : Logged (World τ))
    (reads : ∀ process, run.state.services.kubectl.nextEnding = .completed process →
      process.succeeded = true →
      Kubectl.readListing run.state.services.kubectl.levels process.stdout = .ok volumes)
    (readable : ∀ volume ∈ volumes, volume.Readable) :
    CarriesOut context (.list :: releaseSteps volumes)
      ((volumes.filterMap (·.ebsId?)).eraseDups.map .str) run.state
      (releaseListed (Kubectl.cluster context) run) := by
  have listed := carriesOut_list context volumes run reads
  rw [releaseListed, ← Json.distinctKeys_str, ← List.singleton_append]
  generalize attempt .list (Kubectl.cluster context).list run = halfway at listed ⊢
  obtain ⟨outcome, run⟩ := halfway
  cases outcome with
  | error failure => exact listed.halt _ _
  | ok given =>
    cases listed.value_eq
    have released := carriesOut_releaseAll context volumes [] run readable
    apply listed.andThen
    dsimp only
    generalize releaseAll (Kubectl.cluster context) volumes [] run = whole at released ⊢
    obtain ⟨outcome, run⟩ := whole
    cases outcome with
    | error failure => exact ⟨released.outcome, released.journal⟩
    | ok tracked => exact ⟨released.outcome, released.journal⟩

theorem releaseListed_of_unlisted {context : Json} {run : Logged (World τ)} {failure : Failure}
    (unlisted : (Kubectl.list context run.state).1 = .error failure) :
    releaseListed (Kubectl.cluster context) run =
      (.error (Step.list.failure failure),
        { run with state := Kubectl.afterCommand context .list run.state }) := by
  have taken : attempt .list (Kubectl.cluster context).list run =
      (.error (Step.list.failure failure),
        { run with state := Kubectl.afterCommand context .list run.state }) := by
    rw [attempt, Logged.perform]
    simp only [Kubectl.cluster, unlisted, Kubectl.list_world]
    rfl
  rw [releaseListed, taken]

end VolumeReclaim.Discovery
