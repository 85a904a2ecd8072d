import VolumeReclaim.Proofs.Relisting

/-!
A discovery that stopped can be resumed. However the first one ended, a second one that lists what
is left and is not stopped deletes exactly the volumes on EBS that the first did not, and gives back
their ids. In both every deletion comes right after the update that clears the finalizers.
-/
set_option autoImplicit false

namespace VolumeReclaim.Discovery

/-- Every deletion among some invocations comes right after an update of the same volume that ended
well. -/
def Unprotects (context : Option String) (made : List Kubectl.Invocation) : Prop :=
  ∀ earlier deletion later name, made = earlier ++ deletion :: later →
    deletion.commandLine = (Step.delete name).commandLine context →
    ∃ before update, earlier = before ++ [update] ∧
      update.commandLine = (Step.update name).commandLine context ∧
      update.ending.succeeded = true

/-- Some invocations are listings, updates of listed volumes on EBS, and deletions of such volumes;
there are no others among them. -/
def Touches (context : Option String) (volumes : List PersistentVolume)
    (made : List Kubectl.Invocation) : Prop :=
  ∀ invocation ∈ made, invocation.commandLine = Step.list.commandLine context ∨
    ∃ name ∈ namesOnEbs volumes,
      invocation.commandLine = (Step.update name).commandLine context ∨
        invocation.commandLine = (Step.delete name).commandLine context

theorem update_before_delete {volumes : List PersistentVolume} {before after : List Step}
    {name : Json} (split : plan volumes = before ++ .delete name :: after) :
    ∃ earlier, before = earlier ++ [.update name] := by
  have pairs : ∀ {targets : List PersistentVolume} {before : List Step},
      (targets.flatMap fun volume => [.update volume.name, .delete volume.name]) =
        before ++ .delete name :: after → ∃ earlier, before = earlier ++ [.update name] := by
    intro targets
    induction targets with
    | nil => simp
    | cons volume rest ih =>
      intro before split
      rw [List.flatMap_cons] at split
      match before with
      | [] => simp at split
      | [update] =>
        simp only [List.cons_append, List.nil_append, List.cons.injEq, Step.delete.injEq] at split
        obtain ⟨rfl, rfl, -⟩ := split
        exact ⟨[], rfl⟩
      | update :: deletion :: before =>
        simp only [List.cons_append, List.nil_append, List.cons.injEq] at split
        obtain ⟨rfl, rfl, split⟩ := split
        obtain ⟨earlier, rfl⟩ := ih split
        exact ⟨_ :: _ :: earlier, rfl⟩
  cases before with
  | nil => cases split
  | cons first before =>
    obtain ⟨earlier, rfl⟩ := pairs (List.cons.inj split).2
    exact ⟨first :: earlier, rfl⟩

section Followed

variable {context : Option String} {volumes : List PersistentVolume}
  {made : List Kubectl.Invocation}

theorem Followed.unprotects (followed : Followed context (plan volumes) made) :
    Unprotects context made := by
  intro earlier deletion later name whole line
  obtain ⟨before, step, after, split, lines, ends, same⟩ := (whole ▸ followed).split
  rw [Step.commandLine_injective (same.symm.trans line)] at split
  obtain ⟨before, rfl⟩ := update_before_delete split
  rw [List.map_append, List.map_singleton] at lines
  obtain ⟨front, last, rfl, -, updates⟩ := List.map_eq_append_iff.mp lines
  obtain ⟨update, rfl, updates⟩ := List.map_eq_singleton_iff.mp updates
  exact ⟨front, update, rfl, List.singleton_inj.mp updates, ends update (by simp)⟩

theorem Followed.touches (followed : Followed context (plan volumes) made) :
    Touches context volumes made := by
  intro invocation member
  obtain ⟨earlier, later, rfl⟩ := List.append_of_mem member
  obtain ⟨before, step, after, split, -, -, line⟩ := followed.split
  have planned : step ∈ plan volumes := by
    rw [split]
    simp
  cases step with
  | list => exact .inl line
  | update name =>
    have onEbs : name ∈ namesOnEbs volumes := mem_namesOnEbs.mpr (mem_plan_mutation (.inl planned))
    exact .inr ⟨name, onEbs, .inl line⟩
  | delete name =>
    have onEbs : name ∈ namesOnEbs volumes := mem_namesOnEbs.mpr (mem_plan_mutation (.inr planned))
    exact .inr ⟨name, onEbs, .inr line⟩

theorem Touches.mono {wider : List PersistentVolume} (touches : Touches context volumes made)
    (within : namesOnEbs volumes ⊆ namesOnEbs wider) : Touches context wider made :=
  fun invocation member => (touches invocation member).imp_right
    fun ⟨name, onEbs, line⟩ => ⟨name, within onEbs, line⟩

end Followed

variable {τ : Type}

theorem deleted_performed (context : Option String) {steps : List Step}
    {replies : List (Kubectl.Reply τ)} (smooth : stopped? steps replies = none) :
    Kubectl.deleted (performed (.ofText? context) steps replies) =
      steps.filterMap Step.deletes? := by
  induction steps generalizing replies with
  | nil => rfl
  | cons step later ih =>
    by_cases well : (replies.headD {}).ending.succeeded = true
    · rw [stopped?_pass well] at smooth
      rw [performed_pass _ well, Kubectl.deleted, List.filterMap_cons, List.filterMap_cons,
        deleted?_of_commandLine (commandLine_ofText? context step), if_pos well]
      cases step.deletes? with
      | none => exact ih smooth
      | some name => exact congrArg (name :: ·) (ih smooth)
    · rw [stopped?_stop well] at smooth
      cases smooth

theorem stopped?_of_succeeded (steps : List Step) {replies : List (Kubectl.Reply τ)}
    (well : ∀ reply ∈ replies, reply.ending.succeeded = true) : stopped? steps replies = none := by
  induction steps generalizing replies with
  | nil => rfl
  | cons step later ih =>
    have first : (replies.headD {}).ending.succeeded = true := by
      cases replies with
      | nil => rfl
      | cons reply rest => exact well reply List.mem_cons_self
    rw [stopped?_pass first]
    exact ih fun reply member => well reply (List.mem_of_mem_tail member)

variable [Time τ] {context : Option String} {volumes : List PersistentVolume}
  {run : Logged (World τ)}

/-- A discovery whose listing, if it gives volumes, gives these makes the invocations of the first
steps of its plan. -/
theorem followed_releaseListed
    (listed : ∀ given, (Kubectl.list (.ofText? context) run.state).1 = .ok given → given = volumes)
    (typed : ∀ volume ∈ volumes, volume.wellTyped = true) :
    ∃ made, Kubectl.Journaled made run.state
        (releaseListed (Kubectl.cluster (.ofText? context)) run).2.state ∧
      Followed context (plan volumes) made := by
  cases result : (Kubectl.list (.ofText? context) run.state).1 with
  | error failure =>
    rw [releaseListed_of_unlisted result]
    exact ⟨_, Kubectl.journaled_afterCommand (.ofText? context) .list run.state,
      .single _ (commandLine_ofText? context .list)⟩
  | ok given =>
    cases listed given result
    have readable := PersistentVolume.forall_readable typed
    have whole := carriesOut_releaseListed (.ofText? context) volumes run
      (Kubectl.readListing_of_list result) readable
    exact ⟨_, whole.journal, followed_performed context (plan volumes) _⟩

theorem releaseListed_of_succeeded
    (listed : (Kubectl.list (.ofText? context) run.state).1 = .ok volumes)
    (typed : ∀ volume ∈ volumes, volume.wellTyped = true)
    (well : ∀ reply ∈ run.state.services.kubectl.replies, reply.ending.succeeded = true) :
    ∃ made, Kubectl.Journaled made run.state
        (releaseListed (Kubectl.cluster (.ofText? context)) run).2.state ∧
      Followed context (plan volumes) made ∧ Kubectl.deleted made = namesOnEbs volumes ∧
      (releaseListed (Kubectl.cluster (.ofText? context)) run).1 =
        .ok ((volumes.filterMap (·.ebsId?)).eraseDups.map .str) := by
  have readable := PersistentVolume.forall_readable typed
  have whole : CarriesOut (.ofText? context) (plan volumes)
      ((volumes.filterMap (·.ebsId?)).eraseDups.map .str) run.state
      (releaseListed (Kubectl.cluster (.ofText? context)) run) :=
    carriesOut_releaseListed (.ofText? context) volumes run (Kubectl.readListing_of_list listed)
      readable
  have smooth := stopped?_of_succeeded (plan volumes) well
  have outcome := whole.outcome
  have all := deleted_performed context smooth
  rw [smooth] at outcome
  rw [deletes?_plan] at all
  exact ⟨_, whole.journal, followed_performed context (plan volumes) _, all, outcome⟩

/-- What the invocations of two discoveries come to together, of which the second started from what
the first had left. -/
structure Resumed (context : Option String) (volumes left : List PersistentVolume)
    (made made' : List Kubectl.Invocation) (outcome : Except Failure (List Json)) : Prop where
  /-- No listed volume on EBS is deleted more than once. -/
  atMostOnce : (Kubectl.deleted made ++ Kubectl.deleted made').Sublist (namesOnEbs volumes)
  /-- Every listed volume on EBS is deleted. -/
  complete : ∀ name ∈ namesOnEbs volumes,
    name ∈ Kubectl.deleted made ++ Kubectl.deleted made'
  /-- Where no name stands for two volumes, every volume on EBS is deleted once, in order. -/
  once : (namesOnEbs volumes).Nodup →
    Kubectl.deleted made ++ Kubectl.deleted made' = namesOnEbs volumes
  unprotected : Unprotects context made ∧ Unprotects context made'
  touched : Touches context volumes made ∧ Touches context volumes made'
  /-- The ids behind the volumes that were left, each once, in the order of first occurrence. -/
  returned : outcome = .ok ((left.filterMap (·.ebsId?)).eraseDups.map .str)

/-- A discovery of what an earlier one left goes on where that one stopped, whatever stopped it. -/
theorem releaseListed_resumes (context : Option String) (volumes left : List PersistentVolume)
    (run run' : Logged (World τ)) (made : List Kubectl.Invocation)
    (typed : ∀ volume ∈ volumes, volume.wellTyped = true)
    (listed : ∀ given, (Kubectl.list (.ofText? context) run.state).1 = .ok given → given = volumes)
    (journal : (releaseListed (Kubectl.cluster (.ofText? context))
      run).2.state.services.kubectl.invocations.toList =
        run.state.services.kubectl.invocations.toList ++ made)
    (relisted : Relisted (Kubectl.deleted made) volumes left)
    (listed' : (Kubectl.list (.ofText? context) run'.state).1 = .ok left)
    (well : ∀ reply ∈ run'.state.services.kubectl.replies, reply.ending.succeeded = true) :
    ∃ made', (releaseListed (Kubectl.cluster (.ofText? context))
        run').2.state.services.kubectl.invocations.toList =
          run'.state.services.kubectl.invocations.toList ++ made' ∧
      Resumed context volumes left made made'
        (releaseListed (Kubectl.cluster (.ofText? context)) run').1 := by
  obtain ⟨first, own, followed⟩ := followed_releaseListed listed typed
  have same : made = first := List.append_cancel_left (journal.symm.trans own.invocations)
  subst same
  obtain ⟨made', journal', followed', deleted', returned⟩ :=
    releaseListed_of_succeeded listed' (relisted.forall_mem (fun _ _ => id) typed) well
  obtain ⟨rest, split⟩ := followed.deleted_prefix
  rw [deletes?_plan] at split
  refine ⟨made', journal'.invocations, ?_, ?_, ?_, ⟨followed.unprotects, followed'.unprotects⟩,
    ⟨followed.touches, followed'.touches.mono relisted.subset⟩, returned⟩
  · rw [deleted', ← split, List.append_sublist_append_left]
    exact relisted.sublist (List.Subset.refl _) split
  · intro name onEbs
    rw [deleted', List.mem_append]
    exact relisted.gone_or_listed name onEbs
  · intro distinct
    rw [deleted', relisted.namesOnEbs_eq split distinct, split]

/-- The sample listing with another volume on the same EBS volume in front, and a finalizer. -/
def twinListing : String :=
  "\x7b\"items\":[\x7b\"metadata\":\x7b\"name\":\"b\",\"annotations\":" ++
    "\x7b\"pv.kubernetes.io/provisioned-by\":\"ebs.csi.aws.com\"\x7d\x7d," ++
    "\"spec\":\x7b\"csi\":\x7b\"volumeHandle\":\"v\"\x7d\x7d\x7d,\x7b\x7d," ++
    "\x7b\"metadata\":\x7b\"name\":\"a\",\"annotations\":" ++
    "\x7b\"pv.kubernetes.io/provisioned-by\":\"ebs.csi.aws.com\"\x7d,\"finalizers\":[\"f\"]\x7d," ++
    "\"spec\":\x7b\"csi\":\x7b\"volumeHandle\":\"v\"\x7d\x7d\x7d]\x7d"

def twinVolumes : List PersistentVolume :=
  [{ name := .str "b", annotations := .obj [( provisionedByAnnotation, .str "ebs.csi.aws.com")],
     csiVolumeHandle := .str "v" },
   { name := .str "" },
   { name := .str "a", annotations := .obj [( provisionedByAnnotation, .str "ebs.csi.aws.com")],
     finalizers := .arr [.str "f"], csiVolumeHandle := .str "v" }]

set_option maxRecDepth 20000 in
theorem readListing_twins :
    Kubectl.readListing Kubectl.usualLevels (.str twinListing) = .ok twinVolumes := by
  rfl

def haltedDiscovery : Logged (World Rat) :=
  ⟨⟨.create 0 (some 60) none,
    { kubectl := { replies :=
        [⟨none, .completed { stdout := .str twinListing }⟩, {}, {}, {},
         ⟨some 2, .completed
            { status := .int 1, stderr := .str "Error from server (Forbidden): no" }⟩] } }⟩, #[]⟩

/-- A discovery of what that one left: the second volume, without its finalizer. -/
def resumedDiscovery : Logged (World Rat) :=
  ⟨⟨.create 9 none none,
    { kubectl := { replies := [⟨none, .completed { stdout := .str sampleListing }⟩] } }⟩, #[]⟩

theorem releaseListed_resumes_halted :
    (∃ message, (releaseListed (Kubectl.cluster (.ofText? none)) haltedDiscovery).1 =
      .error (.cluster message true)) ∧
    ∃ made made', Kubectl.deleted made = [.str "b"] ∧
      Resumed none twinVolumes sampleVolumes made made'
        (releaseListed (Kubectl.cluster (.ofText? none)) resumedDiscovery).1 := by
  have listed : (Kubectl.list (.ofText? none) haltedDiscovery.state).1 = .ok twinVolumes :=
    Kubectl.list_of_printed rfl readListing_twins
  have listed' : (Kubectl.list (.ofText? none) resumedDiscovery.state).1 = .ok sampleVolumes :=
    Kubectl.list_of_printed rfl readListing_sample
  have typed : ∀ volume ∈ twinVolumes, volume.wellTyped = true := by decide +kernel
  obtain ⟨listing, line, journal, outcome⟩ := releaseListed_of_list listed
    (PersistentVolume.forall_readable typed)
  have gone : Kubectl.deleted (listing :: performed (.ofText? none) (releaseSteps twinVolumes)
      haltedDiscovery.state.services.kubectl.replies.tail) = [.str "b"] := by
    rw [deleted_listing line]
    rfl
  have relisted : Relisted [.str "b"] twinVolumes sampleVolumes :=
    .absent (by simp) (.kept (.arr []) (by simp) (.kept (.arr []) (by simp) .nil))
  obtain ⟨made', -, resumed⟩ := releaseListed_resumes none twinVolumes sampleVolumes
    haltedDiscovery resumedDiscovery _ typed
    (fun given same => Except.ok.inj (same.symm.trans listed)) journal.invocations
    (gone ▸ relisted) listed' (by decide +kernel)
  exact ⟨⟨_, outcome⟩, _, made', gone, resumed⟩

end VolumeReclaim.Discovery
