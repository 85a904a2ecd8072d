import VolumeReclaim.Proofs.NothingLost
import VolumeReclaim.Proofs.Relisting

/-!
A second run after one that named volumes as not deleted. By then the persistent volumes are gone,
and a run knows of EBS volumes only through them: the second run ends well at once, and asks EC2
nothing about the volumes that the first one named.
-/
set_option autoImplicit false

namespace VolumeReclaim

theorem Relisted.namesOnEbs_eq_nil {gone : List Json} {volumes left : List PersistentVolume}
    (relisted : Relisted gone volumes left) (all : ∀ name ∈ namesOnEbs volumes, name ∈ gone) :
    namesOnEbs left = [] := by
  rw [List.eq_nil_iff_forall_not_mem]
  intro name listed
  exact relisted.not_gone name listed (all name (relisted.subset listed))

namespace Discovery

theorem Released.deleted {context : Option String} {name : Json} {made : List Kubectl.Invocation}
    (released : Released context name made) : name ∈ Kubectl.deleted made := by
  obtain ⟨earlier, update, deletion, later, rfl, -, -, line, well⟩ := released
  have own : deletion.deleted? = some name := by
    rw [deleted?_of_commandLine line, if_pos well]
    rfl
  exact List.mem_filterMap.mpr ⟨deletion, by simp, own⟩

theorem releaseSteps_eq_nil {volumes : List PersistentVolume} (none : namesOnEbs volumes = []) :
    releaseSteps volumes = [] := by
  rw [releaseSteps, List.map_eq_nil_iff.mp none]
  rfl

end Discovery

theorem ebsIds_eq_nil {volumes : List PersistentVolume} (none : namesOnEbs volumes = []) :
    volumes.filterMap (·.ebsId?) = [] := by
  rw [List.filterMap_eq_nil_iff]
  intro volume listed
  have other := List.filter_eq_nil_iff.mp (List.map_eq_nil_iff.mp none) volume listed
  simpa [PersistentVolume.onEbs] using other

variable {τ : Type} [Time τ]

theorem Poll.untilGone_nil {σ : Type} (check : Checker τ σ) (interval : τ) (limit : Nat)
    (run : Logged (Timed τ σ)) : untilGone check interval limit [] run = (.ok (), run) := by
  change sweeps check interval limit [] run = _
  exact sweeps_nil

theorem World.reclaim_of_none (context : Option String) (interval : τ) (limit : Nat)
    {run : Logged (World τ)} {volumes : List PersistentVolume}
    (bounded : run.state.context.deadline ≠ none)
    (listed : (Kubectl.list (.ofText? context) run.state).1 = .ok volumes)
    (readable : ∀ volume ∈ volumes, volume.Readable) (none : namesOnEbs volumes = []) :
    (World.reclaim (.ofText? context) interval limit run).1 = .ok () ∧
      ∃ listing : Kubectl.Invocation,
        listing.commandLine = Discovery.Step.list.commandLine context ∧
        Kubectl.Journaled [listing] run.state
          (World.reclaim (.ofText? context) interval limit run).2.state := by
  obtain ⟨listing, line, journal, discovered⟩ := Discovery.releaseListed_of_list listed readable
  rw [Discovery.releaseSteps_eq_nil none] at journal discovered
  rw [ebsIds_eq_nil none, List.eraseDups_nil, List.map_nil] at discovered
  obtain ⟨outcome, state⟩ := World.reclaim_of_released interval limit bounded discovered
  rw [outcome, state, Poll.untilGone_nil]
  exact ⟨rfl, listing, line, journal⟩

/-- After a run that named volumes as not deleted, a second run of what is left ends well and never
asks about these volumes: its only invocation is the listing, and its session with EC2 stays as it
is. -/
theorem reclaim_again_asks_nothing (context : Option String) (interval interval' : τ)
    (limit limit' : Nat) (run run' : Logged (World τ)) (volumes left : List PersistentVolume)
    (made : List Kubectl.Invocation) (remaining : List Json) (cancelled : Bool)
    (listed : (Kubectl.list (.ofText? context) run.state).1 = .ok volumes)
    (identified : ∀ volume ∈ volumes, volume.identified = true)
    (foreign : run.state.services.ec2.script.All Ec2.Reply.foreign)
    (unfinished : (World.reclaim (.ofText? context) interval limit run).1 =
      .error (.notDeleted remaining cancelled))
    (journal : (World.reclaim (.ofText? context) interval limit
      run).2.state.services.kubectl.invocations.toList =
        run.state.services.kubectl.invocations.toList ++ made)
    (relisted : Relisted (Kubectl.deleted made) volumes left)
    (bounded : run'.state.context.deadline ≠ none)
    (listed' : (Kubectl.list (.ofText? context) run'.state).1 = .ok left) :
    remaining ≠ [] ∧
      (World.reclaim (.ofText? context) interval' limit' run').1 = .ok () ∧
      ∃ listing : Kubectl.Invocation,
        listing.commandLine = Discovery.Step.list.commandLine context ∧
        Kubectl.Journaled [listing] run'.state
          (World.reclaim (.ofText? context) interval' limit' run').2.state := by
  have same : ∀ given, (Kubectl.list (.ofText? context) run.state).1 = .ok given →
      ∀ volume ∈ given, volume.identified = true := by
    intro given own
    cases own.symm.trans listed
    exact identified
  obtain ⟨given, unsettled, flag, own, ended, lost⟩ | ⟨failure, plain, ended⟩ :=
    nothingLost_or_unjudged context interval limit same foreign
  · cases own.symm.trans listed
    obtain ⟨first, invocations, released⟩ := lost.releases
    have whole : made = first := List.append_cancel_left (journal.symm.trans invocations)
    have gone : ∀ name ∈ namesOnEbs volumes, name ∈ Kubectl.deleted made := by
      intro name member
      obtain ⟨volume, here, rfl, onEbs⟩ := mem_namesOnEbs.mp member
      exact whole ▸ (released volume here onEbs).deleted
    have verdict := ended.symm.trans unfinished
    rw [Poll.conclusion] at verdict
    split at verdict
    · cases verdict
    · next some =>
      cases verdict
      have readable := relisted.forall_mem (fun _ _ => id) lost.readable
      exact ⟨by simpa using some, World.reclaim_of_none context interval' limit' bounded listed'
        readable (relisted.namesOnEbs_eq_nil gone)⟩
  · cases ended.symm.trans unfinished
    cases plain

/-- What is left of the sample listing without its volume on EBS. -/
def unnamedListing : String := "\x7b\"items\":[\x7b\x7d]\x7d"

theorem readListing_unnamed :
    Kubectl.readListing Kubectl.usualLevels (.str unnamedListing) =
      .ok [{ name := .str "" }] := by
  rfl

/-- A run with one reply of kubectl and an EBS volume that stays in use. -/
def lingeringRun (now : Rat) (listing : String) : Logged (World Rat) :=
  { state := ⟨.create now (some (now + 3)) none,
      { kubectl := { replies := [{ ending := .completed { stdout := .str listing } }] },
        ec2 := { script := [("v",
          [⟨none, .volumes (.arr [.obj [("State", .str "in-use")]])⟩])] } }⟩ }

theorem reclaim_again_asks_nothing_lingering :
    (∃ remaining cancelled,
      (World.reclaim (.ofText? none) 2 30 (lingeringRun 0 Discovery.sampleListing)).1 =
        .error (.notDeleted remaining cancelled) ∧ remaining ≠ []) ∧
    (World.reclaim (.ofText? none) 2 30 (lingeringRun 9 unnamedListing)).1 = .ok () := by
  have listed : (Kubectl.list (.ofText? none)
      (lingeringRun 0 Discovery.sampleListing).state).1 = .ok Discovery.sampleVolumes :=
    Kubectl.list_of_printed rfl Discovery.readListing_sample
  have foreign : (lingeringRun 0 Discovery.sampleListing).state.services.ec2.script.All
      Ec2.Reply.foreign := by
    simp [lingeringRun, Script.All, Ec2.Reply.foreign, Ec2.Answer.volumes]
  have quiet : (lingeringRun 0 Discovery.sampleListing).state.services.ec2.script.All
      Ec2.Reply.blameless := by
    simp [lingeringRun, Script.All, Ec2.Reply.blameless, Ec2.Answer.volumes]
  have typed : ∀ volume ∈ Discovery.sampleVolumes, volume.wellTyped = true := by decide +kernel
  have way : way? (World.reclaim (.ofText? none) 2 30
      (lingeringRun 0 Discovery.sampleListing)).1 = some .notAllGone := by decide +kernel
  obtain ⟨remaining, cancelled, unfinished⟩ := notDeleted_of_way way
  have bounded : (lingeringRun 0 Discovery.sampleListing).state.context.deadline ≠ none :=
    Option.some_ne_none _
  obtain ⟨⟨listing, line, journal⟩, -⟩ := World.reclaim_mutations none 2 30 bounded listed
    (PersistentVolume.forall_readable typed) quiet
  have gone : Kubectl.deleted (listing :: Discovery.performed (.ofText? none)
      (Discovery.releaseSteps Discovery.sampleVolumes)
      (lingeringRun 0 Discovery.sampleListing).state.services.kubectl.replies.tail) =
        [.str "a"] := by
    rw [Discovery.deleted_listing line]
    rfl
  have relisted : Relisted [.str "a"] Discovery.sampleVolumes [{ name := .str "" }] :=
    .kept (.arr []) (by simp) (.absent (by simp) .nil)
  obtain ⟨some, returns, -⟩ := reclaim_again_asks_nothing none 2 2 30 30
    (lingeringRun 0 Discovery.sampleListing) (lingeringRun 9 unnamedListing)
    Discovery.sampleVolumes [{ name := .str "" }] _ remaining cancelled listed
    (by decide +kernel) foreign unfinished journal (gone ▸ relisted)
    (Option.some_ne_none _) (Kubectl.list_of_printed rfl readListing_unnamed)
  exact ⟨⟨remaining, cancelled, unfinished, some⟩, returns⟩

end VolumeReclaim
