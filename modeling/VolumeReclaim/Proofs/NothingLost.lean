import VolumeReclaim.Proofs.MutationTrace
import VolumeReclaim.Proofs.Phases
import VolumeReclaim.Proofs.QueryEvidence

/-!
No volume is lost in a whole run. If the run ends well or names volumes that are not deleted, every
listed volume on EBS was released, and every EBS volume behind them is either named or was reported
gone by a request of the run. Ids are told apart as they are read, with lone surrogates replaced.
-/
set_option autoImplicit false

namespace VolumeReclaim

namespace Discovery

/-- Some invocations include an update of a volume and right after it its deletion, both of which
ended well. -/
def Released (context : Option String) (name : Json) (made : List Kubectl.Invocation) : Prop :=
  ∃ earlier update deletion later,
    made = earlier ++ update :: deletion :: later ∧
    update.commandLine = (Step.update name).commandLine context ∧
    update.ending.succeeded = true ∧
    deletion.commandLine = (Step.delete name).commandLine context ∧
    deletion.ending.succeeded = true

theorem released_of_finished {context : Option String} {volumes : List PersistentVolume}
    {made : List Kubectl.Invocation} {outcome : Except Failure (List Json)}
    (finished : Finished context volumes made outcome) {volume : PersistentVolume}
    (listed : volume ∈ volumes) (onEbs : volume.onEbs = true) :
    Released context volume.name made := by
  obtain ⟨lines, ends, -⟩ := finished
  obtain ⟨before, after, split⟩ := List.append_of_mem (List.mem_filter.mpr ⟨listed, onEbs⟩)
  rw [plan, releaseSteps, split, List.flatMap_append, List.flatMap_cons, ← List.cons_append,
    List.map_append] at lines
  obtain ⟨earlier, rest, whole, -, tail⟩ := List.map_eq_append_iff.mp lines
  obtain ⟨update, rest, rfl, updates, tail⟩ := List.map_eq_cons_iff.mp tail
  obtain ⟨deletion, later, rfl, deletes, -⟩ := List.map_eq_cons_iff.mp tail
  exact ⟨earlier, update, deletion, later, whole, updates, ends update (by simp [whole]),
    deletes, ends deletion (by simp [whole])⟩

theorem finished_of_releaseListed {τ : Type} [Time τ] {context : Option String}
    {run after : Logged (World τ)} {tracked : List Json}
    (identified : ∀ volumes, (Kubectl.list (.ofText? context) run.state).1 = .ok volumes →
      ∀ volume ∈ volumes, volume.identified = true)
    (released : releaseListed (Kubectl.cluster (.ofText? context)) run = (.ok tracked, after)) :
    ∃ volumes made,
      (Kubectl.list (.ofText? context) run.state).1 = .ok volumes ∧
      (∀ volume ∈ volumes, volume.Readable) ∧
      Finished context volumes made (.ok tracked) ∧
      Kubectl.Journaled made run.state after.state := by
  obtain ⟨volumes, between, final, listing, all, -⟩ := releaseListed_eq_ok released
  have listed := attempt_eq_ok listing
  have readable := readable_of_releaseAll (identified volumes listed) all
  have whole := carriesOut_releaseListed (.ofText? context) volumes run
    (Kubectl.readListing_of_list listed) readable
  rw [released] at whole
  have taken := performed_of_none (.ofText? context) whole.smooth
  rw [commandLine_steps] at taken
  exact ⟨volumes, _, listed, readable, ⟨taken.1, taken.2, congrArg Except.ok whole.value_eq⟩,
    whole.journal⟩

end Discovery

/-- All listed volumes could be read, those on EBS were released, and the EBS volumes behind them
split into those left and those reported gone. -/
structure NothingLost {τ : Type} (context : Option String) (volumes : List PersistentVolume)
    (left : List String) (before after : World τ) : Prop where
  readable : ∀ volume ∈ volumes, volume.Readable
  releases : ∃ made,
    after.services.kubectl.invocations.toList =
      before.services.kubectl.invocations.toList ++ made ∧
    ∀ volume ∈ volumes, volume.onEbs = true → Discovery.Released context volume.name made
  requests : ∃ made,
    after.services.ec2.requests.toList = before.services.ec2.requests.toList ++ made ∧
    Ec2.Splits made (volumes.filterMap (·.ebsId?)) left

variable {τ : Type} [Time τ]

theorem nothingLost_or_unjudged (context : Option String) (interval : τ) (limit : Nat)
    {run : Logged (World τ)}
    (identified : ∀ volumes, (Kubectl.list (.ofText? context) run.state).1 = .ok volumes →
      ∀ volume ∈ volumes, volume.identified = true)
    (foreign : run.state.services.ec2.script.All Ec2.Reply.foreign) :
    (∃ volumes left cancelled,
      (Kubectl.list (.ofText? context) run.state).1 = .ok volumes ∧
      (World.reclaim (.ofText? context) interval limit run).1 = Poll.conclusion left cancelled ∧
      NothingLost context volumes left run.state
        (World.reclaim (.ofText? context) interval limit run).2.state) ∨
    ∃ failure, failure.isVerdict = false ∧
      (World.reclaim (.ofText? context) interval limit run).1 = .error failure := by
  by_cases missing : run.state.context.deadline = none
  · rw [World.reclaim_of_missing interval limit missing]
    exact .inr ⟨_, rfl, rfl⟩
  have fair := Discovery.unjudged_releaseListed
    (Kubectl.impartial_cluster (.ofText? context)) run
  cases discovered : (Discovery.releaseListed (Kubectl.cluster (.ofText? context)) run).1 with
  | error failure =>
    rw [World.reclaim_of_unreleased interval limit missing discovered]
    exact .inr ⟨failure, fair failure discovered, rfl⟩
  | ok tracked =>
    obtain ⟨outcome, state⟩ := World.reclaim_of_released interval limit missing discovered
    obtain ⟨volumes, made, listed, readable, finished, journal⟩ :=
      Discovery.finished_of_releaseListed identified (Prod.ext discovered rfl)
    have ids := Except.ok.inj finished.2.2
    rw [← journal.ec2] at foreign
    have steady : Poll.Steady (Ec2.stillExists limit) fun _ : World τ => True :=
      ⟨fun _ _ _ => trivial, fun _ _ _ => trivial⟩
    have waited := Ec2.concluded_untilGone steady interval limit
      (volumes.filterMap (·.ebsId?)).eraseDups trivial foreign
    rw [← ids] at waited
    rw [outcome, state]
    generalize Poll.untilGone _ interval limit tracked _ = wait at waited ⊢
    obtain ⟨outcome, world, lines⟩ := wait
    obtain ⟨-, kubectl, conclusion⟩ := waited
    dsimp only at kubectl conclusion ⊢
    cases conclusion with
    | @split left asked _ stopped requests splits =>
      rw [journal.ec2] at requests
      have lost : NothingLost context volumes left run.state world :=
        ⟨readable, ⟨made, by rw [kubectl, journal.invocations],
            fun volume member => Discovery.released_of_finished finished member⟩,
          asked, requests,
          ⟨fun id => by rw [← splits.whole, List.mem_eraseDups], splits.apart⟩⟩
      exact .inl ⟨volumes, left, world.context.cancelled, listed, rfl, lost⟩
    | spent => exact .inr ⟨.turnLimit, rfl, rfl⟩
    | stray holds answer escaping plain => exact .inr ⟨_, plain, rfl⟩

/-- A run that ends well released every listed volume on EBS, and every EBS volume behind them was
reported gone. A run that names volumes as not deleted released them all as well, and names exactly
those that were not reported gone. -/
theorem reclaim_nothing_lost (context : Option String) (interval : τ) (limit : Nat)
    (run : Logged (World τ))
    (identified : ∀ volumes, (Kubectl.list (.ofText? context) run.state).1 = .ok volumes →
      ∀ volume ∈ volumes, volume.identified = true)
    (foreign : run.state.services.ec2.script.All Ec2.Reply.foreign) :
    ((World.reclaim (.ofText? context) interval limit run).1 = .ok () →
      ∃ volumes, (Kubectl.list (.ofText? context) run.state).1 = .ok volumes ∧
        NothingLost context volumes [] run.state
          (World.reclaim (.ofText? context) interval limit run).2.state) ∧
    ∀ remaining cancelled,
      (World.reclaim (.ofText? context) interval limit run).1 =
        .error (.notDeleted remaining cancelled) →
      ∃ volumes left, (Kubectl.list (.ofText? context) run.state).1 = .ok volumes ∧
        remaining = left.map .str ∧
        NothingLost context volumes left run.state
          (World.reclaim (.ofText? context) interval limit run).2.state := by
  obtain ⟨volumes, left, cancelled, listed, ended, lost⟩ | ⟨failure, plain, ended⟩ :=
    nothingLost_or_unjudged context interval limit identified foreign
  · rw [ended, Poll.conclusion]
    by_cases none : left = []
    · subst none
      constructor
      · intro _
        exact ⟨volumes, listed, lost⟩
      · intro remaining cancelled given
        cases given
    · rw [if_neg none]
      constructor
      · intro given
        cases given
      · intro remaining cancelled given
        refine ⟨volumes, left, listed, ?_, lost⟩
        cases given
        rfl
  · rw [ended]
    constructor
    · intro given
      cases given
    · intro remaining cancelled given
      cases given
      cases plain

/-- A run in which the volume behind the sample listing is in use at first and then gone. -/
def vanishing : Logged (World Rat) :=
  { state := ⟨.create 0 (some 60) none,
      { kubectl := { replies :=
          [{ ending := .completed { stdout := .str Discovery.sampleListing } }] },
        ec2 := { script :=
          [("v", [⟨some 1, .volumes (.arr [.obj [("State", .str "in-use")]])⟩,
            ⟨some 0, .volumes (.arr [])⟩])] } }⟩ }

theorem reclaim_nothing_lost_vanishing :
    (Kubectl.list (.ofText? none) vanishing.state).1 = .ok Discovery.sampleVolumes ∧
      (World.reclaim (.ofText? none) 2 30 vanishing).1 = .ok () ∧
      ∃ volumes, NothingLost none volumes [] vanishing.state
        (World.reclaim (.ofText? none) 2 30 vanishing).2.state := by
  have listed : (Kubectl.list (.ofText? none) vanishing.state).1 =
      .ok Discovery.sampleVolumes := by
    have ending : vanishing.state.services.kubectl.nextEnding =
        .completed { stdout := .str Discovery.sampleListing } := rfl
    have well : vanishing.state.services.kubectl.nextEnding.succeeded = true := rfl
    obtain ⟨process, same, verdict⟩ :=
      Kubectl.verdict_of_succeeded Kubectl.Command.list.arguments well
    cases ending.symm.trans same
    rw [Kubectl.list, Kubectl.execute_eq, verdict]
    dsimp only
    exact Discovery.readListing_sample
  have identified : ∀ volumes, (Kubectl.list (.ofText? none) vanishing.state).1 = .ok volumes →
      ∀ volume ∈ volumes, volume.identified = true := by
    intro volumes given
    rw [listed, Except.ok.injEq] at given
    rw [← given]
    decide +kernel
  have foreign : vanishing.state.services.ec2.script.All Ec2.Reply.foreign := by
    simp [vanishing, Script.All, Ec2.Reply.foreign, Ec2.Answer.volumes]
  have returns : (World.reclaim (.ofText? none) 2 30 vanishing).1 = .ok () :=
    Poll.eq_ok_of_isOk (by decide +kernel)
  obtain ⟨volumes, -, lost⟩ :=
    (reclaim_nothing_lost none 2 30 vanishing identified foreign).1 returns
  exact ⟨listed, returns, volumes, lost⟩

end VolumeReclaim
