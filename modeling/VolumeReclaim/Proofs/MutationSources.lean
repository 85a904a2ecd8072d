import VolumeReclaim.Proofs.ErrorContract
import VolumeReclaim.Proofs.Phases

/-!
Where the mutations of a run come from. After their listings, two runs make the same invocations,
and the cluster fails them in the same words, as soon as they list the same volumes on EBS and their
invocations end alike. Neither the clock nor EC2 nor any other volume has a say in it. Listings are
the same as far as they are read the same, with lone surrogates replaced.
-/
set_option autoImplicit false

namespace VolumeReclaim

namespace PersistentVolume

def target? (volume : PersistentVolume) : Option (Json × String) :=
  volume.ebsId?.map fun id => (volume.name, id)

end PersistentVolume

namespace Kubectl

variable {τ : Type}

/-- Whether replies end alike, place by place, whatever time they take. A place without a reply is
one that ends well. -/
def EndAlike (replies replies' : List (Reply τ)) : Prop :=
  ∀ place, (replies.getD place {}).ending = (replies'.getD place {}).ending

theorem EndAlike.head {replies replies' : List (Reply τ)} (alike : EndAlike replies replies') :
    (replies.headD {}).ending = (replies'.headD {}).ending := by
  have first := alike 0
  cases replies <;> cases replies' <;> exact first

theorem EndAlike.tail {replies replies' : List (Reply τ)} (alike : EndAlike replies replies') :
    EndAlike replies.tail replies'.tail := by
  intro place
  have later := alike (place + 1)
  cases replies <;> cases replies' <;> exact later

end Kubectl

namespace Discovery

theorem releaseSteps_eq (volumes : List PersistentVolume) :
    releaseSteps volumes = (volumes.filterMap (·.target?)).flatMap fun target =>
      [.update target.1, .delete target.1] := by
  induction volumes with
  | nil => rfl
  | cons volume rest ih =>
    cases found : volume.ebsId? <;>
      simpa [releaseSteps, PersistentVolume.onEbs, PersistentVolume.target?, found] using ih

section Steps

variable {τ : Type} {replies replies' : List (Kubectl.Reply τ)}

theorem performed_congr (context : Json) (steps : List Step)
    (alike : Kubectl.EndAlike replies replies') :
    performed context steps replies = performed context steps replies' := by
  induction steps generalizing replies replies' with
  | nil => rfl
  | cons step later ih => simp only [performed, alike.head, ih alike.tail]

theorem stopped?_congr (steps : List Step) (alike : Kubectl.EndAlike replies replies') :
    stopped? steps replies = stopped? steps replies' := by
  induction steps generalizing replies replies' with
  | nil => rfl
  | cons step later ih => simp only [stopped?, alike.head, ih alike.tail]

end Steps

theorem releaseListed_of_list {τ : Type} [Time τ] {context : Option String}
    {run : Logged (World τ)} {volumes : List PersistentVolume}
    (listed : (Kubectl.list (.ofText? context) run.state).1 = .ok volumes)
    (readable : ∀ volume ∈ volumes, volume.Readable) :
    ∃ listing : Kubectl.Invocation, listing.commandLine = Step.list.commandLine context ∧
      Kubectl.Journaled (listing :: performed (.ofText? context) (releaseSteps volumes)
          run.state.services.kubectl.replies.tail) run.state
        (releaseListed (Kubectl.cluster (.ofText? context)) run).2.state ∧
      (releaseListed (Kubectl.cluster (.ofText? context)) run).1 =
        match stopped? (releaseSteps volumes) run.state.services.kubectl.replies.tail with
        | none => .ok ((volumes.filterMap (·.ebsId?)).eraseDups.map .str)
        | some failure => .error failure := by
  have well := Kubectl.succeeded_of_list listed
  have whole := carriesOut_releaseListed (.ofText? context) volumes run
    (Kubectl.readListing_of_list listed) readable
  have journal := whole.journal
  have outcome := whole.outcome
  rw [performed_pass (.ofText? context) well] at journal
  rw [stopped?_pass well] at outcome
  exact ⟨_, commandLine_ofText? context .list, journal, outcome⟩

end Discovery

namespace Poll

variable {τ σ : Type} [Time τ] {check : Checker τ σ} {P : Timed τ σ → Prop}

/-- A wait fails with the volumes that remain, with too many turns, or as one of its questions
does. -/
theorem sweeps_error_cases (steady : Steady check P) (interval : τ) (limit : Nat)
    (remaining : List Json) {run : Logged (Timed τ σ)} (holds : P run.state) {failure : Failure}
    (failed : (sweeps check interval limit remaining run).1 = .error failure) :
    (∃ left cancelled, failure = .ofRemaining left cancelled) ∨ failure = .turnLimit ∨
      ∃ id world, P world ∧ (check id world).1 = .error failure := by
  induction limit, remaining, run using sweeps_induction check interval with
  | nil => cases failed
  | done limit remaining run some halted =>
    cases failed
    exact .inl ⟨_, _, rfl⟩
  | spent =>
    cases failed
    exact .inr (.inl rfl)
  | error limit remaining run cause after some halted swept =>
    cases failed
    obtain ⟨id, world, before, answer, -⟩ := sweep_error steady.asks run holds swept
    exact .inr (.inr ⟨id, world, before, congrArg Prod.fst answer⟩)
  | next limit remaining run kept after some halted swept ih =>
    have swept_holds := sweep_keeps steady.asks remaining run holds
    rw [swept] at swept_holds
    exact ih (pause_keeps steady interval kept after swept_holds) failed

end Poll

namespace Ec2

variable {τ : Type}

/-- Whether a reply does not put the blame on the cluster: its failure, if it is one, is not the
cluster's. -/
def Reply.blameless (reply : Reply τ) : Prop :=
  ∀ message forbidden, reply.answer ≠ .failure (.cluster message forbidden)

variable [Time τ]

theorem steady_kubectl (looks : Nat) (p : Kubectl.Session τ → Prop) :
    Poll.Steady (stillExists looks) fun world => p world.services.kubectl where
  asks volumeId world holds := by
    have course := stillExists_questioned looks volumeId world
    generalize stillExists looks volumeId world = result at course ⊢
    cases course <;> exact holds
  waits _ _ holds := holds

theorem stillExists_ne_cluster {looks : Nat} {volumeId : Json} {world : World τ}
    (blameless : world.services.ec2.script.All Reply.blameless) (message : String)
    (forbidden : Bool) :
    (stillExists looks volumeId world).1 ≠ .error (.cluster message forbidden) := by
  intro failed
  have course := stillExists_questioned looks volumeId world
  generalize stillExists looks volumeId world = result at course failed
  cases course with
  | refused => cases failed
  | spent => cases failed
  | @waited open_ wait awaited =>
    have own := nextReply_of_all blameless (fun _ _ => nofun) volumeId
    obtain ⟨text, late⟩ | ⟨fault, shape⟩ | ⟨text, query⟩ | brought :=
      wait.verdict_error_cases failed
    · cases late
    · cases shape
    · cases query
    · exact own message forbidden brought

end Ec2

theorem Failure.ofRemaining_ne_cluster (left : List Json) (cancelled : Bool) (message : String)
    (forbidden : Bool) : Failure.ofRemaining left cancelled ≠ .cluster message forbidden := by
  unfold Failure.ofRemaining
  split <;> exact nofun

variable {τ : Type} [Time τ]

/-- A wait for the answers of EC2 leaves kubectl alone, and does not fail as a failure of the
cluster. -/
theorem Poll.untilGone_beside_cluster (interval : τ) (limit looks : Nat) (ids : List Json)
    (run : Logged (World τ))
    (blameless : run.state.services.ec2.script.All Ec2.Reply.blameless) :
    (untilGone (Ec2.stillExists looks) interval limit ids run).2.state.services.kubectl =
        run.state.services.kubectl ∧
      ∀ message forbidden, (untilGone (Ec2.stillExists looks) interval limit ids run).1 ≠
        .error (.cluster message forbidden) := by
  unfold untilGone
  cases Json.distinct ids with
  | error fault => exact ⟨rfl, nofun⟩
  | ok remaining =>
    refine ⟨sweeps_keeps (Ec2.steady_kubectl looks (· = run.state.services.kubectl)) interval limit
      remaining run rfl, ?_⟩
    intro message forbidden failed
    obtain ⟨left, cancelled, named⟩ | spent | ⟨id, world, own, answer⟩ := sweeps_error_cases
      (Ec2.steady_script looks Ec2.Reply.blameless) interval limit remaining blameless failed
    · exact Failure.ofRemaining_ne_cluster left cancelled message forbidden named.symm
    · cases spent
    · exact Ec2.stillExists_ne_cluster own message forbidden answer

/-- A run whose listing gives volumes makes the invocations of those on EBS after it, and the
cluster fails it exactly if one of them fails. -/
theorem World.reclaim_mutations (context : Option String) (interval : τ) (limit : Nat)
    {run : Logged (World τ)} {volumes : List PersistentVolume}
    (bounded : run.state.context.deadline ≠ none)
    (listed : (Kubectl.list (.ofText? context) run.state).1 = .ok volumes)
    (readable : ∀ volume ∈ volumes, volume.Readable)
    (blameless : run.state.services.ec2.script.All Ec2.Reply.blameless) :
    (∃ listing : Kubectl.Invocation,
      listing.commandLine = Discovery.Step.list.commandLine context ∧
      (World.reclaim (.ofText? context) interval limit
        run).2.state.services.kubectl.invocations.toList =
          run.state.services.kubectl.invocations.toList ++
            listing :: Discovery.performed (.ofText? context) (Discovery.releaseSteps volumes)
              run.state.services.kubectl.replies.tail) ∧
      ∀ message forbidden, (World.reclaim (.ofText? context) interval limit run).1 =
          .error (.cluster message forbidden) ↔
        Discovery.stopped? (Discovery.releaseSteps volumes)
          run.state.services.kubectl.replies.tail = some (.cluster message forbidden) := by
  obtain ⟨listing, line, journal, discovered⟩ := Discovery.releaseListed_of_list listed readable
  cases stop : Discovery.stopped? (Discovery.releaseSteps volumes)
      run.state.services.kubectl.replies.tail with
  | some failure =>
    rw [stop] at discovered
    rw [World.reclaim_of_unreleased interval limit bounded discovered]
    exact ⟨⟨listing, line, journal.invocations⟩, by simp⟩
  | none =>
    rw [stop] at discovered
    obtain ⟨outcome, state⟩ := World.reclaim_of_released interval limit bounded discovered
    rw [← journal.ec2] at blameless
    obtain ⟨kubectl, fair⟩ := Poll.untilGone_beside_cluster interval limit limit
      ((volumes.filterMap (·.ebsId?)).eraseDups.map .str) _ blameless
    rw [outcome, state, kubectl]
    refine ⟨⟨listing, line, journal.invocations⟩, fun message forbidden => ?_⟩
    simpa using fair message forbidden

/-- After their listings two runs made the same invocations, and either the cluster failed both in
the same words, or neither. -/
structure SameMutations (context : Option String) (before before' : Logged (World τ))
    (ended ended' : Except Failure Unit × Logged (World τ)) : Prop where
  invocations : ∃ (listing listing' : Kubectl.Invocation) (later : List Kubectl.Invocation),
    listing.commandLine = Discovery.Step.list.commandLine context ∧
    listing'.commandLine = Discovery.Step.list.commandLine context ∧
    ended.2.state.services.kubectl.invocations.toList =
      before.state.services.kubectl.invocations.toList ++ listing :: later ∧
    ended'.2.state.services.kubectl.invocations.toList =
      before'.state.services.kubectl.invocations.toList ++ listing' :: later
  failures : ∀ message forbidden, ended.1 = .error (.cluster message forbidden) ↔
    ended'.1 = .error (.cluster message forbidden)

/-- Two runs that list the same names of volumes on EBS with the same ids, and whose invocations
after that end alike, mutate the cluster alike. -/
theorem reclaim_same_mutations (context : Option String) (interval interval' : τ)
    (limit limit' : Nat) (run run' : Logged (World τ)) (volumes volumes' : List PersistentVolume)
    (bounded : run.state.context.deadline ≠ none) (bounded' : run'.state.context.deadline ≠ none)
    (listed : (Kubectl.list (.ofText? context) run.state).1 = .ok volumes)
    (listed' : (Kubectl.list (.ofText? context) run'.state).1 = .ok volumes')
    (typed : ∀ volume ∈ volumes, volume.wellTyped = true)
    (typed' : ∀ volume ∈ volumes', volume.wellTyped = true)
    (same : volumes.filterMap (·.target?) = volumes'.filterMap (·.target?))
    (alike : Kubectl.EndAlike run.state.services.kubectl.replies.tail
      run'.state.services.kubectl.replies.tail)
    (blameless : run.state.services.ec2.script.All Ec2.Reply.blameless)
    (blameless' : run'.state.services.ec2.script.All Ec2.Reply.blameless) :
    SameMutations context run run' (World.reclaim (.ofText? context) interval limit run)
      (World.reclaim (.ofText? context) interval' limit' run') := by
  have steps : Discovery.releaseSteps volumes = Discovery.releaseSteps volumes' := by
    rw [Discovery.releaseSteps_eq, Discovery.releaseSteps_eq, same]
  have readable := PersistentVolume.forall_readable typed
  have readable' := PersistentVolume.forall_readable typed'
  obtain ⟨⟨listing, line, made⟩, failed⟩ :=
    World.reclaim_mutations context interval limit bounded listed readable blameless
  obtain ⟨⟨listing', line', made'⟩, failed'⟩ :=
    World.reclaim_mutations context interval' limit' bounded' listed' readable' blameless'
  rw [← steps, ← Discovery.performed_congr _ _ alike] at made'
  refine ⟨⟨listing, listing', _, line, line', made, made'⟩, fun message forbidden => ?_⟩
  rw [failed, failed', ← steps, Discovery.stopped?_congr _ alike]

/-- The volume on EBS of the sample listing under the older name of its plugin and with a finalizer,
and after it a volume that is not on EBS. -/
def otherListing : String :=
  "\x7b\"items\":[\x7b\"metadata\":\x7b\"name\":\"a\",\"annotations\":" ++
    "\x7b\"pv.kubernetes.io/provisioned-by\":\"aws-ebs-csi-driver\"\x7d," ++
    "\"finalizers\":[\"f\"]\x7d,\"spec\":\x7b\"csi\":\x7b\"volumeHandle\":\"v\"\x7d\x7d\x7d," ++
    "\x7b\"metadata\":\x7b\"name\":\"b\"\x7d\x7d]\x7d"

def otherVolumes : List PersistentVolume :=
  [{ name := .str "a",
     annotations := .obj [( provisionedByAnnotation, .str "aws-ebs-csi-driver")],
     finalizers := .arr [.str "f"], csiVolumeHandle := .str "v" },
   { name := .str "b" }]

set_option maxRecDepth 20000 in
theorem readListing_other :
    Kubectl.readListing Kubectl.usualLevels (.str otherListing) = .ok otherVolumes := by
  rfl

/-- What two clusters with these listings reply that both refuse the deletion. -/
def refusing (cost : Option Rat) (listing : String) : Kubectl.Session Rat :=
  { replies :=
      [⟨cost, .completed { stdout := .str listing }⟩, ⟨none, .completed {}⟩,
       ⟨cost, .completed
          { status := .int 1, stderr := .str "Error from server (Forbidden): no" }⟩] }

def timelyRun : Logged (World Rat) :=
  ⟨⟨.create 0 (some 60) none, { kubectl := refusing none Discovery.sampleListing }⟩, #[]⟩

/-- A run whose deadline is over when it starts, and that is cancelled during its listing. -/
def lateRun : Logged (World Rat) :=
  ⟨⟨.create 9 (some 4) (some 10),
    { kubectl := refusing (some 2) otherListing,
      ec2 := { script := [("v", [⟨none, .volumes .null⟩])] } }⟩, #[]⟩

theorem reclaim_same_mutations_late :
    way? (World.reclaim .null 2 30 timelyRun).1 = some .clusterFailed ∧
      SameMutations none timelyRun lateRun (World.reclaim (.ofText? none) 2 30 timelyRun)
        (World.reclaim (.ofText? none) 1 9 lateRun) := by
  have listed : (Kubectl.list (.ofText? none) timelyRun.state).1 = .ok Discovery.sampleVolumes :=
    Kubectl.list_of_printed rfl Discovery.readListing_sample
  have listed' : (Kubectl.list (.ofText? none) lateRun.state).1 = .ok otherVolumes :=
    Kubectl.list_of_printed rfl readListing_other
  have alike : Kubectl.EndAlike timelyRun.state.services.kubectl.replies.tail
      lateRun.state.services.kubectl.replies.tail := by
    intro place
    rcases place with _ | _ | place <;> rfl
  have quiet : lateRun.state.services.ec2.script.All Ec2.Reply.blameless := by
    simp [lateRun, Script.All, Ec2.Reply.blameless, Ec2.Answer.volumes]
  refine ⟨by decide +kernel, ?_⟩
  exact reclaim_same_mutations none 2 1 30 9 timelyRun lateRun Discovery.sampleVolumes otherVolumes
    (Option.some_ne_none 60) (Option.some_ne_none 4) listed listed' (by decide +kernel)
    (by decide +kernel) rfl alike (List.forall_mem_nil _) quiet

end VolumeReclaim
