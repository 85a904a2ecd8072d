import VolumeReclaim.Proofs.AnswerShape
import VolumeReclaim.Proofs.DescribedVolume
import VolumeReclaim.Proofs.MutationTrace
import VolumeReclaim.Proofs.Phases

/-!
The ways in which a run ends. With whatever kubectl and EC2 may properly answer there are four of
them, and which one it is follows from the deadline, from the invocations that failed, and from what
EC2 reported of the volumes. No failure of a single invocation, query or wait comes through as such.
-/
set_option autoImplicit false

namespace VolumeReclaim

namespace Discovery

/-- Whether an invocation failed: it ended badly, or it was the listing and printed no JSON. -/
def Failed (levels : Nat) (context : Option String) (invocation : Kubectl.Invocation) : Prop :=
  invocation.ending.succeeded = false ∨
    invocation.commandLine = Step.list.commandLine context ∧
      ∃ process, invocation.ending = .completed process ∧
        Kubectl.malformed levels process.stdout = true

/-- Some invocations of which the last one failed, and no other. -/
def EndsFailing (levels : Nat) (context : Option String) (made : List Kubectl.Invocation) : Prop :=
  ∃ earlier failing, made = earlier ++ [failing] ∧ Failed levels context failing ∧
    ∀ invocation ∈ earlier, ¬ Failed levels context invocation

/-- What a discovery with a legible listing comes to: it gives the ids behind the listed volumes, or
the cluster failed with the last invocation. -/
inductive Discovered (levels : Nat) (context : Option String)
    (listing : Except Failure (List PersistentVolume)) (made : List Kubectl.Invocation) :
    Except Failure (List Json) → Prop where
  | tracked {volumes : List PersistentVolume} (listed : listing = .ok volumes)
      (smooth : ∀ invocation ∈ made, ¬ Failed levels context invocation) :
      Discovered levels context listing made
        (.ok ((volumes.filterMap (·.ebsId?)).eraseDups.map .str))
  | failed (message : String) (forbidden : Bool) (ends : EndsFailing levels context made) :
      Discovered levels context listing made (.error (.cluster message forbidden))

theorem line_of_performed {τ : Type} {context : Option String} {steps : List Step}
    {replies : List (Kubectl.Reply τ)} {invocation : Kubectl.Invocation}
    (member : invocation ∈ performed (.ofText? context) steps replies) :
    ∃ step ∈ steps, invocation.commandLine = step.commandLine context := by
  induction steps generalizing replies with
  | nil => cases member
  | cons step later ih =>
    rw [performed, commandLine_ofText?, List.mem_cons] at member
    obtain rfl | member := member
    · exact ⟨step, List.mem_cons_self, rfl⟩
    · split at member
      · obtain ⟨other, present, line⟩ := ih member
        exact ⟨other, List.mem_cons_of_mem _ present, line⟩
      · cases member

theorem listing_of_performed {τ : Type} {context : Option String}
    {volumes : List PersistentVolume} {session : Kubectl.Session τ}
    {invocation : Kubectl.Invocation}
    (member : invocation ∈ performed (.ofText? context) (plan volumes) session.replies)
    (line : invocation.commandLine = Step.list.commandLine context) :
    invocation.ending = session.nextEnding := by
  rw [plan, performed, List.mem_cons] at member
  obtain rfl | member := member
  · rfl
  · split at member
    · obtain ⟨step, planned, same⟩ := line_of_performed member
      cases Step.commandLine_injective (line.symm.trans same)
      simp [releaseSteps] at planned
    · cases member

section Discovering

variable {τ : Type} [Time τ] {context : Option String} {run : Logged (World τ)}

theorem discovered_of_readable (volumes : List PersistentVolume)
    (replies : ∀ reply ∈ run.state.services.kubectl.replies, reply.ending.wellFormed = true)
    (reads : ∀ process, run.state.services.kubectl.nextEnding = .completed process →
      process.succeeded = true →
      Kubectl.readListing run.state.services.kubectl.levels process.stdout = .ok volumes)
    (clear : ∀ process, run.state.services.kubectl.nextEnding = .completed process →
      process.succeeded = true →
      Kubectl.malformed run.state.services.kubectl.levels process.stdout = false)
    (readable : ∀ volume ∈ volumes, volume.Readable) :
    ∃ made, Kubectl.Journaled made run.state
        (releaseListed (Kubectl.cluster (.ofText? context)) run).2.state ∧
      Discovered run.state.services.kubectl.levels context
        (Kubectl.list (.ofText? context) run.state).1 made
        (releaseListed (Kubectl.cluster (.ofText? context)) run).1 := by
  have whole := carriesOut_releaseListed (.ofText? context) volumes run reads readable
  have course := course_of_carriesOut replies whole
  refine ⟨_, whole.journal, ?_⟩
  have sound : ∀ invocation ∈ performed (.ofText? context) (plan volumes)
      run.state.services.kubectl.replies, invocation.ending.succeeded = true →
      ¬ Failed run.state.services.kubectl.levels context invocation := by
    rintro invocation member well (bad | ⟨line, process, ending, garbled⟩)
    · rw [well] at bad
      cases bad
    · have next := listing_of_performed member line
      rw [ending, Kubectl.Ending.succeeded] at well
      rw [clear process (next.symm.trans ending) well] at garbled
      cases garbled
  generalize releaseListed _ run = result at course ⊢
  obtain ⟨outcome, after⟩ := result
  obtain ⟨lines, ends, given⟩ |
    ⟨before, step, later, earlier, failing, -, made, -, ends, -, bad, message, forbidden, given⟩ :=
    course
  · dsimp only at given ⊢
    rw [given]
    have listing : run.state.services.kubectl.nextEnding.succeeded = true :=
      ends _ List.mem_cons_self
    obtain ⟨process, ending, -⟩ :=
      Kubectl.verdict_of_succeeded Kubectl.Command.list.arguments listing
    rw [ending, Kubectl.Ending.succeeded] at listing
    refine .tracked ?_ fun invocation member => sound invocation member (ends invocation member)
    rw [Kubectl.list_of_completed _ ending listing, reads process ending listing]
  · dsimp only at given ⊢
    rw [given]
    refine .failed _ _ ⟨earlier, failing, made, .inl bad, ?_⟩
    intro invocation member
    refine sound invocation ?_ (ends invocation member)
    exact made ▸ List.mem_append_left [failing] member

theorem discovered_of_malformed {process : Kubectl.Completed} {cause : Kubectl.Failure}
    (ending : run.state.services.kubectl.nextEnding = .completed process)
    (well : process.succeeded = true)
    (garbled : Kubectl.malformed run.state.services.kubectl.levels process.stdout = true)
    (refused : Kubectl.readListing run.state.services.kubectl.levels process.stdout =
      .error (.kubectl cause)) :
    ∃ made, Kubectl.Journaled made run.state
        (releaseListed (Kubectl.cluster (.ofText? context)) run).2.state ∧
      Discovered run.state.services.kubectl.levels context
        (Kubectl.list (.ofText? context) run.state).1 made
        (releaseListed (Kubectl.cluster (.ofText? context)) run).1 := by
  have journal := Kubectl.journaled_afterCommand (.ofText? context) .list run.state
  have line : Kubectl.commandLine (.ofText? context) Kubectl.Command.list.arguments =
      Step.list.commandLine context := commandLine_ofText? context .list
  obtain ⟨details, forbidden, named⟩ := Step.list.failure_kubectl cause
  have listed := Kubectl.list_of_completed (.ofText? context) ending well
  have stopped := releaseListed_of_unlisted (listed.trans refused)
  rw [named] at stopped
  rw [stopped]
  refine ⟨_, journal, .failed _ _ ⟨[], _, rfl, .inr ⟨line, process, ending, garbled⟩, ?_⟩⟩
  exact List.forall_mem_nil _

theorem discovered_releaseListed (context : Option String)
    (replies : ∀ reply ∈ run.state.services.kubectl.replies, reply.ending.wellFormed = true)
    (clear : ∀ process, run.state.services.kubectl.nextEnding = .completed process →
      process.succeeded = true →
      Kubectl.legible run.state.services.kubectl.levels process.stdout = true) :
    ∃ made, Kubectl.Journaled made run.state
        (releaseListed (Kubectl.cluster (.ofText? context)) run).2.state ∧
      Discovered run.state.services.kubectl.levels context
        (Kubectl.list (.ofText? context) run.state).1 made
        (releaseListed (Kubectl.cluster (.ofText? context)) run).1 := by
  by_cases well : run.state.services.kubectl.nextEnding.succeeded = true
  · obtain ⟨process, ending, -⟩ :=
      Kubectl.verdict_of_succeeded Kubectl.Command.list.arguments well
    rw [ending, Kubectl.Ending.succeeded] at well
    obtain ⟨sound, volumes, listed, typed⟩ | ⟨garbled, cause, refused⟩ :=
      Kubectl.readListing_cases (clear process ending well)
    · have only : ∀ other, run.state.services.kubectl.nextEnding = .completed other →
          other = process := fun other same => Kubectl.Ending.completed.inj (same.symm.trans ending)
      apply discovered_of_readable volumes replies
      · intro other same _
        rw [only other same, listed]
      · intro other same _
        rw [only other same, sound]
      · exact fun volume member => PersistentVolume.readable_of_wellTyped (typed volume member)
    · exact discovered_of_malformed ending well garbled refused
  · have none : ∀ process, run.state.services.kubectl.nextEnding = .completed process →
        ¬ process.succeeded = true := by
      intro process ending
      rw [ending] at well
      exact well
    apply discovered_of_readable [] replies
    · exact fun process ending good => absurd good (none process ending)
    · exact fun process ending good => absurd good (none process ending)
    · exact List.forall_mem_nil _

end Discovering

end Discovery

inductive Way where
  | allGone
  | noDeadline
  | clusterFailed
  | notAllGone
deriving DecidableEq

/-- The way in which a run with an outcome ended, if it is one of these. -/
def way? : Except Failure Unit → Option Way
  | .ok () => some .allGone
  | .error (.missingDeadline _) => some .noDeadline
  | .error (.cluster _ _) => some .clusterFailed
  | .error (.notDeleted _ _) => some .notAllGone
  | .error _ => none

theorem notDeleted_of_way {outcome : Except Failure Unit}
    (way : way? outcome = some .notAllGone) :
    ∃ remaining cancelled, outcome = .error (.notDeleted remaining cancelled) := by
  cases outcome with
  | ok => cases way
  | error failure =>
    cases failure with
    | notDeleted remaining cancelled => exact ⟨remaining, cancelled, rfl⟩
    | _ => cases way

/-- The ids of the EBS volumes behind a listing, each once. -/
def trackedIds : Except Failure (List PersistentVolume) → List String
  | .ok volumes => (volumes.filterMap (·.ebsId?)).eraseDups
  | .error _ => []

/-- Which way a run ends: without a deadline it does nothing; a failed invocation is the last one
and nothing is asked of EC2; otherwise all depends on whether all tracked volumes were reported
gone. -/
structure ErrorContract {τ : Type} (context : Option String) (tracked : List String)
    (before after : Logged (World τ)) (made : List Kubectl.Invocation)
    (asked : List (Ec2.Request τ)) (outcome : Except Failure Unit) : Prop where
  closed : (way? outcome).isSome = true
  noDeadline : way? outcome = some .noDeadline ↔ before.state.context.deadline = none
  untouched : before.state.context.deadline = none → after = before
  clusterFailed : way? outcome = some .clusterFailed ↔
    before.state.context.deadline ≠ none ∧ ∃ invocation ∈ made,
      Discovery.Failed before.state.services.kubectl.levels context invocation
  halted : (∃ invocation ∈ made,
      Discovery.Failed before.state.services.kubectl.levels context invocation) →
    Discovery.EndsFailing before.state.services.kubectl.levels context made ∧ asked = []
  notAllGone : way? outcome = some .notAllGone ↔
    before.state.context.deadline ≠ none ∧
      (∀ invocation ∈ made,
        ¬ Discovery.Failed before.state.services.kubectl.levels context invocation) ∧
      ∃ id ∈ tracked, ¬ Ec2.Confirmed asked id
  allGone : way? outcome = some .allGone ↔
    before.state.context.deadline ≠ none ∧
      (∀ invocation ∈ made,
        ¬ Discovery.Failed before.state.services.kubectl.levels context invocation) ∧
      ∀ id ∈ tracked, Ec2.Confirmed asked id

section Contract

variable {τ : Type} {context : Option String} {tracked : List String}
  {before after : Logged (World τ)} {made : List Kubectl.Invocation}
  {asked : List (Ec2.Request τ)}

theorem contract_noDeadline {message : String}
    (missing : before.state.context.deadline = none) :
    ErrorContract context tracked before before [] [] (.error (.missingDeadline message)) := by
  constructor <;> simp [way?, missing]

theorem contract_clusterFailed {message : String} {forbidden : Bool}
    (held : before.state.context.deadline ≠ none)
    (ends : Discovery.EndsFailing before.state.services.kubectl.levels context made) :
    ErrorContract context tracked before after made [] (.error (.cluster message forbidden)) := by
  have failed : ∃ invocation ∈ made,
      Discovery.Failed before.state.services.kubectl.levels context invocation := by
    obtain ⟨earlier, failing, rfl, failed, -⟩ := ends
    exact ⟨failing, List.mem_append_right earlier List.mem_cons_self, failed⟩
  have bad : ¬ ∀ invocation ∈ made,
      ¬ Discovery.Failed before.state.services.kubectl.levels context invocation := by
    obtain ⟨invocation, member, failed⟩ := failed
    exact fun smooth => smooth invocation member failed
  constructor
  case halted => exact fun _ => ⟨ends, rfl⟩
  all_goals simp [way?, held, failed, bad]

theorem contract_waited (after : Logged (World τ)) {left : List String} (cancelled : Bool)
    (held : before.state.context.deadline ≠ none)
    (smooth : ∀ invocation ∈ made,
      ¬ Discovery.Failed before.state.services.kubectl.levels context invocation)
    (splits : Ec2.Splits asked tracked left) :
    ErrorContract context tracked before after made asked (Poll.conclusion left cancelled) := by
  have well : ¬ ∃ invocation ∈ made,
      Discovery.Failed before.state.services.kubectl.levels context invocation := by
    rintro ⟨invocation, member, failed⟩
    exact smooth invocation member failed
  rw [Poll.conclusion]
  by_cases none : left = []
  · have all : ∀ id ∈ tracked, Ec2.Confirmed asked id := by
      intro id member
      obtain remains | gone := (splits.whole id).mp member
      · rw [none] at remains
        cases remains
      · exact gone
    have missing : ¬ ∃ id ∈ tracked, ¬ Ec2.Confirmed asked id := by
      rintro ⟨id, member, unconfirmed⟩
      exact unconfirmed (all id member)
    rw [if_pos none]
    constructor
    case allGone => exact ⟨fun _ => ⟨held, smooth, all⟩, fun _ => rfl⟩
    case halted => exact fun failed => absurd failed well
    all_goals simp [way?, held, well, missing]
  · have missing : ∃ id ∈ tracked, ¬ Ec2.Confirmed asked id := by
      obtain ⟨id, remains⟩ := List.exists_mem_of_ne_nil left none
      exact ⟨id, (splits.whole id).mpr (.inl remains), splits.apart id remains⟩
    have some : ¬ ∀ id ∈ tracked, Ec2.Confirmed asked id := by
      obtain ⟨id, member, unconfirmed⟩ := missing
      exact fun all => unconfirmed (all id member)
    rw [if_neg none]
    constructor
    case notAllGone => exact ⟨fun _ => ⟨held, smooth, missing⟩, fun _ => rfl⟩
    case halted => exact fun failed => absurd failed well
    all_goals simp [way?, held, well, some]

end Contract

/-- With whatever kubectl and EC2 may properly answer, a run that ends ends in one of four ways. -/
theorem reclaim_error_contract {τ : Type} [Time τ] (context : Option String) (interval : τ)
    (limit : Nat) (run : Logged (World τ))
    (replies : ∀ reply ∈ run.state.services.kubectl.replies, reply.ending.wellFormed = true)
    (clear : ∀ process, run.state.services.kubectl.nextEnding = .completed process →
      process.succeeded = true →
      Kubectl.legible run.state.services.kubectl.levels process.stdout = true)
    (wellFormed : run.state.services.ec2.script.All Ec2.Reply.wellFormed)
    (ends : (World.reclaim (.ofText? context) interval limit run).1 ≠ .error .turnLimit) :
    ∃ made asked,
      (World.reclaim (.ofText? context) interval limit
        run).2.state.services.kubectl.invocations.toList =
          run.state.services.kubectl.invocations.toList ++ made ∧
      (World.reclaim (.ofText? context) interval limit run).2.state.services.ec2.requests.toList =
        run.state.services.ec2.requests.toList ++ asked ∧
      ErrorContract context (trackedIds (Kubectl.list (.ofText? context) run.state).1) run
        (World.reclaim (.ofText? context) interval limit run).2 made asked
        (World.reclaim (.ofText? context) interval limit run).1 := by
  by_cases held : run.state.context.deadline = none
  · rw [World.reclaim_of_missing interval limit held]
    exact ⟨[], [], (List.append_nil _).symm, (List.append_nil _).symm, contract_noDeadline held⟩
  obtain ⟨made, journal, discovered⟩ := Discovery.discovered_releaseListed context replies clear
  cases result : (Discovery.releaseListed (Kubectl.cluster (.ofText? context)) run).1 with
  | error failure =>
    rw [result] at discovered
    cases discovered with
    | failed message forbidden failing =>
      rw [World.reclaim_of_unreleased interval limit held result]
      refine ⟨made, [], journal.invocations, ?_, contract_clusterFailed held failing⟩
      rw [journal.ec2, List.append_nil]
  | ok ids =>
    rw [result] at discovered
    obtain ⟨outcome, state⟩ := World.reclaim_of_released interval limit held result
    cases discovered with
    | @tracked volumes listed smooth =>
      have shapes : (Discovery.releaseListed (Kubectl.cluster (.ofText? context))
          run).2.state.services.ec2.script.All Ec2.Reply.wellFormed := by
        rw [journal.ec2]
        exact wellFormed
      obtain ⟨-, kubectl, concluded⟩ := Ec2.concluded_untilGone
        (Ec2.steady_script limit Ec2.Reply.wellFormed) interval limit
        (volumes.filterMap (·.ebsId?)).eraseDups shapes
        (shapes.imp fun _ => Ec2.Reply.foreign_of_wellFormed)
      rw [← outcome, ← state] at concluded
      rw [← state] at kubectl
      obtain ⟨left, asked, ended, -, requests, splits⟩ | ⟨ended, -⟩ :=
        concluded.split_or_spent fun _ all => all
      · refine ⟨made, asked, by rw [kubectl, journal.invocations], ?_, ?_⟩
        · rw [requests, journal.ec2]
        · rw [listed, ended]
          exact contract_waited _ _ held smooth splits
      · exact absurd ended ends

/-- A run whose cluster lists its volumes and then lets the first update time out. -/
def unresponsive : Logged (World Rat) :=
  { state := ⟨.create 0 (some 60) none,
      { kubectl := { replies :=
          [{ ending := .completed { stdout := .str Discovery.sampleListing } },
            { ending := .timedOut }] } }⟩ }

/-- A run in which EC2 cannot be trusted at first, and then reports the volume as gone. -/
def recovering : Logged (World Rat) :=
  { state := ⟨.create 0 (some 60) none,
      { kubectl := { replies :=
          [{ ending := .completed { stdout := .str Discovery.sampleListing } }] },
        ec2 := { script := [("v",
          [⟨some 1, .clientFault (.other "SSL validation failed for https://ec2")⟩,
            ⟨some 0, .volumes (.arr [])⟩])] } }⟩ }

set_option maxRecDepth 20000 in
theorem legible_sample :
    Kubectl.legible Kubectl.usualLevels (.str Discovery.sampleListing) = true := by
  decide +kernel

theorem ne_turnLimit_of_way {outcome : Except Failure Unit} {way : Way}
    (ended : way? outcome = some way) : outcome ≠ .error .turnLimit := by
  rintro rfl
  cases ended

theorem reclaim_error_contract_recovering :
    (way? (World.reclaim (.ofText? none) 2 30 unresponsive).1 = some .clusterFailed ∧
      ∃ made asked, ErrorContract none
        (trackedIds (Kubectl.list (.ofText? none) unresponsive.state).1) unresponsive
        (World.reclaim (.ofText? none) 2 30 unresponsive).2 made asked
        (World.reclaim (.ofText? none) 2 30 unresponsive).1) ∧
    way? (World.reclaim (.ofText? none) 2 30 recovering).1 = some .allGone ∧
      ∃ made asked, ErrorContract none ["v"] recovering
        (World.reclaim (.ofText? none) 2 30 recovering).2 made asked
        (World.reclaim (.ofText? none) 2 30 recovering).1 := by
  constructor
  · have way : way? (World.reclaim (.ofText? none) 2 30 unresponsive).1 = some .clusterFailed := by
      decide +kernel
    obtain ⟨made, asked, -, -, contract⟩ := reclaim_error_contract none 2 30 unresponsive
      (by decide +kernel) (fun process ending _ => by cases ending; exact legible_sample)
      (List.forall_mem_nil _) (ne_turnLimit_of_way way)
    exact ⟨way, made, asked, contract⟩
  · have way : way? (World.reclaim (.ofText? none) 2 30 recovering).1 = some .allGone := by
      decide +kernel
    have listed : (Kubectl.list (.ofText? none) recovering.state).1 = .ok Discovery.sampleVolumes :=
      Kubectl.list_of_printed rfl Discovery.readListing_sample
    have tracked : trackedIds (.ok Discovery.sampleVolumes) = ["v"] := by decide +kernel
    have wellFormed : recovering.state.services.ec2.script.All Ec2.Reply.wellFormed := by
      simp [recovering, Script.All, Ec2.Reply.wellFormed, Ec2.Answer.wellFormed, Ec2.Answer.volumes,
        Json.holds, Json.find?, Json.nullOr, Json.listsObjects]
    obtain ⟨made, asked, -, -, contract⟩ := reclaim_error_contract none 2 30 recovering
      (by decide +kernel) (fun process ending _ => by cases ending; exact legible_sample)
      wellFormed (ne_turnLimit_of_way way)
    rw [listed, tracked] at contract
    exact ⟨way, made, asked, contract⟩

end VolumeReclaim
