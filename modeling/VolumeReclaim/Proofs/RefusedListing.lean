import VolumeReclaim.Proofs.DecodedListing
import VolumeReclaim.Proofs.ListingOutcome
import VolumeReclaim.Proofs.MutationTrace
import VolumeReclaim.Proofs.Phases

/-!
A listing is decoded as a whole before anything is touched. It is refused for a bad ending of its
invocation, for a text that cannot be read, for a wrong shape around the items, or for any one of
the items, however many good ones stand in front. A run whose listing is refused ends with it: no
volume is updated or deleted, EC2 is asked nothing, and nothing is slept or noted.
-/
set_option autoImplicit false

namespace VolumeReclaim

theorem Json.parts_eq_error_iff {content : Json} {fault : ShapeFault} :
    content.parts = .error fault ↔ content.hasParts = false ∧ fault = .elementsOfScalar := by
  cases content <;> simp [parts, hasParts, eq_comm]

namespace PersistentVolume

theorem takes_iff {item : Json} : takes item = true ↔ ∃ volume, ofJson item = .ok volume := by
  rw [← isOk_ofJson]
  cases ofJson item <;> simp [Except.isOk, Except.toBool]

theorem takes_of_refused {item : Json} {fault : ShapeFault} (refused : ofJson item = .error fault) :
    takes item = false := by
  rw [← isOk_ofJson, refused]
  rfl

/-- What stands for the items in the members of a listing. Without any, there are none. -/
def itemsIn (members : List (String × Json)) : Json :=
  (Json.find? "items" members).getD (.arr [])

/-- Ways in which a value is no listing of persistent volumes, each with its fault. -/
inductive Misshapen : Json → ShapeFault → Prop where
  | notObject {listing : Json} (other : listing.isObject = false) :
      Misshapen listing .memberOfNonObject
  | noItems {members : List (String × Json)} (scalar : (itemsIn members).hasParts = false) :
      Misshapen (.obj members) .elementsOfScalar
  /-- One item cannot be read as the description of a volume, all those before it can. -/
  | badItem {members : List (String × Json)} {before : List Json} {item : Json}
      (after : List Json) {fault : ShapeFault}
      (listed : (itemsIn members).parts = .ok (before ++ item :: after))
      (taken : ∀ earlier ∈ before, takes earlier = true) (bad : takes item = false)
      (refused : ofJson item = .error fault) : Misshapen (.obj members) fault

theorem ofListing_obj (members : List (String × Json)) :
    ofListing (.obj members) = (itemsIn members).parts.bind fun items => items.mapM ofJson :=
  rfl

theorem mapM_eq_error {before : List Json} {item : Json} {fault : ShapeFault} (after : List Json)
    (taken : ∀ earlier ∈ before, takes earlier = true) (refused : ofJson item = .error fault) :
    (before ++ item :: after).mapM ofJson = .error fault := by
  induction before with
  | nil =>
    rw [List.nil_append, List.mapM_cons, refused]
    rfl
  | cons first rest ih =>
    obtain ⟨good, others⟩ := List.forall_mem_cons.mp taken
    obtain ⟨volume, given⟩ := takes_iff.mp good
    rw [List.cons_append, List.mapM_cons, given, ih others]
    rfl

theorem ofListing_eq_error_iff {listing : Json} {fault : ShapeFault} :
    ofListing listing = .error fault ↔ Misshapen listing fault := by
  constructor
  · intro refused
    cases listing with
    | obj members =>
      rw [ofListing_obj] at refused
      cases listed : (itemsIn members).parts with
      | error reason =>
        obtain ⟨scalar, rfl⟩ := Json.parts_eq_error_iff.mp listed
        rw [listed] at refused
        cases refused
        exact .noItems scalar
      | ok items =>
        rw [listed] at refused
        have decoded := decoded_mapM items
        rw [show items.mapM ofJson = .error fault from refused] at decoded
        cases decoded with
        | stopped after taken bad =>
          exact .badItem after listed (fun earlier member => takes_iff.mpr (taken earlier member))
            (takes_of_refused bad) bad
    | _ =>
      cases refused
      exact .notObject rfl
  · intro misshapen
    cases misshapen with
    | notObject other =>
      cases listing with
      | obj members => cases other
      | _ => rfl
    | noItems scalar =>
      rw [ofListing_obj, Json.parts_eq_error_iff.mpr ⟨scalar, rfl⟩]
      rfl
    | badItem after listed taken bad refused =>
      rw [ofListing_obj, listed]
      exact mapM_eq_error after taken refused

end PersistentVolume

namespace Kubectl

open PersistentVolume

/-- Ways in which a text is no listing, each with its failure. -/
inductive Undecoded (levels : Nat) (text : String) : VolumeReclaim.Failure → Prop where
  | noJson {violation : Json.Violation} {line column offset : Nat}
      (refused : Json.parse levels text = .error (.malformed violation line column offset)) :
      Undecoded levels text (.kubectl (.unreadable violation line column offset))
  | tooLong (refused : Json.parse levels text = .error .integerTooLong) :
      Undecoded levels text (.shape .integerTooLong)
  | tooDeep (refused : Json.parse levels text = .error .nestedTooDeep) :
      Undecoded levels text (.shape .nestedTooDeep)
  | noListing {listing : Json} {fault : ShapeFault} (parsed : Json.parse levels text = .ok listing)
      (misshapen : Misshapen listing fault) : Undecoded levels text (.shape fault)

theorem decode_eq_error_iff {levels : Nat} {text : String} {failure : VolumeReclaim.Failure} :
    decode levels text = .error failure ↔ Undecoded levels text failure := by
  constructor
  · intro refused
    rw [decode] at refused
    cases parsed : Json.parse levels text with
    | error reason =>
      rw [parsed] at refused
      cases reason with
      | malformed => cases refused; exact .noJson parsed
      | integerTooLong => cases refused; exact .tooLong parsed
      | nestedTooDeep => cases refused; exact .tooDeep parsed
    | ok listing =>
      rw [parsed] at refused
      dsimp only at refused
      cases read : ofListing listing with
      | ok volumes =>
        rw [read] at refused
        cases refused
      | error fault =>
        rw [read] at refused
        cases refused
        exact .noListing parsed (ofListing_eq_error_iff.mp read)
  · intro undecoded
    rw [decode]
    cases undecoded with
    | noJson refused | tooLong refused | tooDeep refused => rw [refused]
    | noListing parsed misshapen =>
      rw [parsed]
      dsimp only
      rw [ofListing_eq_error_iff.mpr misshapen]
      rfl

/-- Ways in which a listing is refused for what its invocation came to, each with its failure. -/
inductive Unlisted (levels : Nat) (ending : Ending) : VolumeReclaim.Failure → Prop where
  /-- It ended with a bad status, timed out or could not be started. -/
  | failed (bad : ending.succeeded = false) :
      Unlisted levels ending (ending.failure Command.list.arguments)
  /-- What it printed is not text. -/
  | noText {process : Completed} (ended : ending = .completed process)
      (well : process.succeeded = true) (some : process.stdout.isPresent = true)
      (other : process.stdout.isTextOrNull = false) :
      Unlisted levels ending (.shape .parseOfNonText)
  | undecoded {text : String} {failure : VolumeReclaim.Failure}
      (printed : ending.output? = some text) (refused : Undecoded levels text failure) :
      Unlisted levels ending failure

theorem readListing_of_other {levels : Nat} {stdout : Json} (some : stdout.isPresent = true)
    (other : stdout.isTextOrNull = false) :
    readListing levels stdout = .error (.shape .parseOfNonText) := by
  rw [readListing, Json.orElse, if_pos some]
  cases stdout with
  | null | str => cases other
  | _ => rfl

theorem unlisted_of_readListing {levels : Nat} {process : Completed}
    {failure : VolumeReclaim.Failure} (well : process.succeeded = true)
    (refused : readListing levels process.stdout = .error failure) :
    Unlisted levels (.completed process) failure := by
  have decoded : ∀ {text}, process.stdout.orElse (.str "\x7b\x7d") = .str text →
      Unlisted levels (.completed process) failure := by
    intro text read
    rw [readListing_of_text read] at refused
    exact .undecoded (output?_of_read well read) (decode_eq_error_iff.mp refused)
  by_cases typed : process.stdout.isTextOrNull = true
  · obtain ⟨text, read⟩ := read_of_typed typed
    exact decoded read
  · have other := Bool.eq_false_iff.mpr typed
    cases some : process.stdout.isPresent with
    | true =>
      rw [readListing_of_other some other] at refused
      cases refused
      exact .noText rfl well some other
    | false => exact decoded (by rw [Json.orElse, some]; rfl)

theorem read_of_output? {ending : Ending} {text : String}
    (printed : ending.output? = some text) :
    ∃ process, ending = .completed process ∧ process.succeeded = true ∧
      process.stdout.orElse (.str "\x7b\x7d") = .str text := by
  cases ending with
  | completed process =>
    rw [Ending.output?] at printed
    split at printed
    · next well =>
      split at printed
      · next read =>
        cases printed
        exact ⟨process, rfl, well, read⟩
      · cases printed
    · cases printed
  | _ => cases printed

section Listing

variable {τ : Type} [Time τ] (context : Json) {world : World τ}

theorem list_of_output? {text : String}
    (printed : world.services.kubectl.nextEnding.output? = some text) :
    (list context world).1 = decode world.services.kubectl.levels text := by
  obtain ⟨process, ended, well, read⟩ := read_of_output? printed
  rw [list_of_completed context ended well, readListing_of_text read]

theorem list_eq_error_iff {failure : VolumeReclaim.Failure} :
    (list context world).1 = .error failure ↔
      Unlisted world.services.kubectl.levels world.services.kubectl.nextEnding failure := by
  constructor
  · intro refused
    by_cases well : world.services.kubectl.nextEnding.succeeded = true
    · obtain ⟨process, ended, -⟩ := verdict_of_succeeded Command.list.arguments well
      rw [ended] at well ⊢
      rw [list_of_completed context ended well] at refused
      exact unlisted_of_readListing well refused
    · have bad := Bool.eq_false_iff.mpr well
      rw [list, execute_eq, verdict_of_failed _ bad] at refused
      cases refused
      exact .failed bad
  · intro unlisted
    cases unlisted with
    | failed bad => rw [list, execute_eq, verdict_of_failed _ bad]
    | noText ended well some other =>
      rw [list_of_completed context ended well, readListing_of_other some other]
    | undecoded printed refused =>
      rw [list_of_output? context printed, decode_eq_error_iff.mpr refused]

end Listing

end Kubectl

/-- A run ended with its listing, which was its only invocation: EC2 was asked nothing, and nothing
was slept or noted. If kubectl failed, that is a failure of the cluster; any other failure stays
what it is. -/
structure EndedWithListing {τ : Type} (context : Json) (failure : Failure)
    (before after : Logged (World τ)) (outcome : Except Failure Unit) : Prop where
  journal : Kubectl.Journaled [⟨Kubectl.commandLine context Kubectl.Command.list.arguments, true,
    before.state.services.kubectl.nextEnding⟩] before.state after.state
  lines : after.lines = before.lines
  cluster : ∀ cause, failure = .kubectl cause → ∃ (details : String) (forbidden : Bool),
    outcome = .error (.cluster s!"{Discovery.Step.list.failed}: {details}" forbidden)
  others : (∀ cause, failure ≠ .kubectl cause) → outcome = .error failure

/-- However a listing is refused, be it for the last of its items, a run with a deadline ends with
it. -/
theorem reclaim_ends_with_listing {τ : Type} [Time τ] (context : Json) (interval : τ) (limit : Nat)
    (run : Logged (World τ)) (held : run.state.context.deadline ≠ none) (failure : Failure) :
    ((Kubectl.list context run.state).1 = .error failure ↔
      Kubectl.Unlisted run.state.services.kubectl.levels run.state.services.kubectl.nextEnding
        failure) ∧
    ((Kubectl.list context run.state).1 = .error failure →
      EndedWithListing context failure run (World.reclaim context interval limit run).2
        (World.reclaim context interval limit run).1) := by
  refine ⟨Kubectl.list_eq_error_iff context, fun unlisted => ?_⟩
  rw [World.reclaim_of_unlisted interval limit held unlisted]
  constructor
  case journal => exact Kubectl.journaled_afterCommand context .list run.state
  case lines => rfl
  case cluster =>
    rintro cause rfl
    obtain ⟨details, forbidden, named⟩ := Discovery.Step.list.failure_kubectl cause
    exact ⟨details, forbidden, congrArg Except.error named⟩
  case others =>
    intro foreign
    cases failure with
    | kubectl cause => exact absurd rfl (foreign cause)
    | _ => rfl

namespace PersistentVolume

def describedOnEbs : Json :=
  .obj [("metadata", .obj [("name", .str "a"),
      ("annotations", .obj [( provisionedByAnnotation, .str "ebs.csi.aws.com")])]),
    ("spec", .obj [("csi", .obj [("volumeHandle", .str "v")])])]

/-- A description in which a source of the volume is no object. -/
def describedBadly : Json :=
  .obj [("metadata", .obj [("name", .str "b")]), ("spec", .obj [("csi", .int 7)])]

def spoiltItems : List Json :=
  [describedOnEbs, describedOnEbs, describedBadly]

theorem plain_describedOnEbs : Json.Plain 978 describedOnEbs := by
  refine .obj (by decide) (List.forall_mem_cons.mpr ⟨?_, List.forall_mem_singleton.mpr ?_⟩)
  · refine .obj (by decide) (List.forall_mem_cons.mpr ⟨.str _ _, List.forall_mem_singleton.mpr ?_⟩)
    exact .obj (by decide) (List.forall_mem_singleton.mpr (.str _ _))
  · refine .obj (by decide) (List.forall_mem_singleton.mpr ?_)
    exact .obj (by decide) (List.forall_mem_singleton.mpr (.str _ _))

theorem plain_describedBadly : Json.Plain 978 describedBadly := by
  refine .obj (by decide) (List.forall_mem_cons.mpr ⟨?_, List.forall_mem_singleton.mpr ?_⟩)
  · exact .obj (by decide) (List.forall_mem_singleton.mpr (.str _ _))
  · exact .obj (by decide) (List.forall_mem_singleton.mpr (.int _ (by decide)))

theorem plain_spoilt : Json.Plain Kubectl.usualLevels (listing spoiltItems) := by
  refine .obj (by decide) (List.forall_mem_singleton.mpr (.arr ?_))
  simp only [spoiltItems, List.forall_mem_cons, List.not_mem_nil, false_implies, implies_true,
    and_true]
  exact ⟨plain_describedOnEbs, plain_describedOnEbs, plain_describedBadly⟩

end PersistentVolume

/-- A run whose cluster lists two volumes on EBS and then something that describes no volume. -/
def spoiltRun : Logged (World Rat) :=
  { state := ⟨.create 0 (some 60) none, { kubectl := { replies :=
      [{ ending := .completed
          { stdout := .str (PersistentVolume.listing PersistentVolume.spoiltItems).render } }] } }⟩ }

theorem reclaim_ends_with_listing_spoilt :
    (PersistentVolume.ofJson PersistentVolume.describedOnEbs).map (·.ebsId?) = .ok (some "v") ∧
      spoiltRun.state.context.deadline ≠ none ∧
      (Kubectl.list .null spoiltRun.state).1 = .error (.shape .memberOfNonObject) ∧
      Kubectl.Unlisted Kubectl.usualLevels spoiltRun.state.services.kubectl.nextEnding
        (.shape .memberOfNonObject) ∧
      EndedWithListing .null (.shape .memberOfNonObject) spoiltRun
        (World.reclaim .null 2 30 spoiltRun).2 (World.reclaim .null 2 30 spoiltRun).1 := by
  have held : spoiltRun.state.context.deadline ≠ none := nofun
  have refused : (Kubectl.list .null spoiltRun.state).1 = .error (.shape .memberOfNonObject) := by
    have parsed := Json.parse_render PersistentVolume.plain_spoilt
    rw [Kubectl.list_of_completed .null rfl rfl]
    calc
      _ = shaped (PersistentVolume.ofListing _) := Kubectl.readListing_of_parse parsed
      _ = shaped (PersistentVolume.spoiltItems.mapM PersistentVolume.ofJson) := rfl
      _ = .error (.shape .memberOfNonObject) := rfl
  obtain ⟨ways, ended⟩ :=
    reclaim_ends_with_listing .null 2 30 spoiltRun held (.shape .memberOfNonObject)
  exact ⟨rfl, held, refused, ways.mp refused, ended refused⟩

end VolumeReclaim
