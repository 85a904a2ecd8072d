import VolumeReclaim.Proofs.DescribedVolume
import VolumeReclaim.Proofs.InvocationJournal

/-!
What a listing comes to, whatever kubectl does. It gives volumes exactly if the invocation ends well
and prints a listing, and it fails as kubectl does exactly if the invocation fails or prints no
JSON. What is left is JSON beyond the limits of its reader and JSON that is no listing: neither
gives volumes, and neither is a failure of kubectl. Lone surrogates in the text are read as U+FFFD,
so that listings that differ in nothing else are one listing here.
-/
set_option autoImplicit false

namespace VolumeReclaim

namespace Json

def emptyOr (shape : Json → Bool) (content : Json) : Bool :=
  !content.isPresent || shape content

def hasParts : Json → Bool
  | .arr _ | .str _ | .obj _ => true
  | _ => false

/-- Whether a value has two parts of which the first can be a key. -/
def isPair : Json → Bool
  | .arr [key, _] => key.isKey
  | .str text => text.toList.length == 2
  | .obj members => members.length == 2
  | _ => false

def isEntries : Json → Bool
  | .obj _ => true
  | .arr items => items.all isPair
  | _ => false

theorem holds_obj {members : List (String × Json)} {name : String} {shape : Json → Bool}
    (default : Json) (fallback : shape default = true) :
    (Json.obj members).holds name shape = shape ((find? name members).getD default) := by
  rw [holds]
  cases find? name members with
  | none => exact fallback.symm
  | some value => rfl

theorem memberOr_obj (members : List (String × Json)) (name : String) (default : Json) :
    (Json.obj members).memberOr name default = .ok ((find? name members).getD default) :=
  rfl

theorem isOk_memberOr (content : Json) (name : String) (default : Json) :
    (content.memberOr name default).isOk = content.isObject := by
  cases content <;> rfl

theorem isOk_parts (content : Json) : content.parts.isOk = content.hasParts := by
  cases content <;> rfl

theorem isOk_mapM {α β ε : Type} (step : α → Except ε β) (items : List α) :
    (items.mapM step).isOk = items.all fun item => (step item).isOk := by
  induction items with
  | nil => rfl
  | cons item rest ih =>
    rw [List.mapM_cons, List.all_cons, ← ih]
    cases step item with
    | error fault => rfl
    | ok value => cases rest.mapM step <;> rfl

theorem isOk_entry (item : Json) : (entry item).isOk = item.isPair := by
  have key : ∀ content : Json, content.asKey.isOk = content.isKey := by
    intro content
    unfold asKey
    cases content.isKey <;> rfl
  have pair : ∀ first second : Json,
      (do return (← first.asKey, second) : Except ShapeFault (Json × Json)).isOk =
        first.isKey := by
    intro first second
    rw [← key first]
    cases first.asKey <;> rfl
  cases item with
  | arr elements =>
    match elements with
    | [] | [_] | _ :: _ :: _ :: _ => rfl
    | [first, second] => exact pair first second
  | str text =>
    rw [entry, parts, isPair]
    match text.toList with
    | [] | [_] | [_, _] | _ :: _ :: _ :: _ => rfl
  | obj members =>
    match members with
    | [] | [_] | [_, _] | _ :: _ :: _ :: _ => rfl
  | _ => rfl

theorem isOk_toObject (content : Json) :
    (content.orElse (.obj [])).toObject.isOk = content.emptyOr isEntries := by
  rw [emptyOr]
  rcases orElse_cases content (.obj []) with ⟨same, present⟩ | ⟨same, absent⟩
  · rw [same, present, Bool.not_true, Bool.false_or]
    have entries : ∀ items : List Json, (Json.arr items).toObject.isOk = items.all isPair := by
      intro items
      have read := isOk_mapM entry items
      simp only [isOk_entry] at read
      rw [← read]
      change ((items.mapM entry).bind _).isOk = _
      cases items.mapM entry <;> rfl
    cases content with
    | obj members => rfl
    | arr items => exact entries items
    | str text =>
      refine (entries _).trans ?_
      cases spelled : text.toList with
      | nil => simp [isPresent, String.toList_eq_nil_iff.mp spelled] at present
      | cons c rest => simp [isPair, isEntries]
    | _ => rfl
  · rw [same, absent]
    rfl

end Json

namespace PersistentVolume

def takesMetadata (metadata : Json) : Bool :=
  metadata.holds "annotations" (Json.emptyOr Json.isEntries) &&
    metadata.holds "finalizers" (Json.emptyOr Json.hasParts)

def takesSpec (spec : Json) : Bool :=
  spec.holds "csi" (Json.emptyOr Json.isObject) &&
    spec.holds "awsElasticBlockStore" (Json.emptyOr Json.isObject)

/-- Whether a value can be read as the description of a persistent volume. -/
def takes (description : Json) : Bool :=
  description.holds "metadata" takesMetadata && description.holds "spec" takesSpec

/-- Whether the items of a listing can be read. Without items, they may be an empty text or an empty
object as well as an empty array. -/
def takesItems : Json → Bool
  | .arr items => items.all takes
  | .str text => text == ""
  | .obj members => members.isEmpty
  | _ => false

def isListing (listing : Json) : Bool :=
  listing.holds "items" takesItems

theorem isOk_innerMember (outer inner : String) (spec : Json) :
    (innerMember outer inner spec).isOk = spec.holds outer (Json.emptyOr Json.isObject) := by
  cases spec with
  | obj members =>
    have opened : innerMember outer inner (.obj members) =
        (((Json.find? outer members).getD .null).orElse (.obj [])).memberOr inner .null := rfl
    rw [opened, Json.isOk_memberOr, Json.holds_obj .null rfl, Json.emptyOr]
    rcases Json.orElse_cases ((Json.find? outer members).getD .null) (.obj []) with
      ⟨same, present⟩ | ⟨same, absent⟩
    · rw [same, present]
      rfl
    · rw [same, absent]
      rfl
  | _ => rfl

theorem isOk_finalizers (content : Json) :
    (content.orElse (.arr [])).parts.isOk = content.emptyOr Json.hasParts := by
  rw [Json.emptyOr, Json.isOk_parts]
  rcases Json.orElse_cases content (.arr []) with ⟨same, present⟩ | ⟨same, absent⟩
  · rw [same, present]
    rfl
  · rw [same, absent]
    rfl

theorem isOk_ofJson (description : Json) : (ofJson description).isOk = takes description := by
  cases description with
  | obj members =>
    rw [takes, Json.holds_obj (.obj []) rfl, Json.holds_obj (.obj []) rfl]
    unfold ofJson
    simp only [Json.memberOr_obj]
    generalize (Json.find? "metadata" members).getD (.obj []) = metadata
    generalize (Json.find? "spec" members).getD (.obj []) = spec
    cases metadata with
    | obj entries =>
      rw [takesMetadata, takesSpec, Json.holds_obj .null rfl,
        Json.holds_obj .null rfl, ← Json.isOk_toObject, ← isOk_finalizers,
        ← isOk_innerMember "csi" "volumeHandle", ← isOk_innerMember _ "volumeID"]
      simp only [Json.memberOr_obj, bind, Except.bind]
      generalize Json.toObject _ = annotations
      generalize Json.parts _ = finalizers
      generalize innerMember "csi" _ spec = handle
      generalize innerMember "awsElasticBlockStore" _ spec = field
      cases annotations <;> cases finalizers <;> cases handle <;> cases field <;> rfl
    | _ => rfl
  | _ => rfl

theorem isOk_ofListing (listing : Json) : (ofListing listing).isOk = isListing listing := by
  cases listing with
  | obj members =>
    rw [isListing, Json.holds_obj (.arr []) rfl]
    unfold ofListing
    simp only [Json.memberOr_obj]
    generalize (Json.find? "items" members).getD (.arr []) = items
    have read : ∀ elements : List Json, (elements.mapM ofJson).isOk = elements.all takes := by
      intro elements
      have each := Json.isOk_mapM ofJson elements
      simpa only [isOk_ofJson] using each
    cases items with
    | arr elements => exact read elements
    | str text =>
      refine (read _).trans ?_
      cases spelled : text.toList with
      | nil => simp [takesItems, String.toList_eq_nil_iff.mp spelled]
      | cons c rest =>
        have some : text ≠ "" := by
          rintro rfl
          simp at spelled
        simp [takesItems, takes, Json.holds, some]
    | obj entries =>
      refine (read _).trans ?_
      cases entries with
      | nil => rfl
      | cons entry rest => rfl
    | _ => rfl
  | _ => rfl

end PersistentVolume

namespace Kubectl

/-- The text that a listing is read from, if its invocation ended well. Where nothing was printed,
it is that of an empty object. -/
def Ending.output? : Ending → Option String
  | .completed process =>
    if process.succeeded then
      match process.stdout.orElse (.str "\x7b\x7d") with
      | .str text => some text
      | _ => none
    else none
  | _ => none

def decode (levels : Nat) (text : String) : Except VolumeReclaim.Failure (List PersistentVolume) :=
  match Json.parse levels text with
  | .ok listing => shaped (PersistentVolume.ofListing listing)
  | .error (.malformed fault line column offset) =>
    .error (.kubectl (.unreadable fault line column offset))
  | .error .integerTooLong => .error (.shape .integerTooLong)
  | .error .nestedTooDeep => .error (.shape .nestedTooDeep)

theorem readListing_of_text {levels : Nat} {stdout : Json} {text : String}
    (read : stdout.orElse (.str "\x7b\x7d") = .str text) :
    readListing levels stdout = decode levels text := by
  rw [readListing, read]
  rfl

/-- What a listing that is read so many levels deep comes to beside the ending of its invocation:
volumes, a failure of kubectl, or a fault that is not reported as kubectl's. -/
structure Listed (levels : Nat) (ending : Ending)
    (outcome : Except VolumeReclaim.Failure (List PersistentVolume)) : Prop where
  volumes : (∃ volumes, outcome = .ok volumes) ↔
    ∃ text listing, ending.output? = some text ∧ Json.parse levels text = .ok listing ∧
      PersistentVolume.isListing listing = true
  refused : (∃ cause, outcome = .error (.kubectl cause)) ↔ ending.succeeded = false ∨
    ∃ text violation line column offset, ending.output? = some text ∧
      Json.parse levels text = .error (.malformed violation line column offset)
  escaped : (∃ fault, outcome = .error (.shape fault)) ↔ ∃ text, ending.output? = some text ∧
    (Json.parse levels text = .error .integerTooLong ∨
      Json.parse levels text = .error .nestedTooDeep ∨
      ∃ listing, Json.parse levels text = .ok listing ∧ PersistentVolume.isListing listing = false)
  nothingElse : ∀ failure, outcome = .error failure →
    (∃ cause, failure = .kubectl cause) ∨ ∃ fault, failure = .shape fault

theorem listed_failed {levels : Nat} {ending : Ending} (bad : ending.succeeded = false)
    (cause : Failure) : Listed levels ending (.error (.kubectl cause)) := by
  have silent : ending.output? = none := by
    cases ending with
    | completed process =>
      rw [Ending.succeeded] at bad
      simp [Ending.output?, bad]
    | _ => rfl
  constructor <;> simp [silent, bad]

theorem listed_printed {levels : Nat} {ending : Ending} {text : String}
    (well : ending.succeeded = true) (printed : ending.output? = some text) :
    Listed levels ending (decode levels text) := by
  rw [decode]
  cases parsed : Json.parse levels text with
  | error fault =>
    cases fault <;> constructor <;> simp [printed, well, parsed]
  | ok listing =>
    have taken := PersistentVolume.isOk_ofListing listing
    dsimp only
    cases read : PersistentVolume.ofListing listing with
    | ok volumes =>
      rw [read] at taken
      have usable : PersistentVolume.isListing listing = true := taken.symm
      constructor <;> simp [shaped, printed, well, parsed, usable]
    | error fault =>
      rw [read] at taken
      have unusable : PersistentVolume.isListing listing = false := taken.symm
      constructor <;> simp [shaped, printed, well, parsed, unusable]

theorem output?_of_read {process : Completed} {text : String} (well : process.succeeded = true)
    (read : process.stdout.orElse (.str "\x7b\x7d") = .str text) :
    (Ending.completed process).output? = some text := by
  rw [Ending.output?, if_pos well, read]

theorem read_of_typed {stdout : Json} (typed : stdout.isTextOrNull = true) :
    ∃ text, stdout.orElse (.str "\x7b\x7d") = .str text := by
  obtain missing | ⟨text, held⟩ := Json.null_or_str typed
  · exact ⟨_, by rw [missing]; rfl⟩
  · rw [held, Json.orElse]
    split
    · exact ⟨text, rfl⟩
    · exact ⟨_, rfl⟩

/-- However its invocation ends, a listing gives volumes exactly if a listing was printed, and fails
as kubectl does exactly if the invocation failed or printed no JSON. JSON that is no listing, or is
too much for its reader, makes for a fault that is no failure of kubectl. -/
theorem list_listed {τ : Type} [Time τ] (context : Json) (world : World τ)
    (formed : world.services.kubectl.nextEnding.wellFormed = true) :
    Listed world.services.kubectl.levels world.services.kubectl.nextEnding
      (list context world).1 := by
  generalize given : world.services.kubectl.nextEnding = ending at formed ⊢
  by_cases well : ending.succeeded = true
  · cases ending with
    | completed process =>
      simp only [Ending.wellFormed, Bool.and_eq_true] at formed
      obtain ⟨text, read⟩ := read_of_typed formed.1.2
      rw [list_of_completed context given well, readListing_of_text read]
      exact listed_printed well (output?_of_read well read)
    | _ => cases well
  · have bad := Bool.eq_false_iff.mpr well
    have asked : Command.list.arguments ≠ [] := List.cons_ne_nil _ _
    obtain ⟨cause, reason⟩ := failure_of_wellFormed asked formed
    rw [list, execute_eq, given, verdict_of_failed _ bad, reason]
    exact listed_failed bad cause

/-- A world in which a listing prints JSON that is no listing. -/
def printsArray : World Rat :=
  ⟨.create 0 (some 60) none,
    { kubectl := { replies := [{ ending := .completed { stdout := .str "[]" } }] } }⟩

theorem list_listed_array :
    Listed usualLevels printsArray.services.kubectl.nextEnding (list .null printsArray).1 ∧
      ∃ fault, (list .null printsArray).1 = .error (.shape fault) := by
  have listed := list_listed .null printsArray rfl
  exact ⟨listed, listed.escaped.mpr ⟨"[]", rfl, .inr (.inr ⟨.arr [], rfl, rfl⟩)⟩⟩

end Kubectl

end VolumeReclaim
