import VolumeReclaim.Proofs.InvocationJournal
import VolumeReclaim.Proofs.ReadBack

/-!
A listing gives back what was written into it. The values under `items` are read as they were, and
then a volume is taken from each of them in order, up to the first from which none can be taken.
-/
set_option autoImplicit false

namespace VolumeReclaim

namespace Json

theorem spaced_around {blanks : List Char} (blank : blanks.all isSpace = true)
    (tokens : List Token) : Spaced tokens (tokens.flatMap fun token => blanks ++ token) := by
  have widened : ∀ {tokens : List Token} {text : List Char}, Spaced tokens text →
      Spaced tokens (blanks ++ text) := by
    intro tokens text spaced
    induction blanks with
    | nil => exact spaced
    | cons c rest ih =>
      obtain ⟨first, others⟩ := Bool.and_eq_true_iff.mp blank
      exact (ih others).space c first
  induction tokens with
  | nil => exact .nil
  | cons token rest ih =>
    rw [List.flatMap_cons, List.append_assoc]
    exact widened (ih.token token)

end Json

namespace PersistentVolume

/-- What decoding some values one after the other comes to: a volume for each, or the fault of the
first that is refused. -/
inductive Decoded : List Json → Except Failure (List PersistentVolume) → Prop where
  | all {items : List Json} {volumes : List PersistentVolume}
    (each : List.Forall₂ (fun item volume => ofJson item = .ok volume) items volumes) :
    Decoded items (.ok volumes)
  | stopped {before : List Json} {item : Json} {fault : ShapeFault} (after : List Json)
    (taken : ∀ earlier ∈ before, ∃ volume, ofJson earlier = .ok volume)
    (refused : ofJson item = .error fault) :
    Decoded (before ++ item :: after) (.error (.shape fault))

theorem Decoded.cons {first : Json} {volume : PersistentVolume} {items : List Json}
    (taken : ofJson first = .ok volume) {outcome : Except Failure (List PersistentVolume)}
    (decoded : Decoded items outcome) : Decoded (first :: items) (outcome.map (volume :: ·)) := by
  cases decoded with
  | all each => exact .all (.cons taken each)
  | stopped after earlier refused =>
    exact .stopped after (List.forall_mem_cons.mpr ⟨⟨volume, taken⟩, earlier⟩) refused

theorem decoded_mapM (items : List Json) : Decoded items (shaped (items.mapM ofJson)) := by
  induction items with
  | nil => exact .all .nil
  | cons first rest ih =>
    rw [List.mapM_cons]
    cases taken : ofJson first with
    | error fault => exact .stopped rest (List.forall_mem_nil _) taken
    | ok volume =>
      have decoded := ih.cons taken
      cases others : rest.mapM ofJson <;> rwa [others] at decoded

/-- The description of a cluster: its volumes' descriptions, in order. -/
def listing (items : List Json) : Json :=
  .obj [("items", .arr items)]

theorem ofListing_listing (items : List Json) : ofListing (listing items) = items.mapM ofJson :=
  rfl

end PersistentVolume

namespace Kubectl

open PersistentVolume

variable {τ : Type} [Time τ]

theorem ne_empty_of_parse {levels : Nat} {text : String} {content : Json}
    (parsed : Json.parse levels text = .ok content) : text ≠ "" := by
  rintro rfl
  cases levels <;> cases parsed

theorem readListing_of_parse {levels : Nat} {text : String} {listing : Json}
    (parsed : Json.parse levels text = .ok listing) :
    readListing levels (.str text) = shaped (ofListing listing) := by
  have present : (Json.str text).isPresent = true := by
    simp [Json.isPresent, ne_empty_of_parse parsed]
  rw [readListing, Json.orElse, if_pos present]
  dsimp only
  rw [parsed]

/-- However the tokens of a listing are spaced, what is listed are the volumes of its items in
order, or the fault of the first item that is refused. The text that is written of the listing is
one of those. -/
theorem list_decodes (context : Json) (world : World τ) {items : List Json}
    (plain : Json.Plain world.services.kubectl.levels (listing items)) {text : String}
    {process : Completed}
    (ending : world.services.kubectl.nextEnding = .completed process)
    (well : process.succeeded = true) (printed : process.stdout = .str text)
    (spaced : Json.Spaced (listing items).tokens text.toList) :
    Json.Spaced (listing items).tokens (listing items).render.toList ∧
      Decoded items (list context world).1 := by
  refine ⟨Json.spaced_render _, ?_⟩
  have parsed := Json.parse_of_spaced plain spaced
  rw [list_of_completed context ending well, printed, readListing_of_parse parsed,
    ofListing_listing]
  exact decoded_mapM items

/-- A description with a quote, a backslash, a line break and a character beyond the first plane in
its name, and then something that describes no volume. -/
def oddItems : List Json := [
  .obj [("metadata", .obj [("name", .str "\"\\\n𝄞"), ("finalizers", .arr [])]),
    ("spec", .obj [("capacity", .arr [.int (-12), .bool true, .null])])],
  .int 7,
  .obj []]

def oddText : String :=
  String.ofList ((listing oddItems).tokens.flatMap fun token => ['\n', '\t'] ++ token)

def printsOdd : World Rat :=
  ⟨.create 0 (some 60) none,
    { kubectl := { replies := [{ ending := .completed { stdout := .str oddText } }] } }⟩

theorem plain_oddListing : Json.Plain usualLevels (listing oddItems) := by
  have described : ∀ item ∈ oddItems, Json.Plain 978 item := by
    simp only [oddItems, List.forall_mem_cons, List.not_mem_nil, false_implies, implies_true,
      and_true]
    refine ⟨.obj (by decide) ?_, .int _ (by decide), .obj (by decide) (List.forall_mem_nil _)⟩
    refine List.forall_mem_cons.mpr ⟨.obj (by decide) ?_, List.forall_mem_singleton.mpr ?_⟩
    · exact List.forall_mem_cons.mpr
        ⟨.str _ _, List.forall_mem_singleton.mpr (.arr (List.forall_mem_nil _))⟩
    · refine .obj (by decide) (List.forall_mem_singleton.mpr (.arr ?_))
      exact List.forall_mem_cons.mpr ⟨.int _ (by decide),
        List.forall_mem_cons.mpr ⟨.bool _ _, List.forall_mem_singleton.mpr (.null _)⟩⟩
  exact .obj (by decide) (List.forall_mem_singleton.mpr (.arr described))

theorem list_decodes_odd :
    printsOdd.services.kubectl.nextEnding = .completed { stdout := .str oddText } ∧
      Json.Spaced (listing oddItems).tokens (listing oddItems).render.toList ∧
      Decoded oddItems (list .null printsOdd).1 := by
  have spaced : Json.Spaced (listing oddItems).tokens oddText.toList := by
    rw [oddText, String.toList_ofList]
    exact Json.spaced_around rfl _
  exact ⟨rfl, list_decodes .null printsOdd plain_oddListing rfl rfl rfl spaced⟩

end Kubectl

end VolumeReclaim
