import VolumeReclaim.Proofs.Shapes
import VolumeReclaim.Proofs.TypedVolume
import VolumeReclaim.World

/-!
Listings as a cluster gives them. Persistent volumes with the types that Kubernetes has for them can
be taken from such a listing, and their ids can be looked for; a listing fails only if it is no
JSON.
-/
set_option autoImplicit false

namespace VolumeReclaim

def Json.isTexts : Json → Bool
  | .obj members => members.all (·.2.isText)
  | _ => false

namespace PersistentVolume

/-- Whether the metadata of a volume has the types that Kubernetes has for them. -/
def describesMetadata (metadata : Json) : Bool :=
  metadata.holds "name" Json.isText &&
    metadata.holds "annotations" (Json.nullOr Json.isTexts) &&
    metadata.holds "finalizers" (Json.nullOr Json.isArray)

/-- Whether a source of a volume, if it has this one, has a text or null for its id. -/
def describesSource (source id : String) (spec : Json) : Bool :=
  spec.holds source (Json.nullOr (Json.holds id Json.isTextOrNull))

def describesSpec (spec : Json) : Bool :=
  describesSource "csi" "volumeHandle" spec &&
    describesSource "awsElasticBlockStore" "volumeID" spec

/-- Whether a value describes a persistent volume with the types that Kubernetes has for it. -/
def describes (description : Json) : Bool :=
  description.holds "metadata" describesMetadata && description.holds "spec" describesSpec

/-- Whether a value is an object whose items describe persistent volumes. -/
def lists (listing : Json) : Bool :=
  listing.holds "items" fun
    | .arr items => items.all describes
    | _ => false

theorem gives_innerMember {source id : String} {spec : Json}
    (typed : describesSource source id spec = true) :
    Gives (innerMember source id spec) (·.isTextOrNull = true) := by
  refine (Json.gives_memberOr typed rfl).bind fun holder held => ?_
  exact Json.gives_memberOr (Json.orElse_shape _ held rfl) rfl

theorem gives_annotations {annotations : Json}
    (typed : annotations.nullOr Json.isTexts = true) :
    Gives (annotations.orElse (.obj [])).toObject (·.isTexts = true) := by
  have texts := Json.orElse_shape (.obj []) typed rfl
  generalize annotations.orElse (.obj []) = content at texts ⊢
  cases content with
  | obj members => exact gives_ok texts
  | _ => cases texts

theorem gives_finalizers {finalizers : Json}
    (typed : finalizers.nullOr Json.isArray = true) :
    Gives (finalizers.orElse (.arr [])).parts fun _ => True := by
  have array := Json.orElse_shape (.arr []) typed rfl
  generalize finalizers.orElse (.arr []) = content at array ⊢
  cases content with
  | arr elements => exact gives_ok trivial
  | _ => cases array

theorem gives_ofJson {description : Json} (described : describes description = true) :
    Gives (ofJson description) (·.wellTyped = true) := by
  rw [describes, Bool.and_eq_true] at described
  refine (Json.gives_memberOr described.1 rfl).bind fun metadata metadataTyped => ?_
  refine (Json.gives_memberOr described.2 rfl).bind fun spec specTyped => ?_
  simp only [describesMetadata, Bool.and_eq_true] at metadataTyped
  obtain ⟨⟨nameTyped, annotationsTyped⟩, finalizersTyped⟩ := metadataTyped
  rw [describesSpec, Bool.and_eq_true] at specTyped
  refine (Json.gives_memberOr nameTyped rfl).bind fun name text => ?_
  refine (Json.gives_memberOr annotationsTyped rfl).bind fun annotations texts => ?_
  refine (gives_annotations texts).bind fun annotations texts => ?_
  refine (Json.gives_memberOr finalizersTyped rfl).bind fun finalizers array => ?_
  refine (gives_finalizers array).bind fun finalizers _ => ?_
  refine (gives_innerMember specTyped.1).bind fun handle handleTyped => ?_
  refine (gives_innerMember specTyped.2).bind fun field fieldTyped => ?_
  have annotated : ∀ content : Json, content.isTexts = true →
      annotated ⟨name, content, .arr finalizers, handle, field⟩ = true := by
    intro content texts
    cases content with
    | obj members => exact texts
    | _ => cases texts
  apply gives_ok
  rw [wellTyped, identified, text, handleTyped, fieldTyped, annotated annotations texts]
  rfl

theorem gives_mapM {items : List Json} (described : items.all describes = true) :
    Gives (items.mapM ofJson) fun volumes => ∀ volume ∈ volumes, volume.wellTyped = true := by
  induction items with
  | nil => exact gives_ok (List.forall_mem_nil _)
  | cons item rest ih =>
    rw [List.all_cons, Bool.and_eq_true] at described
    rw [List.mapM_cons]
    refine (gives_ofJson described.1).bind fun volume first => ?_
    refine (ih described.2).bind fun volumes others => ?_
    exact gives_ok (List.forall_mem_cons.mpr ⟨first, others⟩)

theorem gives_ofListing {listing : Json} (listed : lists listing = true) :
    Gives (ofListing listing) fun volumes => ∀ volume ∈ volumes, volume.wellTyped = true := by
  refine (Json.gives_memberOr listed rfl).bind fun items described => ?_
  cases items with
  | arr elements =>
    have parts : Gives (Json.arr elements).parts (· = elements) := gives_ok rfl
    refine parts.bind fun given same => ?_
    rw [same]
    exact gives_mapM described
  | _ => cases described

end PersistentVolume

namespace Kubectl

def malformed (levels : Nat) (stdout : Json) : Bool :=
  match stdout.orElse (.str "\x7b\x7d") with
  | .str text =>
    match Json.parse levels text with
    | .error (.malformed _ _ _ _) => true
    | _ => false
  | _ => false

/-- Whether the output of a listing is missing, is no JSON at all, or lists described volumes. JSON
beyond the limits of its reader is none of these. -/
def legible (levels : Nat) (stdout : Json) : Bool :=
  match stdout.orElse (.str "\x7b\x7d") with
  | .str text =>
    match Json.parse levels text with
    | .ok listing => PersistentVolume.lists listing
    | .error (.malformed _ _ _ _) => true
    | .error _ => false
  | _ => false

theorem readListing_cases {levels : Nat} {stdout : Json} (clear : legible levels stdout = true) :
    malformed levels stdout = false ∧
        (Gives (readListing levels stdout) fun volumes =>
          ∀ volume ∈ volumes, volume.wellTyped = true) ∨
      malformed levels stdout = true ∧
        ∃ cause, readListing levels stdout = .error (.kubectl cause) := by
  unfold legible at clear
  unfold malformed readListing
  generalize stdout.orElse _ = output at clear ⊢
  cases output with
  | str text =>
    dsimp only at clear ⊢
    cases parsed : Json.parse levels text with
    | ok listing =>
      rw [parsed] at clear
      obtain ⟨volumes, taken, typed⟩ := PersistentVolume.gives_ofListing clear
      exact .inl ⟨rfl, volumes, congrArg shaped taken, typed⟩
    | error fault =>
      rw [parsed] at clear
      cases fault with
      | malformed fault line column offset => exact .inr ⟨rfl, _, rfl⟩
      | _ => cases clear
  | _ => cases clear

end Kubectl

end VolumeReclaim
