import VolumeReclaim.Json.Key

/-!
Persistent volumes: the fields that a run reads or clears, and how they are taken from the
cluster's own description of a volume. Absent, null and empty containers read alike.
-/
set_option autoImplicit false

namespace VolumeReclaim

/-- The fields of a persistent volume that matter here. The cluster is expected to hold texts in
them, but a field keeps whatever it holds. -/
structure PersistentVolume where
  name : Json
  annotations : Json := .obj []
  finalizers : Json := .arr []
  csiVolumeHandle : Json := .null
  ebsVolumeId : Json := .null
deriving Inhabited

namespace PersistentVolume

/-- The member of an object inside another one, where the outer member may be absent or stand for
nothing. -/
def innerMember (outer inner : String) (content : Json) : Except ShapeFault Json := do
  let holder ← content.memberOr outer .null
  (holder.orElse (.obj [])).memberOr inner .null

def ofJson (description : Json) : Except ShapeFault PersistentVolume := do
  let metadata ← description.memberOr "metadata" (.obj [])
  let spec ← description.memberOr "spec" (.obj [])
  let name ← metadata.memberOr "name" (.str "")
  let annotations ← metadata.memberOr "annotations" .null
  let annotations ← (annotations.orElse (.obj [])).toObject
  let finalizers ← metadata.memberOr "finalizers" .null
  let finalizers ← (finalizers.orElse (.arr [])).parts
  let csiVolumeHandle ← innerMember "csi" "volumeHandle" spec
  let ebsVolumeId ← innerMember "awsElasticBlockStore" "volumeID" spec
  return ⟨name, annotations, .arr finalizers, csiVolumeHandle, ebsVolumeId⟩

/-- The persistent volumes of a listing, in order. One that cannot be taken refuses all. -/
def ofListing (listing : Json) : Except ShapeFault (List PersistentVolume) := do
  let items ← listing.memberOr "items" (.arr [])
  (← items.parts).mapM ofJson

end PersistentVolume

end VolumeReclaim
