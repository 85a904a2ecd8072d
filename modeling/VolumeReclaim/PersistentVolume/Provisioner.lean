import VolumeReclaim.PersistentVolume.Basic

/-!
Which plugin provisioned a persistent volume, and the id of the EBS volume behind it. The id is
taken from the field of that plugin only.
-/
set_option autoImplicit false

namespace VolumeReclaim

def provisionedByAnnotation : String := "pv.kubernetes.io/provisioned-by"

def csiProvisioners : List String := ["aws-ebs-csi-driver", "ebs.csi.aws.com"]

def inTreeProvisioners : List String := ["kubernetes.io/aws-ebs"]

inductive Provisioner where
  | csi
  | inTree
  | unrecognized
deriving DecidableEq, Repr

def Provisioner.label : Provisioner → String
  | .csi => "csi"
  | .inTree => "in-tree"
  | .unrecognized => "unrecognized"

def Provisioner.ofName (name : String) : Provisioner :=
  if name ∈ csiProvisioners then .csi
  else if name ∈ inTreeProvisioners then .inTree
  else .unrecognized

def lastSegment (path : String) : String :=
  String.ofList (path.toList.reverse.takeWhile (· ≠ '/')).reverse

namespace PersistentVolume

def provisionedBy (volume : PersistentVolume) : Except ShapeFault Json :=
  volume.annotations.memberOr provisionedByAnnotation (.str "")

def provisioner (volume : PersistentVolume) : Except ShapeFault Provisioner := do
  match ← (← volume.provisionedBy).asKey with
  | .str name => return .ofName name
  | _ => return .unrecognized

/-- The id in the in-tree plugin's field, which is a path or the id itself. -/
def inTreeVolumeId (field : Json) : Except ShapeFault Json :=
  if field.isPresent then
    match field with
    | .str path => .ok (.str (lastSegment path))
    | _ => .error .segmentOfNonText
  else .ok field

/-- The id of the EBS volume behind a persistent volume. Without one the volume is either not on
EBS or lacks the field that should hold the id, and is none of this library's business. -/
def volumeId (volume : PersistentVolume) : Except ShapeFault (Option Json) := do
  let candidate ← match ← volume.provisioner with
    | .csi => pure volume.csiVolumeHandle
    | .inTree => inTreeVolumeId volume.ebsVolumeId
    | .unrecognized => pure .null
  return if candidate.isPresent then some candidate else none

end PersistentVolume

end VolumeReclaim
