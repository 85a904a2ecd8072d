import VolumeReclaim.PersistentVolume.Provisioner

/-!
Persistent volumes whose fields hold texts, as a cluster describes them. The id of the EBS volume
behind such a volume is a text as well, and looking for it never meets a faulty shape.
-/
set_option autoImplicit false

namespace VolumeReclaim

def Json.isText : Json → Bool
  | .str _ => true
  | _ => false

def Json.isTextOrNull : Json → Bool
  | .str _ | .null => true
  | _ => false

theorem Json.eq_str_of_isText {content : Json} (text : content.isText) :
    ∃ value, content = .str value := by
  cases content with
  | str value => exact ⟨value, rfl⟩
  | _ => simp [isText] at text

theorem Json.null_or_str {content : Json} (typed : content.isTextOrNull) :
    content = .null ∨ ∃ value, content = .str value := by
  cases content with
  | null => exact .inl rfl
  | str value => exact .inr ⟨value, rfl⟩
  | _ => simp [isTextOrNull] at typed

theorem Json.isText_find? {members : List (String × Json)} {name : String} {value : Json}
    (texts : members.all (·.2.isText)) (found : find? name members = some value) :
    value.isText := by
  induction members with
  | nil => simp [find?] at found
  | cons entry rest ih =>
    rw [List.all_cons, Bool.and_eq_true] at texts
    rw [find?] at found
    split at found
    · rw [← Option.some.inj found]
      exact texts.1
    · exact ih texts.2 found

namespace PersistentVolume

/-- Whether the name and the ids of a volume are texts, where an id may be missing. -/
def identified (volume : PersistentVolume) : Bool :=
  volume.name.isText && volume.csiVolumeHandle.isTextOrNull && volume.ebsVolumeId.isTextOrNull

/-- Whether the annotations of a volume are texts by name. -/
def annotated (volume : PersistentVolume) : Bool :=
  match volume.annotations with
  | .obj members => members.all (·.2.isText)
  | _ => false

/-- Whether the name, the ids and the annotations of a volume are texts. -/
def wellTyped (volume : PersistentVolume) : Bool :=
  volume.identified && volume.annotated

/-- The id of the EBS volume behind a persistent volume, if there is one and it is a text. -/
def ebsId? (volume : PersistentVolume) : Option String :=
  match volume.volumeId with
  | .ok (some (.str id)) => some id
  | _ => none

def onEbs (volume : PersistentVolume) : Bool :=
  volume.ebsId?.isSome

/-- Whether the search for an id comes to an end, with a text or without an id. -/
def Readable (volume : PersistentVolume) : Prop :=
  volume.volumeId = .ok (volume.ebsId?.map .str)

theorem volumeId_eq (volume : PersistentVolume) :
    volume.volumeId =
      (volume.provisioner.bind fun
        | .csi => .ok volume.csiVolumeHandle
        | .inTree => inTreeVolumeId volume.ebsVolumeId
        | .unrecognized => .ok .null).map
      fun candidate => if candidate.isPresent then some candidate else none := by
  rw [volumeId]
  cases volume.provisioner with
  | error fault => rfl
  | ok kind =>
    cases kind with
    | csi => rfl
    | unrecognized => rfl
    | inTree => cases inTreeVolumeId volume.ebsVolumeId <;> rfl

theorem inTreeVolumeId_isTextOrNull {field : Json} (typed : field.isTextOrNull) :
    ∃ candidate, inTreeVolumeId field = .ok candidate ∧ candidate.isTextOrNull := by
  obtain rfl | ⟨path, rfl⟩ := Json.null_or_str typed
  · exact ⟨.null, rfl, rfl⟩
  · by_cases present : (Json.str path).isPresent
    · exact ⟨.str (lastSegment path), by rw [inTreeVolumeId, if_pos present], rfl⟩
    · exact ⟨.str path, by rw [inTreeVolumeId, if_neg present], rfl⟩

theorem readable_of_provisioner {volume : PersistentVolume} {kind : Provisioner}
    (identified : volume.identified) (known : volume.provisioner = .ok kind) :
    volume.Readable := by
  simp only [PersistentVolume.identified, Bool.and_eq_true] at identified
  obtain ⟨⟨-, handle⟩, field⟩ := identified
  have candidates : ∃ candidate : Json, candidate.isTextOrNull ∧ volume.volumeId =
      .ok (if candidate.isPresent then some candidate else none) := by
    rw [volumeId_eq, known]
    cases kind with
    | csi => exact ⟨volume.csiVolumeHandle, handle, rfl⟩
    | unrecognized => exact ⟨.null, rfl, rfl⟩
    | inTree =>
      obtain ⟨candidate, taken, typed⟩ := inTreeVolumeId_isTextOrNull field
      exact ⟨candidate, typed, by simp [Except.bind, Except.map, taken]⟩
  obtain ⟨candidate, typed, found⟩ := candidates
  rw [Readable, ebsId?, found]
  obtain rfl | ⟨id, rfl⟩ := Json.null_or_str typed
  · rfl
  · cases (Json.str id).isPresent <;> rfl

theorem readable_of_volumeId {volume : PersistentVolume} {id : Option Json}
    (identified : volume.identified) (found : volume.volumeId = .ok id) : volume.Readable := by
  cases known : volume.provisioner with
  | ok kind => exact readable_of_provisioner identified known
  | error fault =>
    rw [volumeId_eq, known] at found
    simp [Except.bind, Except.map] at found

theorem readable_of_wellTyped {volume : PersistentVolume} (typed : volume.wellTyped) :
    volume.Readable := by
  rw [wellTyped, Bool.and_eq_true] at typed
  have annotations := typed.2
  unfold annotated at annotations
  split at annotations
  · next members held =>
    have plugin : ∃ name, volume.provisionedBy = .ok (.str name) := by
      have looked : volume.provisionedBy =
          .ok ((Json.find? provisionedByAnnotation members).getD (.str "")) := by
        rw [provisionedBy, held]
        rfl
      cases found : Json.find? provisionedByAnnotation members with
      | none => exact ⟨"", by rw [looked, found]; rfl⟩
      | some value =>
        obtain ⟨name, text⟩ := Json.eq_str_of_isText (Json.isText_find? annotations found)
        exact ⟨name, by rw [looked, found, text]; rfl⟩
    obtain ⟨name, named⟩ := plugin
    have known : volume.provisioner = .ok (.ofName name) := by
      rw [provisioner, named]
      rfl
    exact readable_of_provisioner typed.1 known
  · simp at annotations

theorem forall_readable {volumes : List PersistentVolume}
    (typed : ∀ volume ∈ volumes, volume.wellTyped = true) : ∀ volume ∈ volumes, volume.Readable :=
  fun volume member => readable_of_wellTyped (typed volume member)

end PersistentVolume

end VolumeReclaim
