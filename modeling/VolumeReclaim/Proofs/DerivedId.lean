import Mathlib.Data.List.TakeWhile
import VolumeReclaim.Proofs.ListingOutcome

/-!
Where the id of a volume comes from. Of all that describes a volume only three texts count: the
plugin that its annotation names, and the field of either plugin. The id is the whole text of the
CSI plugin's field, or what stands behind the last slash in the in-tree plugin's. These are texts
as they were read, without lone surrogates.
-/
set_option autoImplicit false

namespace VolumeReclaim

namespace Json

/-- What stands in nested objects under a path of names, if there is anything. -/
def within? : (path : List String) → Json → Option Json
  | [], content => some content
  | name :: path, .obj members => (find? name members).bind (within? path)
  | _ :: _, _ => none

def text : Json → String
  | .str text => text
  | _ => ""

/-- The text under a path of names, or the empty text if there is none. -/
def textAt (path : List String) (content : Json) : String :=
  ((content.within? path).map text).getD ""

section TextAt

variable {content default value : Json} {path : List String} {name : String}

theorem textAt_of_absent (absent : content.isPresent = false) : content.textAt path = "" := by
  cases path with
  | nil =>
    cases content with
    | str text => simpa [isPresent, textAt, within?, Json.text] using absent
    | _ => rfl
  | cons name path =>
    cases content with
    | obj members =>
      cases members with
      | nil => rfl
      | cons first rest => cases absent
    | _ => rfl

theorem textAt_orElse (silent : default.textAt path = "") :
    (content.orElse default).textAt path = content.textAt path := by
  rcases orElse_cases content default with ⟨same, -⟩ | ⟨same, absent⟩
  · rw [same]
  · rw [same, silent, textAt_of_absent absent]

theorem textAt_memberOr (taken : content.memberOr name default = .ok value)
    (silent : default.textAt path = "") : value.textAt path = content.textAt (name :: path) := by
  cases content with
  | obj members =>
    cases taken
    simp only [textAt, within?]
    cases find? name members with
    | none => exact silent
    | some value => rfl
  | _ => cases taken

theorem textAt_of_within? {spelled : String} (found : content.within? path = some (.str spelled)) :
    content.textAt path = spelled := by
  rw [textAt, found]
  rfl

theorem textAt_eq_iff {spelled : String} (filled : spelled ≠ "") :
    content.textAt path = spelled ↔ content.within? path = some (.str spelled) := by
  rw [textAt]
  cases content.within? path with
  | none => simpa using filled.symm
  | some value => cases value <;> simp [text, filled.symm]

end TextAt

end Json

section LastSegment

variable {path segment : String}

theorem toList_lastSegment (path : String) :
    (lastSegment path).toList = (path.toList.reverse.takeWhile (· ≠ '/')).reverse := by
  rw [lastSegment, String.toList_ofList]

theorem solid_lastSegment (path : String) : '/' ∉ (lastSegment path).toList := by
  rw [toList_lastSegment]
  intro slash
  have other := List.mem_takeWhile_imp (List.mem_reverse.mp slash)
  simp at other

theorem lastSegment_split (path : String) :
    path = lastSegment path ∨ ∃ front, path = front ++ "/" ++ lastSegment path := by
  have whole := List.takeWhile_append_dropWhile (p := (· ≠ '/')) (l := path.toList.reverse)
  have stops := List.head?_dropWhile_not (· ≠ '/') path.toList.reverse
  cases before : path.toList.reverse.dropWhile (· ≠ '/') with
  | nil =>
    left
    rw [before, List.append_nil] at whole
    rw [← String.toList_inj, toList_lastSegment, whole, List.reverse_reverse]
  | cons c rest =>
    right
    rw [before] at whole stops
    have slash : c = '/' := by simpa using stops
    refine ⟨String.ofList rest.reverse, ?_⟩
    rw [← String.toList_inj, ← List.reverse_reverse path.toList, ← whole]
    simp [toList_lastSegment, slash]

theorem lastSegment_of_split (solid : '/' ∉ segment.toList)
    (split : path = segment ∨ ∃ front, path = front ++ "/" ++ segment) :
    lastSegment path = segment := by
  have all : ∀ c ∈ segment.toList.reverse, decide (c ≠ '/') = true := by
    intro c member
    rw [decide_eq_true_eq]
    rintro rfl
    exact solid (List.mem_reverse.mp member)
  rw [← String.toList_inj, toList_lastSegment]
  obtain rfl | ⟨front, rfl⟩ := split
  · rw [List.takeWhile_eq_self_iff.mpr all, List.reverse_reverse]
  · have behind : (front ++ "/" ++ segment).toList.reverse =
        segment.toList.reverse ++ '/' :: front.toList.reverse := by
      simp
    rw [behind, List.takeWhile_append_of_pos all, List.takeWhile_cons_of_neg (by simp),
      List.append_nil, List.reverse_reverse]

theorem lastSegment_eq_iff : lastSegment path = segment ↔
    '/' ∉ segment.toList ∧ (path = segment ∨ ∃ front, path = front ++ "/" ++ segment) := by
  constructor
  · rintro rfl
    exact ⟨solid_lastSegment path, lastSegment_split path⟩
  · rintro ⟨solid, split⟩
    exact lastSegment_of_split solid split

end LastSegment

namespace PersistentVolume

/-- Where a description names the plugin that provisioned its volume. -/
def pluginPath : List String :=
  ["metadata", "annotations", provisionedByAnnotation]

def handlePath : List String :=
  ["spec", "csi", "volumeHandle"]

/-- Where a description has the id, or a path to it, for the in-tree plugin. -/
def fieldPath : List String :=
  ["spec", "awsElasticBlockStore", "volumeID"]

def derivedId (plugin handle field : String) : Option String :=
  let candidate := match Provisioner.ofName plugin with
    | .csi => handle
    | .inTree => lastSegment field
    | .unrecognized => ""
  if candidate = "" then none else some candidate

theorem text_innerMember {outer inner : String} {spec value : Json}
    (taken : innerMember outer inner spec = .ok value) :
    value.text = spec.textAt [outer, inner] := by
  obtain ⟨holder, held, taken⟩ := bind_eq_ok taken
  have inside : value.textAt [] = (holder.orElse (.obj [])).textAt [inner] :=
    Json.textAt_memberOr taken rfl
  rw [Json.textAt_orElse rfl, Json.textAt_memberOr held rfl] at inside
  exact inside

structure Keeps (description : Json) (volume : PersistentVolume) : Prop where
  plugin : volume.provisionedBy = .ok (.str (description.textAt pluginPath))
  handle : volume.csiVolumeHandle.text = description.textAt handlePath
  field : volume.ebsVolumeId.text = description.textAt fieldPath

theorem provisionedBy_of_isTexts {volume : PersistentVolume}
    (texts : volume.annotations.isTexts = true) :
    volume.provisionedBy = .ok (.str (volume.annotations.textAt [ provisionedByAnnotation])) := by
  cases held : volume.annotations with
  | obj members =>
    rw [held] at texts
    rw [provisionedBy, held]
    simp only [Json.memberOr_obj, Json.textAt, Json.within?]
    cases found : Json.find? provisionedByAnnotation members with
    | none => rfl
    | some value =>
      obtain ⟨plugin, rfl⟩ := Json.eq_str_of_isText (Json.isText_find? texts found)
      rfl
  | _ =>
    rw [held] at texts
    cases texts

theorem toObject_of_isTexts {content : Json} (texts : content.isTexts = true) :
    content.toObject = .ok content := by
  cases content with
  | obj members => rfl
  | _ => cases texts

theorem keeps_ofJson {description : Json} (described : describes description = true)
    {volume : PersistentVolume} (taken : ofJson description = .ok volume) :
    Keeps description volume := by
  rw [describes, Bool.and_eq_true] at described
  obtain ⟨metadata, meta_, taken⟩ := bind_eq_ok taken
  obtain ⟨spec, specs, taken⟩ := bind_eq_ok taken
  obtain ⟨name, -, taken⟩ := bind_eq_ok taken
  obtain ⟨found, annotations, taken⟩ := bind_eq_ok taken
  obtain ⟨annotated, entries, taken⟩ := bind_eq_ok taken
  obtain ⟨_, -, taken⟩ := bind_eq_ok taken
  obtain ⟨_, -, taken⟩ := bind_eq_ok taken
  obtain ⟨handle, csi, taken⟩ := bind_eq_ok taken
  obtain ⟨field, inTree, taken⟩ := bind_eq_ok taken
  cases taken
  have typed := (Json.gives_memberOr described.1 rfl).holds meta_
  simp only [describesMetadata, Bool.and_eq_true] at typed
  have texts : (found.orElse (.obj [])).isTexts = true :=
    Json.orElse_shape _ ((Json.gives_memberOr typed.1.2 rfl).holds annotations) rfl
  rw [toObject_of_isTexts texts] at entries
  cases entries
  constructor
  · rw [provisionedBy_of_isTexts texts]
    dsimp only
    rw [Json.textAt_orElse rfl, Json.textAt_memberOr annotations rfl,
      Json.textAt_memberOr meta_ rfl, pluginPath]
  · rw [text_innerMember csi, Json.textAt_memberOr specs rfl, handlePath]
  · rw [text_innerMember inTree, Json.textAt_memberOr specs rfl, fieldPath]

theorem inTreeVolumeId_str (path : String) :
    inTreeVolumeId (.str path) = .ok (.str (lastSegment path)) := by
  rw [inTreeVolumeId]
  by_cases empty : path = ""
  · subst empty
    rfl
  · rw [if_pos (by simp [Json.isPresent, empty])]

theorem some_of_present (id : String) :
    (if (Json.str id).isPresent then some (Json.str id) else none) =
      (if id = "" then none else some id).map Json.str := by
  by_cases empty : id = "" <;> simp [Json.isPresent, empty]

theorem volumeId_eq_derivedId {volume : PersistentVolume} {plugin : String}
    (named : volume.provisionedBy = .ok (.str plugin))
    (handle : volume.csiVolumeHandle.isTextOrNull = true)
    (field : volume.ebsVolumeId.isTextOrNull = true) :
    volume.volumeId = .ok
      ((derivedId plugin volume.csiVolumeHandle.text volume.ebsVolumeId.text).map .str) := by
  have known : volume.provisioner = .ok (.ofName plugin) := by
    rw [provisioner, named]
    rfl
  rw [volumeId_eq, known, derivedId]
  cases Provisioner.ofName plugin with
  | unrecognized => rfl
  | csi =>
    obtain none | ⟨id, held⟩ := Json.null_or_str handle
    · rw [none]
      rfl
    · rw [held]
      exact congrArg Except.ok (some_of_present id)
  | inTree =>
    obtain none | ⟨path, held⟩ := Json.null_or_str field
    · rw [none]
      rfl
    · rw [held]
      dsimp only [Except.bind]
      rw [inTreeVolumeId_str]
      exact congrArg Except.ok (some_of_present (lastSegment path))

theorem csiProvisioners_apart : ∀ plugin ∈ csiProvisioners, plugin ∉ inTreeProvisioners := by
  decide

theorem ofName_of_inTree {plugin : String} (inTree : plugin ∈ inTreeProvisioners) :
    Provisioner.ofName plugin = .inTree := by
  rw [Provisioner.ofName, if_neg fun csi => csiProvisioners_apart plugin csi inTree, if_pos inTree]

theorem derivedId_eq_some_iff {plugin handle field id : String} :
    derivedId plugin handle field = some id ↔ id ≠ "" ∧
      (plugin ∈ csiProvisioners ∧ handle = id ∨
        plugin ∈ inTreeProvisioners ∧ lastSegment field = id) := by
  have kept : ∀ candidate : String,
      (if candidate = "" then none else some candidate) = some id ↔
        id ≠ "" ∧ candidate = id := by
    intro candidate
    by_cases empty : candidate = ""
    · simp only [empty, if_true, reduceCtorEq, false_iff, not_and]
      exact fun filled same => filled same.symm
    · rw [if_neg empty, Option.some.injEq]
      exact ⟨fun same => ⟨same ▸ empty, same⟩, And.right⟩
  rw [derivedId, Provisioner.ofName]
  by_cases csi : plugin ∈ csiProvisioners
  · simp [csi, csiProvisioners_apart plugin csi, kept]
  · by_cases inTree : plugin ∈ inTreeProvisioners
    · simp [csi, inTree, kept]
    · simp [csi, inTree]

/-- A description says that one of some plugins provisioned its volume. -/
def ProvisionedBy (plugins : List String) (description : Json) : Prop :=
  ∃ plugin ∈ plugins, description.within? pluginPath = some (.str plugin)

theorem provisionedBy_iff {plugins : List String} (named : "" ∉ plugins) (description : Json) :
    ProvisionedBy plugins description ↔ description.textAt pluginPath ∈ plugins := by
  constructor
  · rintro ⟨plugin, known, found⟩
    exact Json.textAt_of_within? found ▸ known
  · intro known
    have filled : description.textAt pluginPath ≠ "" := fun empty => named (empty ▸ known)
    exact ⟨_, known, (Json.textAt_eq_iff filled).mp rfl⟩

/-- A description gives its volume this id: as the whole text of the CSI plugin's field, or at the
end of the in-tree plugin's field, without a slash in it and behind one if anything is in front. -/
def Identifies (description : Json) (id : String) : Prop :=
  id ≠ "" ∧
    (ProvisionedBy csiProvisioners description ∧
        description.within? handlePath = some (.str id) ∨
      ProvisionedBy inTreeProvisioners description ∧ '/' ∉ id.toList ∧
        ∃ field, description.within? fieldPath = some (.str field) ∧
          (field = id ∨ ∃ front, field = front ++ "/" ++ id))

theorem lastSegment_textAt_iff {description : Json} {id : String} (filled : id ≠ "") :
    lastSegment (description.textAt fieldPath) = id ↔ '/' ∉ id.toList ∧
      ∃ field, description.within? fieldPath = some (.str field) ∧
        (field = id ∨ ∃ front, field = front ++ "/" ++ id) := by
  rw [lastSegment_eq_iff]
  refine and_congr_right fun _ => ⟨fun split => ?_, ?_⟩
  · have some : description.textAt fieldPath ≠ "" := by
      intro empty
      rw [empty] at split
      obtain same | ⟨front, same⟩ := split
      · exact filled same.symm
      · simpa using congrArg String.toList same
    exact ⟨_, (Json.textAt_eq_iff some).mp rfl, split⟩
  · rintro ⟨field, found, split⟩
    rwa [Json.textAt_of_within? found]

theorem derivedId_textAt_iff {description : Json} {id : String} :
    derivedId (description.textAt pluginPath) (description.textAt handlePath)
      (description.textAt fieldPath) = some id ↔ Identifies description id := by
  rw [derivedId_eq_some_iff, Identifies]
  refine and_congr_right fun filled => or_congr (and_congr ?_ ?_) (and_congr ?_ ?_)
  · exact (provisionedBy_iff (by decide) description).symm
  · exact Json.textAt_eq_iff filled
  · exact (provisionedBy_iff (by decide) description).symm
  · exact lastSegment_textAt_iff filled

/-- A volume is taken from a description, and its id is the one that the description gives. -/
structure Derives (description : Json) (volume : PersistentVolume) (id : Option String) : Prop where
  taken : ofJson description = .ok volume
  derived : volume.volumeId = .ok (id.map .str)
  exact : ∀ text, id = some text ↔ Identifies description text
  trailing : ∀ front, ProvisionedBy inTreeProvisioners description →
    description.within? fieldPath = some (.str (front ++ "/")) → id = none
  unrecognized : volume.provisioner = .ok .unrecognized → id = none

/-- Two descriptions have the same to say about the id: they name the same plugin, and have the same
text in the field of that plugin. A text that is absent or null counts as empty. -/
structure Agrees (description other : Json) : Prop where
  plugin : other.textAt pluginPath = description.textAt pluginPath
  handle : ProvisionedBy csiProvisioners description →
    other.textAt handlePath = description.textAt handlePath
  field : ProvisionedBy inTreeProvisioners description →
    other.textAt fieldPath = description.textAt fieldPath

theorem Agrees.derivedId_eq {description other : Json} (agrees : Agrees description other) :
    derivedId (other.textAt pluginPath) (other.textAt handlePath) (other.textAt fieldPath) =
      derivedId (description.textAt pluginPath) (description.textAt handlePath)
        (description.textAt fieldPath) := by
  have handle := agrees.handle
  have field := agrees.field
  rw [provisionedBy_iff (by decide)] at handle field
  refine Option.ext fun id => ?_
  rw [derivedId_eq_some_iff, derivedId_eq_some_iff, agrees.plugin]
  refine and_congr_right fun _ => or_congr ?_ ?_
  · exact and_congr_right fun csi => by rw [handle csi]
  · exact and_congr_right fun inTree => by rw [field inTree]

theorem volumeId_of_described {description : Json} (described : describes description = true)
    {volume : PersistentVolume} (taken : ofJson description = .ok volume) :
    volume.volumeId = .ok ((derivedId (description.textAt pluginPath)
      (description.textAt handlePath) (description.textAt fieldPath)).map .str) := by
  have keeps := keeps_ofJson described taken
  have typed := (gives_ofJson described).holds taken
  simp only [wellTyped, identified, Bool.and_eq_true] at typed
  rw [volumeId_eq_derivedId keeps.plugin typed.1.1.2 typed.1.2, keeps.handle, keeps.field]

theorem derives_ofJson {description : Json} (described : describes description = true)
    {volume : PersistentVolume} (taken : ofJson description = .ok volume) :
    Derives description volume (derivedId (description.textAt pluginPath)
      (description.textAt handlePath) (description.textAt fieldPath)) where
  taken := taken
  derived := volumeId_of_described described taken
  exact _ := derivedId_textAt_iff
  trailing front inTree field := by
    rw [provisionedBy_iff (by decide)] at inTree
    have segment : lastSegment (front ++ "/") = "" :=
      lastSegment_of_split (by simp) (.inr ⟨front, by simp⟩)
    rw [derivedId, ofName_of_inTree inTree, Json.textAt_of_within? field]
    exact if_pos segment
  unrecognized known := by
    rw [provisioner, (keeps_ofJson described taken).plugin] at known
    have other : Provisioner.ofName (description.textAt pluginPath) = .unrecognized :=
      Except.ok.inj known
    rw [derivedId, other]
    rfl

/-- Every description with the types that Kubernetes has for it gives its volume exactly the id that
it identifies, or none. Any description that agrees with it gives the same. -/
theorem volumeId_derives {description : Json} (described : describes description = true) :
    ∃ volume id, Derives description volume id ∧
      ∀ other volume', describes other = true → ofJson other = .ok volume' →
        Agrees description other → volume'.volumeId = .ok (id.map .str) := by
  obtain ⟨volume, taken, -⟩ := gives_ofJson described
  refine ⟨volume, _, derives_ofJson described taken, ?_⟩
  intro other volume' described' taken' agrees
  rw [volumeId_of_described described' taken', agrees.derivedId_eq]

/-- A volume of the in-tree plugin with several slashes in its field, and a field of the CSI plugin
beside it. -/
def slashedDescription : Json :=
  .obj [("metadata", .obj [("name", .str "a"), ("annotations",
      .obj [( provisionedByAnnotation, .str "kubernetes.io/aws-ebs")]), ("finalizers", .null)]),
    ("spec", .obj [("csi", .obj [("volumeHandle", .str "w")]),
      ("awsElasticBlockStore", .obj [("volumeID", .str "aws://us-east-1a/v")])])]

theorem volumeId_derives_slashed : describes slashedDescription = true ∧
    ∃ volume, Derives slashedDescription volume (some "v") := by
  have described : describes slashedDescription = true := by decide +kernel
  obtain ⟨volume, id, derives, -⟩ := volumeId_derives described
  have plugin : ProvisionedBy inTreeProvisioners slashedDescription :=
    ⟨"kubernetes.io/aws-ebs", by decide, by rfl⟩
  have behind : "aws://us-east-1a/v" = "v" ∨ ∃ front, "aws://us-east-1a/v" = front ++ "/" ++ "v" :=
    .inr ⟨"aws://us-east-1a", rfl⟩
  have identifies : Identifies slashedDescription "v" :=
    ⟨by decide, .inr ⟨plugin, by decide, _, by rfl, behind⟩⟩
  rw [(derives.exact "v").mpr identifies] at derives
  exact ⟨described, volume, derives⟩

end PersistentVolume

end VolumeReclaim
