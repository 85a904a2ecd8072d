import VolumeReclaim.Proofs.Complaints
import VolumeReclaim.Proofs.NothingLost
import VolumeReclaim.Proofs.Resumption

/-!
What the closing line of a discovery counts. A discovery that ends well has deleted every listed
volume with an id, but its last line gives the number of different ids. The two agree only as long
as no two of the deleted volumes share an id as it is read, with lone surrogates replaced.
-/
set_option autoImplicit false

namespace VolumeReclaim

namespace Json

theorem length_distinctKeys_eq_iff (keys : List Json) :
    (distinctKeys keys).length = keys.length ↔
      keys.Pairwise fun earlier later => sameKey later earlier = false := by
  induction keys using List.reverseRecOn with
  | nil => simp [distinctKeys]
  | append_singleton keys key ih =>
    have sublist := distinctKeys_sublist keys
    rw [List.pairwise_append, distinctKeys_concat, addKey]
    simp only [List.pairwise_singleton, true_and, List.mem_singleton, forall_eq]
    constructor
    · intro size
      have fewer := sublist.length_le
      split at size
      · rw [List.length_append, List.length_singleton] at size
        omega
      · next fresh =>
        rw [List.length_append, List.length_append, Nat.add_right_cancel_iff] at size
        rw [sublist.eq_of_length size] at fresh
        exact ⟨ih.mp size, by simpa using fresh⟩
    · rintro ⟨apart, fresh⟩
      have same := sublist.eq_of_length (ih.mpr apart)
      rw [same, if_neg (by simpa using fresh)]

end Json

namespace PersistentVolume

/-- The id of the EBS volume behind a volume, if there is one, whatever it may be. -/
def id? (volume : PersistentVolume) : Option Json :=
  match volume.volumeId with
  | .ok id => id
  | .error _ => none

/-- The ids behind some volumes, in order, one for each volume that has one. -/
def ids (volumes : List PersistentVolume) : List Json :=
  volumes.filterMap (·.id?)

def namesWithId (volumes : List PersistentVolume) : List Json :=
  (volumes.filter (·.id?.isSome)).map (·.name)

theorem length_namesWithId (volumes : List PersistentVolume) :
    (namesWithId volumes).length = (ids volumes).length := by
  rw [namesWithId, ids, List.length_map, List.length_filterMap_eq_countP,
    List.countP_eq_length_filter]

end PersistentVolume

namespace Discovery

open PersistentVolume

variable {τ : Type} [Time τ] {context : Option String}

theorem deleted_release {volume : PersistentVolume} {run after : Logged (World τ)}
    (released : release (Kubectl.cluster (.ofText? context)) volume run = (.ok (), after)) :
    ∃ made, Kubectl.Journaled made run.state after.state ∧
      Kubectl.deleted made = [volume.name] := by
  have part := carriesOut_release (.ofText? context) volume run
  rw [released] at part
  exact ⟨_, part.journal, deleted_performed context part.smooth⟩

/-- Of volumes released one after the other, those with an id were deleted and their ids tracked. -/
theorem deleted_releaseAll {volumes : List PersistentVolume} {tracked given : List Json}
    {run after : Logged (World τ)}
    (released : releaseAll (Kubectl.cluster (.ofText? context)) volumes tracked run =
      (.ok given, after)) :
    given = (ids volumes).foldl Json.addKey tracked ∧
      ∃ made, Kubectl.Journaled made run.state after.state ∧
        Kubectl.deleted made = namesWithId volumes := by
  induction volumes, tracked, run using
    releaseAll_induction (Kubectl.cluster (τ := τ) (.ofText? context)) with
  | nil =>
    cases released
    exact ⟨rfl, [], .refl _, rfl⟩
  | refused => cases released
  | skipped volume rest tracked run later found skipped ih =>
    have absent : volume.id? = none := by rw [id?, found]
    have same : ids (volume :: rest) = ids rest ∧
        namesWithId (volume :: rest) = namesWithId rest := by
      simp [ids, namesWithId, absent]
    rw [same.1, same.2, ← skip_state skipped]
    exact ih released
  | failed => cases released
  | released volume rest tracked run id between found first ih =>
    have present : volume.id? = some id := by rw [id?, found]
    have more : ids (volume :: rest) = id :: ids rest ∧
        namesWithId (volume :: rest) = volume.name :: namesWithId rest := by
      simp [ids, namesWithId, present]
    obtain ⟨start, journal, deleted⟩ := deleted_release first
    obtain ⟨tracks, made, journal', deleted'⟩ := ih released
    rw [more.1, more.2, List.foldl_cons]
    refine ⟨tracks, start ++ made, journal.trans journal', ?_⟩
    rw [Kubectl.deleted, List.filterMap_append]
    exact congrArg₂ (· ++ ·) deleted deleted'

theorem deleted_list {run between : Logged (World τ)} {volumes : List PersistentVolume}
    (listed : attempt .list (Kubectl.cluster (.ofText? context)).list run =
      (.ok volumes, between)) :
    (Kubectl.list (.ofText? context) run.state).1 = .ok volumes ∧
      ∃ made, Kubectl.Journaled made run.state between.state ∧ Kubectl.deleted made = [] := by
  have given := attempt_eq_ok listed
  have part := carriesOut_list (.ofText? context) volumes run (Kubectl.readListing_of_list given)
  rw [listed] at part
  exact ⟨given, _, part.journal, deleted_performed context part.smooth⟩

/-- A discovery that ends well has deleted each listed volume with an id. The number in its closing
line is that of the different ids behind those volumes, and so it is the number of deletions exactly
if no two of the volumes share an id. -/
theorem releaseListed_counts_ids (context : Option String) {run after : Logged (World τ)}
    {tracked : List Json}
    (released : releaseListed (Kubectl.cluster (.ofText? context)) run = (.ok tracked, after)) :
    ∃ volumes made, (Kubectl.list (.ofText? context) run.state).1 = .ok volumes ∧
      Kubectl.Journaled made run.state after.state ∧
      Kubectl.deleted made = namesWithId volumes ∧
      after.lines.back? = some (closingLine (Json.distinctKeys (ids volumes)).length) ∧
      (Json.distinctKeys (ids volumes)).length ≤ (Kubectl.deleted made).length ∧
      ((Json.distinctKeys (ids volumes)).length = (Kubectl.deleted made).length ↔
        (ids volumes).Pairwise fun earlier later => Json.sameKey later earlier = false) := by
  obtain ⟨volumes, between, final, listed, all, same, lines⟩ := releaseListed_eq_ok released
  obtain ⟨given, start, journal, none⟩ := deleted_list listed
  obtain ⟨rfl, made, journal', deleted⟩ := deleted_releaseAll all
  have whole : Kubectl.deleted (start ++ made) = namesWithId volumes := by
    rw [Kubectl.deleted, List.filterMap_append]
    exact (congrArg₂ (· ++ ·) none deleted).trans (List.nil_append _)
  refine ⟨volumes, start ++ made, given, ?_, whole, ?_, ?_, ?_⟩
  · rw [same]
    exact journal.trans journal'
  · rw [lines]
    exact Array.back?_push
  · rw [whole, length_namesWithId]
    exact (Json.distinctKeys_sublist _).length_le
  · rw [whole, length_namesWithId]
    exact Json.length_distinctKeys_eq_iff _

/-- A discovery of two volumes on the same EBS volume, with nothing in its way. -/
def twinDiscovery : Logged (World Rat) :=
  ⟨⟨.create 0 (some 60) none,
    { kubectl := { replies := [⟨none, .completed { stdout := .str twinListing }⟩] } }⟩, #[]⟩

/-- Two volumes are deleted there, and the closing line counts one. -/
theorem releaseListed_counts_twins :
    ∃ after made,
      releaseListed (Kubectl.cluster (.ofText? none)) twinDiscovery = (.ok [.str "v"], after) ∧
      Kubectl.Journaled made twinDiscovery.state after.state ∧
      Kubectl.deleted made = [.str "b", .str "a"] ∧ after.lines.back? = some (closingLine 1) := by
  have listed : (Kubectl.list (.ofText? none) twinDiscovery.state).1 = .ok twinVolumes :=
    Kubectl.list_of_printed rfl readListing_twins
  have typed : ∀ volume ∈ twinVolumes, volume.wellTyped = true := by decide +kernel
  obtain ⟨-, -, -, outcome⟩ := releaseListed_of_list listed
    (PersistentVolume.forall_readable typed)
  cases released : releaseListed (Kubectl.cluster (.ofText? none)) twinDiscovery with
  | mk first after =>
    rw [released] at outcome
    cases outcome
    obtain ⟨volumes, made, given, journal, deleted, line, -, -⟩ :=
      releaseListed_counts_ids none released
    cases listed.symm.trans given
    exact ⟨after, made, rfl, journal, deleted, line⟩

end Discovery

end VolumeReclaim
