import Mathlib.Data.List.Perm.Subperm
import VolumeReclaim.Proofs.MutationSources

/-!
Listings after deletions. A later listing lacks the volumes that were deleted and still has the
others, protected or not. The invocations of a discovery follow its plan up to the first that fails,
and so they delete the first of the listed volumes on EBS. Names are told apart as they are read,
with lone surrogates replaced.
-/
set_option autoImplicit false

namespace VolumeReclaim

namespace Kubectl

/-- The name of the volume that an invocation deleted, if it is a deletion that ended well. -/
def Invocation.deleted? (invocation : Invocation) : Option Json :=
  match invocation.commandLine.reverse with
  | .str "--wait=false" :: name :: .str "persistentvolume" :: .str "delete" :: _ =>
    if invocation.ending.succeeded then some name else none
  | _ => none

/-- The names of the volumes that some invocations deleted, in order. -/
def deleted (made : List Invocation) : List Json :=
  made.filterMap (·.deleted?)

end Kubectl

/-- A later listing of some volumes, after those with some names are gone. The others are still
there and differ at most in their finalizers. -/
inductive Relisted (gone : List Json) : List PersistentVolume → List PersistentVolume → Prop where
  | nil : Relisted gone [] []
  | absent {volume : PersistentVolume} {rest left : List PersistentVolume} :
    volume.name ∈ gone → Relisted gone rest left → Relisted gone (volume :: rest) left
  | kept {volume : PersistentVolume} {rest left : List PersistentVolume} (finalizers : Json) :
    volume.name ∉ gone → Relisted gone rest left →
      Relisted gone (volume :: rest) ({ volume with finalizers } :: left)

/-- The names of the listed volumes on EBS, in the order of the listing. -/
def namesOnEbs (volumes : List PersistentVolume) : List Json :=
  (volumes.filter (·.onEbs)).map (·.name)

theorem mem_namesOnEbs {volumes : List PersistentVolume} {name : Json} :
    name ∈ namesOnEbs volumes ↔ ∃ volume ∈ volumes, volume.name = name ∧ volume.onEbs = true := by
  simp only [namesOnEbs, List.mem_map, List.mem_filter]
  exact exists_congr fun volume => by tauto

theorem namesOnEbs_cons (volume : PersistentVolume) (rest : List PersistentVolume) :
    namesOnEbs (volume :: rest) =
      if volume.onEbs then volume.name :: namesOnEbs rest else namesOnEbs rest := by
  by_cases onEbs : volume.onEbs = true <;> simp [namesOnEbs, onEbs]

theorem namesOnEbs_withFinalizers (volume : PersistentVolume) (finalizers : Json)
    (rest : List PersistentVolume) :
    namesOnEbs ({ volume with finalizers } :: rest) = namesOnEbs (volume :: rest) := by
  rw [namesOnEbs_cons, namesOnEbs_cons]
  rfl

section Relisted

variable {gone : List Json} {volumes left : List PersistentVolume}

theorem Relisted.forall_mem {p : PersistentVolume → Prop} (relisted : Relisted gone volumes left)
    (indifferent : ∀ volume finalizers, p volume → p { volume with finalizers })
    (all : ∀ volume ∈ volumes, p volume) : ∀ volume ∈ left, p volume := by
  induction relisted with
  | nil => exact all
  | absent _ _ ih => exact ih (List.forall_mem_cons.mp all).2
  | @kept volume rest left finalizers _ _ ih =>
    obtain ⟨first, others⟩ := List.forall_mem_cons.mp all
    exact List.forall_mem_cons.mpr ⟨indifferent volume finalizers first, ih others⟩

theorem Relisted.not_gone (relisted : Relisted gone volumes left) :
    ∀ name ∈ namesOnEbs left, name ∉ gone := by
  induction relisted with
  | nil => exact List.forall_mem_nil _
  | absent _ _ ih => exact ih
  | @kept volume rest left finalizers here _ ih =>
    rw [namesOnEbs_withFinalizers volume finalizers left, namesOnEbs_cons]
    split
    · exact List.forall_mem_cons.mpr ⟨here, ih⟩
    · exact ih

theorem Relisted.gone_or_listed (relisted : Relisted gone volumes left) :
    ∀ name ∈ namesOnEbs volumes, name ∈ gone ∨ name ∈ namesOnEbs left := by
  induction relisted with
  | nil => simp [namesOnEbs]
  | absent lost _ ih =>
    rw [namesOnEbs_cons]
    split
    · exact List.forall_mem_cons.mpr ⟨.inl lost, ih⟩
    · exact ih
  | @kept volume others left finalizers _ _ ih =>
    rw [namesOnEbs_withFinalizers volume finalizers left, namesOnEbs_cons, namesOnEbs_cons]
    split
    · refine List.forall_mem_cons.mpr ⟨.inr List.mem_cons_self, fun name onEbs => ?_⟩
      exact (ih name onEbs).imp_right (List.mem_cons_of_mem _)
    · exact ih

theorem Relisted.sublist (relisted : Relisted gone volumes left) {first rest : List Json}
    (lost : first ⊆ gone) (split : first ++ rest = namesOnEbs volumes) :
    (namesOnEbs left).Sublist rest := by
  induction relisted generalizing first rest with
  | nil => exact List.nil_sublist rest
  | @absent volume others left _ _ ih =>
    rw [namesOnEbs_cons] at split
    split at split
    · cases first with
      | nil =>
        rw [List.nil_append] at split
        exact split ▸ (ih (List.nil_subset gone) rfl).cons volume.name
      | cons name first => exact ih (List.subset_of_cons_subset lost) (List.cons.inj split).2
    · exact ih lost split
  | @kept volume others left finalizers here _ ih =>
    rw [namesOnEbs_cons] at split
    rw [namesOnEbs_withFinalizers volume finalizers left, namesOnEbs_cons]
    split at split
    · next onEbs =>
      rw [if_pos onEbs]
      cases first with
      | nil =>
        rw [List.nil_append] at split
        exact split ▸ (ih (List.nil_subset gone) rfl).cons_cons volume.name
      | cons name first =>
        have same : name = volume.name := (List.cons.inj split).1
        exact absurd (lost List.mem_cons_self) (same ▸ here)
    · next other =>
      rw [if_neg other]
      exact ih lost split

theorem Relisted.subset (relisted : Relisted gone volumes left) :
    namesOnEbs left ⊆ namesOnEbs volumes :=
  (relisted.sublist (List.nil_subset gone) rfl).subset

theorem Relisted.namesOnEbs_eq (relisted : Relisted gone volumes left) {rest : List Json}
    (split : gone ++ rest = namesOnEbs volumes) (distinct : (namesOnEbs volumes).Nodup) :
    namesOnEbs left = rest := by
  have sublist := relisted.sublist (List.Subset.refl gone) split
  obtain ⟨-, later, apart⟩ := List.nodup_append.mp (split ▸ distinct)
  have listed : rest ⊆ namesOnEbs left := by
    intro name member
    have onEbs : name ∈ namesOnEbs volumes := split ▸ List.mem_append_right gone member
    refine (relisted.gone_or_listed name onEbs).resolve_left fun lost => ?_
    exact apart name lost name member rfl
  exact sublist.eq_of_length_le (later.subperm listed).length_le

end Relisted

namespace Discovery

/-- The name of the volume that a step deletes, if it is a deletion. -/
def Step.deletes? : Step → Option Json
  | .delete name => some name
  | _ => none

theorem deletes?_plan (volumes : List PersistentVolume) :
    (plan volumes).filterMap Step.deletes? = namesOnEbs volumes := by
  rw [plan, releaseSteps, List.filterMap_cons_none rfl, List.filterMap_flatMap, namesOnEbs,
    List.map_eq_flatMap]
  rfl

/-- Invocations of the first of some steps. All of them but perhaps the last ended well. -/
inductive Followed (context : Option String) : List Step → List Kubectl.Invocation → Prop where
  | stopped (steps : List Step) : Followed context steps []
  | failed {step : Step} (later : List Step) {invocation : Kubectl.Invocation} :
    invocation.commandLine = step.commandLine context → invocation.ending.succeeded = false →
      Followed context (step :: later) [invocation]
  | passed {step : Step} {later : List Step} {invocation : Kubectl.Invocation}
    {made : List Kubectl.Invocation} : invocation.commandLine = step.commandLine context →
      invocation.ending.succeeded = true → Followed context later made →
        Followed context (step :: later) (invocation :: made)

section Followed

variable {context : Option String} {steps : List Step} {made : List Kubectl.Invocation}

theorem deleted?_of_commandLine {step : Step} {invocation : Kubectl.Invocation}
    (line : invocation.commandLine = step.commandLine context) :
    invocation.deleted? = if invocation.ending.succeeded then step.deletes? else none := by
  obtain ⟨front, whole⟩ : ∃ front, step.commandLine context = front ++ step.arguments := by
    rw [← commandLine_ofText?]
    exact ⟨_, rfl⟩
  rw [Kubectl.Invocation.deleted?, line, whole, List.reverse_append]
  cases step <;> simp [Step.arguments, Step.deletes?]

theorem deleted_listing {listing : Kubectl.Invocation}
    (line : listing.commandLine = Step.list.commandLine context) (later : List Kubectl.Invocation) :
    Kubectl.deleted (listing :: later) = Kubectl.deleted later := by
  have none : listing.deleted? = none := by
    rw [deleted?_of_commandLine line]
    simp [Step.deletes?]
  rw [Kubectl.deleted, List.filterMap_cons_none none, Kubectl.deleted]

theorem Followed.single {step : Step} (later : List Step) {invocation : Kubectl.Invocation}
    (line : invocation.commandLine = step.commandLine context) :
    Followed context (step :: later) [invocation] := by
  cases ended : invocation.ending.succeeded with
  | true => exact .passed line ended (.stopped later)
  | false => exact .failed later line ended

theorem followed_performed {τ : Type} (context : Option String) (steps : List Step)
    (replies : List (Kubectl.Reply τ)) :
    Followed context steps (performed (.ofText? context) steps replies) := by
  induction steps generalizing replies with
  | nil => exact .stopped []
  | cons step later ih =>
    by_cases well : (replies.headD {}).ending.succeeded = true
    · rw [performed_pass _ well]
      exact .passed (commandLine_ofText? context step) well (ih replies.tail)
    · rw [performed_stop _ well]
      exact .single later (commandLine_ofText? context step)

theorem Followed.deleted_prefix (followed : Followed context steps made) :
    Kubectl.deleted made <+: steps.filterMap Step.deletes? := by
  induction followed with
  | stopped => exact List.nil_prefix
  | failed later line bad =>
    rw [Kubectl.deleted, List.filterMap_cons_none (by simp [deleted?_of_commandLine line, bad])]
    exact List.nil_prefix
  | @passed step later invocation made line well _ ih =>
    have same : invocation.deleted? = step.deletes? := by
      rw [deleted?_of_commandLine line, if_pos well]
    rw [Kubectl.deleted, List.filterMap_cons, List.filterMap_cons, same]
    cases step.deletes? with
    | none => exact ih
    | some name => exact (List.prefix_cons_inj name).mpr ih

/-- An invocation among others that follow some steps is that of a step, and those before it are
those of the steps before that one and ended well. -/
theorem Followed.split {earlier later : List Kubectl.Invocation} {invocation : Kubectl.Invocation}
    (followed : Followed context steps (earlier ++ invocation :: later)) :
    ∃ before step after, steps = before ++ step :: after ∧
      earlier.map (·.commandLine) = before.map (Step.commandLine context) ∧
      (∀ one ∈ earlier, one.ending.succeeded = true) ∧
      invocation.commandLine = step.commandLine context := by
  induction earlier generalizing steps with
  | nil =>
    cases followed with
    | failed after line => exact ⟨[], _, after, rfl, rfl, List.forall_mem_nil _, line⟩
    | @passed step after _ _ line => exact ⟨[], step, after, rfl, rfl, List.forall_mem_nil _, line⟩
  | cons first earlier ih =>
    generalize whole : first :: earlier ++ invocation :: later = made at followed
    cases followed with
    | stopped => cases whole
    | failed after line bad =>
      obtain ⟨-, none⟩ := List.cons.inj whole
      exact absurd none (by simp)
    | @passed head rest _ _ line well others =>
      obtain ⟨rfl, rfl⟩ := List.cons.inj whole
      obtain ⟨before, step, after, rfl, lines, ends, last⟩ := ih others
      refine ⟨head :: before, step, after, rfl, ?_, List.forall_mem_cons.mpr ⟨well, ends⟩, last⟩
      rw [List.map_cons, List.map_cons, line, lines]

end Followed

end Discovery

end VolumeReclaim
