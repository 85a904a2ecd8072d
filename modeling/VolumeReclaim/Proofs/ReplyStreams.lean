import Mathlib.Data.List.Forall2
import VolumeReclaim.Proofs.AnswerWait

/-!
The answers of a script as streams, one for each volume. A question about a volume takes the first
answer of its stream and leaves the streams of all other volumes as they are.
-/
set_option autoImplicit false

namespace VolumeReclaim

namespace Script

variable {ρ : Type}

def answers (script : Script ρ) : Json → List ρ
  | .str id => (script.lookup id).getD []
  | _ => []

/-- The answer to a question that comes after some others, if these answers are left. -/
def nth : List ρ → Nat → Option ρ
  | answers, 0 => answers.head?
  | answers, place + 1 => nth (afterFirst answers) place

theorem take_go (script : Script ρ) (id : String) :
    (take.go id script).1 = ((script.lookup id).getD []).head? ∧
      ∀ name, (take.go id script).2.lookup name =
        if name = id then (script.lookup id).map afterFirst else script.lookup name := by
  induction script with
  | nil => exact ⟨rfl, fun name => by split <;> rfl⟩
  | cons entry rest ih =>
    obtain ⟨known, laid⟩ := entry
    by_cases found : known = id
    · subst found
      refine ⟨by simp [take.go], fun name => ?_⟩
      by_cases same : name = known
      · simp [take.go, same]
      · have passed : (name == known) = false := by simpa using same
        simp [take.go, List.lookup_cons, same, passed]
    · have other : (id == known) = false := by simpa using Ne.symm found
      rw [take.go, if_neg found, List.lookup_cons, other]
      refine ⟨ih.1, fun name => ?_⟩
      by_cases same : name = known
      · have apart : name ≠ id := fun equal => found (same.symm.trans equal)
        simp [same, found]
      · have passed : (name == known) = false := by simpa using same
        simpa [List.lookup_cons, passed] using ih.2 name

theorem take_fst (script : Script ρ) (volumeId : Json) :
    (script.take volumeId).1 = (script.answers volumeId).head? := by
  cases volumeId with
  | str id => exact (take_go script id).1
  | _ => rfl

theorem answers_take_same (script : Script ρ) (volumeId : Json) :
    (script.take volumeId).2.answers volumeId = afterFirst (script.answers volumeId) := by
  cases volumeId with
  | str id =>
    rw [take, answers, answers, (take_go script id).2, if_pos rfl]
    cases script.lookup id <;> rfl
  | _ => rfl

theorem answers_take_other (script : Script ρ) {volumeId other : Json} (apart : other ≠ volumeId) :
    (script.take volumeId).2.answers other = script.answers other := by
  cases volumeId with
  | str id =>
    cases other with
    | str name =>
      have apart : name ≠ id := fun same => apart (congrArg Json.str same)
      rw [take, answers, answers, (take_go script id).2, if_neg apart]
    | _ => rfl
  | _ => rfl

theorem forall₂_afterFirst {related : ρ → ρ → Prop} {laid laid' : List ρ}
    (alike : List.Forall₂ related laid laid') :
    List.Forall₂ related (afterFirst laid) (afterFirst laid') := by
  cases alike with
  | nil => exact .nil
  | cons first others =>
    cases others with
    | nil => exact .cons first .nil
    | cons second others => exact .cons second others

theorem forall₂_answers {related : ρ → ρ → Prop} {script script' : Script ρ}
    (alike : List.Forall₂
      (fun entry entry' => entry.1 = entry'.1 ∧ List.Forall₂ related entry.2 entry'.2)
      script script') (volumeId : Json) :
    List.Forall₂ related (script.answers volumeId) (script'.answers volumeId) := by
  cases volumeId with
  | str id =>
    rw [answers, answers]
    induction alike with
    | nil => exact .nil
    | @cons entry entry' rest rest' first others ih =>
      obtain ⟨known, laid⟩ := entry
      obtain ⟨known', laid'⟩ := entry'
      obtain ⟨rfl, laidAlike⟩ := first
      rw [List.lookup_cons, List.lookup_cons]
      cases id == known with
      | true => exact laidAlike
      | false => exact ih
  | _ => exact .nil

end Script

namespace Ec2

variable {τ : Type} [Time τ]

/-- The reply to a question about a volume that comes after some others about it. -/
def replyAt (script : Script (Reply τ)) (volumeId : Json) (place : Nat) : Reply τ :=
  (Script.nth (script.answers volumeId) place).getD .nothing

theorem nextReply_eq (session : Session τ) (volumeId : Json) :
    session.nextReply volumeId = replyAt session.script volumeId 0 := by
  rw [Session.nextReply, Script.take_fst, replyAt, Script.nth]

/-- Two scripts whose replies to the same questions are related. -/
def Matched (related : Reply τ → Reply τ → Prop) (script script' : Script (Reply τ)) : Prop :=
  ∀ volumeId place, related (replyAt script volumeId place) (replyAt script' volumeId place)

theorem Matched.next {related : Reply τ → Reply τ → Prop} {session session' : Session τ}
    (matched : Matched related session.script session'.script) (volumeId : Json) :
    related (session.nextReply volumeId) (session'.nextReply volumeId) := by
  rw [nextReply_eq, nextReply_eq]
  exact matched volumeId 0

theorem Matched.take {related : Reply τ → Reply τ → Prop} {script script' : Script (Reply τ)}
    (matched : Matched related script script') (volumeId : Json) :
    Matched related (script.take volumeId).2 (script'.take volumeId).2 := by
  intro other place
  by_cases same : other = volumeId
  · have later := matched volumeId (place + 1)
    rw [same, replyAt, replyAt, Script.answers_take_same, Script.answers_take_same]
    exact later
  · rw [replyAt, replyAt, Script.answers_take_other script same,
      Script.answers_take_other script' same]
    exact matched other place

theorem matched_of_forall₂ {related : Reply τ → Reply τ → Prop}
    (nothing : related .nothing .nothing) {script script' : Script (Reply τ)} (alike : List.Forall₂
      (fun entry entry' => entry.1 = entry'.1 ∧ List.Forall₂ related entry.2 entry'.2)
      script script') : Matched related script script' := by
  intro volumeId place
  have laid := Script.forall₂_answers alike volumeId
  rw [replyAt, replyAt]
  generalize script.answers volumeId = answers at laid ⊢
  generalize script'.answers volumeId = answers' at laid ⊢
  induction place generalizing answers answers' with
  | zero =>
    cases laid with
    | nil => exact nothing
    | cons first others => exact first
  | succ place ih => exact ih _ _ (Script.forall₂_afterFirst laid)

end Ec2

end VolumeReclaim
