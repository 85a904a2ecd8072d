import VolumeReclaim.Discovery
import VolumeReclaim.Proofs.Shapes

/-!
The courses that a discovery can take, whatever its cluster does. A listed volume is refused for its
shape, left alone, or released, and what is true in each of these cases is true of a whole listing.
-/
set_option autoImplicit false

namespace VolumeReclaim.Discovery

variable {S : Type}

theorem attempt_eq_ok {α : Type} {step : Step} {action : S → Except Failure α × S}
    {run after : Logged S} {value : α} (given : attempt step action run = (.ok value, after)) :
    (action run.state).1 = .ok value := by
  have outcome : (action run.state).1.mapError step.failure = .ok value := congrArg Prod.fst given
  cases result : (action run.state).1 with
  | error failure =>
    rw [result] at outcome
    cases outcome
  | ok other =>
    rw [result] at outcome
    cases outcome
    rfl

theorem skip_state {volume : PersistentVolume} {run after : Logged S}
    (skipped : skip volume run = .ok after) : after.state = run.state := by
  obtain ⟨plugin, -, skipped⟩ := bind_eq_ok skipped
  obtain ⟨kind, -, skipped⟩ := bind_eq_ok skipped
  cases kind <;> cases skipped <;> rfl

/-- What is true of a release of no volumes, of one that ends with its first volume, and is handed
back from the release of the other volumes, is true of every release. -/
theorem releaseAll_induction (cluster : Cluster S)
    {motive : List PersistentVolume → List Json → Logged S →
      Except Failure (List Json) × Logged S → Prop}
    (nil : ∀ tracked run, motive [] tracked run (.ok tracked, run))
    (refused : ∀ volume rest tracked run fault,
      motive (volume :: rest) tracked run (.error (.shape fault), run))
    (skipped : ∀ volume rest tracked run later, volume.volumeId = .ok none →
      skip volume run = .ok later →
      motive rest tracked later (releaseAll cluster rest tracked later) →
      motive (volume :: rest) tracked run (releaseAll cluster rest tracked later))
    (failed : ∀ volume rest tracked run id failure after, volume.volumeId = .ok (some id) →
      release cluster volume run = (.error failure, after) →
      motive (volume :: rest) tracked run (.error failure, after))
    (released : ∀ volume rest tracked run id after, volume.volumeId = .ok (some id) →
      release cluster volume run = (.ok (), after) →
      motive rest (Json.addKey tracked id) after
        (releaseAll cluster rest (Json.addKey tracked id) after) →
      motive (volume :: rest) tracked run
        (releaseAll cluster rest (Json.addKey tracked id) after))
    (volumes : List PersistentVolume) (tracked : List Json) (run : Logged S) :
    motive volumes tracked run (releaseAll cluster volumes tracked run) := by
  induction volumes generalizing tracked run with
  | nil => exact nil tracked run
  | cons volume rest ih =>
    rw [releaseAll]
    cases found : volume.volumeId with
    | error fault => exact refused volume rest tracked run fault
    | ok id? =>
      cases id? with
      | none =>
        dsimp only
        cases left : skip volume run with
        | error fault => exact refused volume rest tracked run fault
        | ok later => exact skipped volume rest tracked run later found left (ih tracked later)
      | some id =>
        dsimp only
        by_cases key : id.isKey = true
        · rw [if_pos key]
          cases given : release cluster volume run with
          | mk outcome after =>
            cases outcome with
            | error failure => exact failed volume rest tracked run id failure after found given
            | ok => exact released volume rest tracked run id after found given (ih _ after)
        · rw [if_neg key]
          exact refused volume rest tracked run .containerAsKey

def closingLine (count : Nat) : LogLine :=
  ⟨.info, s!"deleted {count} EBS-backed Kubernetes Persistent Volume(s)"⟩

/-- A discovery that gives ids listed some volumes, released all of them, and closed with a line
that counts the ids. -/
theorem releaseListed_eq_ok {cluster : Cluster S} {run after : Logged S} {tracked : List Json}
    (released : releaseListed cluster run = (.ok tracked, after)) :
    ∃ volumes between final, attempt .list cluster.list run = (.ok volumes, between) ∧
      releaseAll cluster volumes [] between = (.ok tracked, final) ∧
      after.state = final.state ∧ after.lines = final.lines.push (closingLine tracked.length) := by
  unfold releaseListed at released
  split at released
  · cases released
  · next volumes between listed =>
    split at released
    · cases released
    · next given final all =>
      cases released
      exact ⟨volumes, between, final, listed, all, rfl, rfl⟩

end VolumeReclaim.Discovery
