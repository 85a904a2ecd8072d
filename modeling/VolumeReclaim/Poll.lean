import VolumeReclaim.Json.Key
import VolumeReclaim.Log
import VolumeReclaim.World

/-!
Polling: EC2 is asked about every remaining volume, sweep after sweep, until none remains or the
run has to stop. A volume that is gone is never asked about again. One that cannot be asked about
counts as still there.
-/
set_option autoImplicit false

namespace VolumeReclaim.Poll

variable {τ σ : Type} [Time τ]

def defaultInterval : τ := 2.0

abbrev Checker (τ σ : Type) := Json → Timed τ σ → Except Failure Bool × Timed τ σ

def retain {S : Type} (id : Json) (rest : Except Failure (List Json) × S) :
    Except Failure (List Json) × S :=
  (rest.1.map (id :: ·), rest.2)

/-- Asks once about every volume, and gives back those that remain. When the context is done, all
volumes from the one just asked about on remain. -/
def sweep (check : Checker τ σ) :
    List Json → Logged (Timed τ σ) → Except Failure (List Json) × Logged (Timed τ σ)
  | [], run => (.ok [], run)
  | id :: rest, run =>
    match run.perform (check id) with
    | (.ok true, run) => retain id (sweep check rest run)
    | (.ok false, run) =>
      sweep check rest (run.note .debug s!"AWS EBS volume {id.display} was deleted")
    | (.error (.contextDone _), run) => (.ok (id :: rest), run)
    | (.error (.volumeQuery _ message), run) =>
      retain id (sweep check rest (run.note .warning
        s!"error when checking existence of AWS EBS volume {id.display}: {message}"))
    | (.error failure, run) => (.error failure, run)

/-- Sweeps over the remaining volumes and sleeps between the sweeps, for at most as many sweeps as
allowed. -/
def sweeps (check : Checker τ σ) (interval : τ) :
    (limit : Nat) → List Json → Logged (Timed τ σ) → Except Failure Unit × Logged (Timed τ σ)
  | limit, remaining, run =>
    if remaining.isEmpty then (.ok (), run)
    else if run.state.context.done then
      (.error (.ofRemaining remaining run.state.context.cancelled), run)
    else
      match limit with
      | 0 => (.error .turnLimit, run)
      | limit + 1 =>
        match sweep check remaining run with
        | (.error failure, run) => (.error failure, run)
        | (.ok kept, run) =>
          let run := if kept.isEmpty then run else (run.perform (·.wait interval)).2
          sweeps check interval limit kept run

def untilGone (check : Checker τ σ) (interval : τ) (limit : Nat) (volumeIds : List Json)
    (run : Logged (Timed τ σ)) : Except Failure Unit × Logged (Timed τ σ) :=
  match Json.distinct volumeIds with
  | .error fault => (.error (.shape fault), run)
  | .ok remaining => sweeps check interval limit remaining run

end VolumeReclaim.Poll
