import VolumeReclaim.CommandLine.Run

/-!
The command as a rehearsal. The listing of the cluster comes from the standard input, every further
kubectl command succeeds, and EC2 knows none of the volumes, so that nothing outside is touched and
the answer of the command to a listing can be seen before it counts.
-/
set_option autoImplicit false

namespace VolumeReclaim.CommandLine

def readEnvironment : IO Environment := do
  let names := Parameter.all.filterMap Parameter.environmentName?
  names.filterMapM fun name => do
    return (← IO.getEnv name).map (name, ·)

def rehearsal (listing : String) : Setting :=
  { kubectl := { replies := [{ ending := .completed { stdout := .str listing } }] } }

def rehearsalLimit : Nat := 1000

end VolumeReclaim.CommandLine

open VolumeReclaim CommandLine in
def main (arguments : List String) : IO UInt32 := do
  let environment ← readEnvironment
  let listing ← match CommandLine.parse arguments environment with
    | .ok (.run _) => do (← IO.getStdin).readToEnd
    | _ => pure ""
  let report := call arguments environment (rehearsal listing) rehearsalLimit {}
  IO.print report.console.stdout
  IO.eprint report.console.stderr
  if let some failure := report.escaped then
    IO.eprintln s!"Error: {failure.message}"
  return report.status.toUInt32
