/-!
The diary of a run: lines with a level, in the order in which they were written.
-/
set_option autoImplicit false

namespace VolumeReclaim

inductive Level where
  | debug
  | info
  | warning
deriving DecidableEq, Repr

def Level.name : Level → String
  | .debug => "DEBUG"
  | .info => "INFO"
  | .warning => "WARNING"

structure LogLine where
  level : Level
  text : String
deriving DecidableEq, Repr

def defaultLogger : String := "pv_reaper.cleanup"

def rootLogger : String := "root"

/-- The name that the lines of a diary carry. Without a name of its own it is the root's. -/
def loggerName (given : String) : String :=
  if given = "" then rootLogger else given

structure Logged (S : Type) where
  state : S
  lines : Array LogLine := #[]

namespace Logged

variable {S : Type}

def note (run : Logged S) (level : Level) (text : String) : Logged S :=
  { run with lines := run.lines.push ⟨level, text⟩ }

def perform {α : Type} (run : Logged S) (step : S → α × S) : α × Logged S :=
  let (result, state) := step run.state
  (result, { run with state })

end Logged

end VolumeReclaim
