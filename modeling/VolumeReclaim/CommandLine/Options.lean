import VolumeReclaim.CommandLine.Help
import VolumeReclaim.CommandLine.Number
import VolumeReclaim.Json.Display
import VolumeReclaim.Poll
import VolumeReclaim.Text.Similarity

/-!
The options of the command line. The arguments are read from left to right first, and the first one
that cannot be read is reported. Then the values are checked, those given on the command line in the
order in which their options first came. An option that is not given takes its value from the
environment, unless that is empty, and a default otherwise.
-/
set_option autoImplicit false

namespace VolumeReclaim.CommandLine

inductive Parameter where
  | timeout
  | kubeContext
  | region
  | profile
  | pollInterval
  | verbose
  | help
deriving DecidableEq, Repr

namespace Parameter

def all : List Parameter :=
  [.timeout, .kubeContext, .region, .profile, .pollInterval, .verbose, .help]

def name : Parameter → String
  | .timeout => "--timeout"
  | .kubeContext => "--kube-context"
  | .region => "--region"
  | .profile => "--profile"
  | .pollInterval => "--poll-interval"
  | .verbose => "--verbose"
  | .help => "--help"

def letter? : Parameter → Option Char
  | .verbose => some 'v'
  | .help => some 'h'
  | _ => none

def environmentName? : Parameter → Option String
  | .timeout => some "PV_REAPER_TIMEOUT"
  | .kubeContext => some "PV_REAPER_KUBE_CONTEXT"
  | .region => some "AWS_REGION"
  | .profile => some "AWS_PROFILE"
  | _ => none

def takesValue : Parameter → Bool
  | .verbose | .help => false
  | _ => true

def ofName? (text : String) : Option Parameter :=
  all.find? (·.name = text)

def ofLetter? (c : Char) : Option Parameter :=
  all.find? (·.letter? = some c)

end Parameter

inductive UsageFault where
  | noSuchOption (name : String) (similar : List String)
  | missingValue (name : String)
  | needlessValue (name : String)
  | notANumber (parameter : Parameter) (text : String)
  | belowZero (parameter : Parameter) (value : Float)
  | extraArguments (arguments : List String)

namespace UsageFault

def suggestion : List String → String
  | [] => ""
  | [name] => s!" Did you mean {Text.quote name}?"
  | names =>
    let quoted := ", ".intercalate (names.map Text.quote)
    s!" (Did you mean one of: {quoted}?)"

def message : UsageFault → String
  | .noSuchOption name similar => s!"No such option {Text.quote name}.{suggestion similar}"
  | .missingValue name => s!"Option {Text.quote name} requires an argument."
  | .needlessValue name => s!"Option {Text.quote name} does not take a value."
  | .notANumber parameter text =>
    s!"Invalid value for {Text.quote parameter.name}: " ++
      s!"{Text.quote text} is not a valid float range."
  | .belowZero parameter value =>
    s!"Invalid value for {Text.quote parameter.name}: " ++
      s!"{(Json.float value).display} is not in the range x>=0."
  | .extraArguments arguments =>
    let noun := if arguments.length = 1 then "argument" else "arguments"
    let joined := " ".intercalate arguments
    s!"Got unexpected extra {noun} ({joined})"

def showsUsage : UsageFault → Bool
  | .missingValue _ | .needlessValue _ => false
  | _ => true

def text (fault : UsageFault) : String :=
  (if fault.showsUsage then usage ++ helpHint ++ "\n" else "") ++ s!"Error: {fault.message}\n"

end UsageFault

structure Arguments where
  given : List (Parameter × String) := []
  extra : List String := []
deriving Repr

namespace Arguments

def give (arguments : Arguments) (parameter : Parameter) (value : String) : Arguments :=
  { arguments with given := arguments.given ++ [(parameter, value)] }

def giveExtra (arguments : Arguments) (text : List String) : Arguments :=
  { arguments with extra := arguments.extra ++ text }

def has (arguments : Arguments) (parameter : Parameter) : Bool :=
  arguments.given.any (·.1 = parameter)

def last? (arguments : Arguments) (parameter : Parameter) : Option String :=
  (arguments.given.reverse.find? (·.1 = parameter)).map (·.2)

def order (arguments : Arguments) : List Parameter :=
  arguments.given.foldl (fun known (parameter, _) =>
    if parameter ∈ known then known else known ++ [parameter]) []

def giveLetters : List Char → Arguments → Except UsageFault Arguments
  | [], arguments => .ok arguments
  | c :: rest, arguments =>
    match Parameter.ofLetter? c with
    | some parameter => giveLetters rest (arguments.give parameter "")
    | none => .error (.noSuchOption (String.ofList ['-', c]) [])

def splitValue (argument : String) : String × Option String :=
  let name := argument.toList.takeWhile (· ≠ '=')
  match argument.toList.drop name.length with
  | _ :: value => (String.ofList name, some (String.ofList value))
  | [] => (argument, none)

/-- Whether an argument is written like an option. A dash alone is not. -/
def isOption (argument : String) : Bool :=
  match argument.toList with
  | '-' :: _ :: _ => true
  | _ => false

def read : List String → Arguments → Except UsageFault Arguments
  | [], arguments => .ok arguments
  | argument :: rest, arguments =>
    if argument = "--" then .ok (arguments.giveExtra rest)
    else if isOption argument then
      let (name, value?) := splitValue argument
      match Parameter.ofName? name with
      | some parameter =>
        if parameter.takesValue then
          match value? with
          | some value => read rest (arguments.give parameter value)
          | none =>
            match rest with
            | value :: rest => read rest (arguments.give parameter value)
            | [] => .error (.missingValue name)
        else
          match value? with
          | some _ => .error (.needlessValue name)
          | none => read rest (arguments.give parameter "")
      | none =>
        if argument.startsWith "--" then
          .error (.noSuchOption name (Text.similarNames (Parameter.all.map (·.name)) name))
        else
          match giveLetters argument.toList.tail arguments with
          | .ok arguments => read rest arguments
          | .error fault => .error fault
    else read rest (arguments.giveExtra [argument])

end Arguments

abbrev Environment := List (String × String)

/-- The value of a variable that is set and not empty. -/
def Environment.find? (environment : Environment) (name : String) : Option String :=
  (environment.lookup name).filter (· ≠ "")

def defaultTimeoutSeconds : Nat := 300

structure Options where
  timeout : Float := defaultTimeoutSeconds.toFloat
  kubeContext : Option String := none
  region : Option String := none
  profile : Option String := none
  pollInterval : Float := Poll.defaultInterval
  verbose : Bool := false

inductive Demand where
  | help
  | run (options : Options)

namespace Arguments

def text? (arguments : Arguments) (environment : Environment) (parameter : Parameter) :
    Option String :=
  arguments.last? parameter <|> parameter.environmentName?.bind environment.find?

/-- The number given for an option, which must not be below zero. Negative zero passes, and so does
what is no number. -/
def number (arguments : Arguments) (environment : Environment) (parameter : Parameter)
    (default : Float) : Except UsageFault Float :=
  match arguments.text? environment parameter with
  | none => .ok default
  | some text =>
    match number? text with
    | none => .error (.notANumber parameter text)
    | some value => if value < 0.0 then .error (.belowZero parameter value) else .ok value

def check (arguments : Arguments) (environment : Environment) (parameter : Parameter) :
    Except UsageFault Unit :=
  match parameter with
  | .timeout | .pollInterval => discard (arguments.number environment parameter 0.0)
  | _ => .ok ()

def demand (arguments : Arguments) (environment : Environment) : Except UsageFault Demand := do
  if arguments.has .help then return .help
  let given := arguments.order
  let rest := Parameter.all.filter (· ∉ given)
  (given ++ rest).forM (arguments.check environment)
  if arguments.extra ≠ [] then throw (.extraArguments arguments.extra)
  let defaults : Options := {}
  return .run {
    timeout := ← arguments.number environment .timeout defaults.timeout
    kubeContext := arguments.text? environment .kubeContext
    region := arguments.text? environment .region
    profile := arguments.text? environment .profile
    pollInterval := ← arguments.number environment .pollInterval defaults.pollInterval
    verbose := arguments.has .verbose }

end Arguments

def parse (arguments : List String) (environment : Environment) : Except UsageFault Demand := do
  (← Arguments.read arguments {}).demand environment

end VolumeReclaim.CommandLine
