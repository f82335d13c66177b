import RecordSynth.Command
/-!
# The command line

What the arguments of the program ask for. Options are read one after another; the first fault, or
the first wish for help, decides. A path that is not given as an option may be given by the
environment.
-/

namespace RecordSynth

/-- A command with what it is given. -/
inductive Command where
  | generate (request : GenerateRequest)
  | inspect (request : InspectRequest)
deriving DecidableEq, Repr

/-- What the arguments ask for. -/
inductive Invocation where
  | run (command : Command)
  | version
  | help
  /-- Arguments that make no sense. -/
  | misuse
deriving DecidableEq, Repr

/-! ## Options -/

/-- What an option takes. -/
inductive OptionKind where
  /-- Nothing, and it is given once. -/
  | flag
  /-- A value, and it is given once. -/
  | single
  /-- A value, each time it is given. -/
  | repeated
deriving DecidableEq, Repr

/-- An option of a command. -/
structure CommandOption where
  name : String
  kind : OptionKind := .single
  /-- Which values it takes. -/
  accepts : String → Bool := (· ≠ "")

/-- Options as they are given: names and values, in order. -/
abbrev GivenOptions := List (String × String)

namespace GivenOptions

/-- The value of an option. -/
def value? (g : GivenOptions) (name : String) : Option String := g.lookup name

/-- Whether an option is given. -/
def has (g : GivenOptions) (name : String) : Bool := (g.value? name).isSome

/-- All values of an option. -/
def values (g : GivenOptions) (name : String) : List String :=
  (g.filter (·.1 == name)).map (·.2)

/-- The assignments among the values of an option. -/
def assignments (g : GivenOptions) (name : String) : List (String × String) :=
  (g.values name).filterMap fun s => (parseAssignment s).toOption

end GivenOptions

/-- Options that are read in part. -/
inductive OptionReading where
  | given (options : GivenOptions)
  | help
  | misuse
deriving DecidableEq, Repr

/-- The name and the attached value of an argument behind its two dashes. -/
def splitOption (s : List Char) : String × Option String :=
  let name := s.takeWhile (· ≠ '=')
  let value := match s.drop name.length with
    | [] => none
    | _ :: v => some (String.ofList v)
  (String.ofList name, value)

/-- Whether an argument stands for a value: it does not start with a dash, or is only one. -/
def isValue (arg : String) : Bool := arg.toList.head? != some '-' || arg == "-"

/-- Reads the arguments of a command with the given options, behind those read so far. -/
def readOptions (options : List CommandOption) (g : GivenOptions) : List String → OptionReading
  | [] => .given g
  | arg :: args =>
    match arg.toList with
    | ['-', '-'] => if args = [] then .given g else .misuse
    | '-' :: '-' :: s =>
      let (name, attached) := splitOption s
      match options.find? (·.name == name) with
      | none => if name = "help" ∧ attached = none then .help else .misuse
      | some o =>
        if o.kind ≠ .repeated ∧ g.has name then .misuse
        else
          match o.kind, attached, args with
          | .flag, none, args => readOptions options (g ++ [(name, "")]) args
          | .flag, some _, _ => .misuse
          | _, some v, args =>
            if o.accepts v then readOptions options (g ++ [(name, v)]) args else .misuse
          | _, none, v :: args =>
            if isValue v ∧ o.accepts v then readOptions options (g ++ [(name, v)]) args
            else .misuse
          | _, none, [] => .misuse
    | '-' :: 'h' :: _ => .help
    | _ => .misuse

/-! ## Commands -/

/-- The variables of the environment. -/
abbrev Environment := String → Option String

/-- The value of a path: that of its option, or that of a variable of the environment. No result at
all if the variable is empty. -/
def pathOf? (g : GivenOptions) (env : Environment) (name fallback : String) :
    Option (Option String) :=
  match g.value? name, env fallback with
  | some v, _ => some (some v)
  | none, some v => if v = "" then none else some (some v)
  | none, none => some none

/-- Whether a text is an assignment. -/
def isAssignment (s : String) : Bool := (parseAssignment s).toOption.isSome

/-- The options of every command. -/
def inputOptions : List CommandOption :=
  [{ name := "schema" }, { name := "config" },
    { name := "service-property", kind := .repeated, accepts := isAssignment },
    { name := "domain-property", kind := .repeated, accepts := isAssignment }]

/-- The inputs that options and the environment give. The schema has to be among them. -/
def Inputs.ofOptions? (g : GivenOptions) (env : Environment) : Option Inputs := do
  let schema ← pathOf? g env "schema" "SVCGEN_SCHEMA"
  let config ← pathOf? g env "config" "SVCGEN_CONFIG"
  some {
    schema := ← schema, config
    serviceProperties := g.assignments "service-property"
    domainProperties := g.assignments "domain-property" }

/-- The options of the generating command. -/
def GenerateRequest.options : List CommandOption :=
  inputOptions ++ [{ name := "out" }, { name := "dry-run", kind := .flag }]

/-- The request that options give. -/
def GenerateRequest.ofOptions? (g : GivenOptions) (env : Environment) : Option GenerateRequest := do
  some {
    inputs := ← Inputs.ofOptions? g env
    out := (g.value? "out").getD "."
    dryRun := g.has "dry-run" }

/-- The options of the inspecting command. -/
def InspectRequest.options : List CommandOption :=
  inputOptions ++
    [{ name := "format", accepts := fun s => (DocumentFormat.ofLabel? s).isSome },
      { name := "output" }]

/-- The request that options give. -/
def InspectRequest.ofOptions? (g : GivenOptions) (env : Environment) : Option InspectRequest := do
  some {
    inputs := ← Inputs.ofOptions? g env
    format := ((g.value? "format").bind DocumentFormat.ofLabel?).getD .yaml
    output := g.value? "output" }

namespace Invocation

/-- What options ask for. -/
def ofReading (make : GivenOptions → Option Command) : OptionReading → Invocation
  | .help => .help
  | .misuse => .misuse
  | .given g =>
    match make g with
    | some c => .run c
    | none => .misuse

/-- Whether arguments name something that there is help for. -/
def isHelpTopic : List String → Bool
  | [] => true
  | [topic] => ["generate", "inspect", "help"].contains topic
  | _ => false

/-- What arguments ask for. -/
def parse (env : Environment) : List String → Invocation
  | [] => .misuse
  | arg :: args =>
    match arg with
    | "generate" =>
      ofReading (fun g => (GenerateRequest.ofOptions? g env).map .generate)
        (readOptions GenerateRequest.options [] args)
    | "inspect" =>
      ofReading (fun g => (InspectRequest.ofOptions? g env).map .inspect)
        (readOptions InspectRequest.options [] args)
    | "help" => if isHelpTopic args then .help else .misuse
    | "--help" => .help
    | "--version" => .version
    | _ =>
      match arg.toList with
      | '-' :: 'h' :: _ => .help
      | '-' :: 'V' :: _ => .version
      | _ => .misuse

end Invocation

/-! ## Running -/

/-- How a run of the program ends. -/
inductive Outcome where
  | done
  | failed (error : Error)
  | misused
deriving DecidableEq, Repr

/-- The exit status of the program. -/
def Outcome.status : Outcome → UInt32
  | .done => 0
  | .failed _ => 1
  | .misused => 2

/-- The name and version of the program. -/
def versionLine : String := "svcgen-cli 0.1.0"

/-- How the program is used. -/
def usage : String := "Usage: svcgen <generate|inspect> --schema <SCHEMA> [OPTIONS]"

variable {m : Type → Type} [Monad m] [MonadJournal m]

/-- Runs a command. -/
def Command.run (c : Command) (h : Host m) : ExceptT Error m Unit :=
  match c with
  | .generate r => do let _ ← r.run h
  | .inspect r => r.run h

/-- Does what the arguments ask for. -/
def Invocation.execute (i : Invocation) (h : Host m) : m Outcome :=
  match i with
  | .misuse => pure .misused
  | .help => do
    h.print usage
    return .done
  | .version => do
    h.print versionLine
    return .done
  | .run c => do
    match ← c.run h with
    | .ok () => return .done
    | .error e => return .failed e

end RecordSynth
