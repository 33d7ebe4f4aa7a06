import PageHarvest.Text.Decimal

/-!
The command line. Options of files and of verbosity may stand before a command,
after it, or both, and the later one counts; at one place an option may be given
once. Long options are written in full, with their value after an equals sign
or as the next argument; short ones may be run together. Help and version are
asked for by the first such option that is reached.
-/

namespace PageHarvest.Cli

inductive StateAction where
  | «show»
  | reset
deriving DecidableEq, Repr

inductive Command where
  | spec
  | validate
  | check
  | read (maxPages : Option Nat) (skipMalformed : Bool) (rateLimit : Option Nat)
  | state (action : StateAction)
deriving DecidableEq, Repr

structure Arguments where
  config : Option String
  state : Option String
  verbose : Bool
  command : Command
deriving DecidableEq, Repr

inductive Halt where
  | help
  | version
  | usage
deriving DecidableEq, Repr

namespace Command

def describeOption : Option Nat → String
  | some n => "Some(" ++ toString n ++ ")"
  | none => "None"

def describe : Command → String
  | .spec => "Spec"
  | .validate => "Validate"
  | .check => "Check"
  | .read maxPages skipMalformed rateLimit =>
      "Read \x7b max_pages: " ++ describeOption maxPages ++ ", skip_malformed: " ++
        (if skipMalformed then "true" else "false") ++ ", rate_limit: " ++
        describeOption rateLimit ++ " \x7d"
  | .state .show => "State \x7b action: Show \x7d"
  | .state .reset => "State \x7b action: Reset \x7d"

end Command

inductive Flag where
  | config
  | state
  | verbose
  | maxPages
  | skipMalformed
  | rateLimit
  | help
  | version
deriving DecidableEq, Repr

namespace Flag

def takesValue : Flag → Bool
  | .config | .state | .maxPages | .rateLimit => true
  | _ => false

def longNames : List (String × Flag) :=
  [("config", .config), ("state", .state), ("verbose", .verbose), ("max-pages", .maxPages),
    ("skip-malformed", .skipMalformed), ("rate-limit", .rateLimit), ("help", .help),
    ("version", .version)]

def letters : List (Char × Flag) :=
  [('C', .config), ('s', .state), ('v', .verbose), ('h', .help), ('V', .version)]

def shared : List Flag := [.config, .state, .verbose, .help]

end Flag

/-- A number of 32 bits. Zero may have either sign. -/
def rateOfText? (text : String) : Option Nat :=
  match text.toList with
  | '-' :: ds => (Text.numeral? ds).filter (· = 0)
  | cs => Text.natOfBits? 32 cs

def Flag.admits (flag : Flag) (value : String) : Bool :=
  match flag with
  | .config | .state => value != ""
  | .maxPages => (Text.natOfBits? 64 value.toList).isSome
  | .rateLimit => (rateOfText? value).isSome
  | _ => true

/-- The options found at one place. The value of the last one is looked at only
when something else follows. -/
structure Given where
  values : List (Flag × String) := []
  pending : Option (Flag × String) := none
  /-- An option that still lacks its value. -/
  awaiting : Option Flag := none

namespace Given

/-- Takes an option, unless it was given before or cannot have this value. -/
def assign (g : Given) (flag : Flag) (value : String) : Except Halt Given :=
  if (g.values.lookup flag).isSome || !flag.admits value then .error .usage
  else .ok { g with values := g.values ++ [(flag, value)] }

def settle (g : Given) : Except Halt Given :=
  match g.awaiting, g.pending with
  | some _, _ => .error .usage
  | none, some (flag, value) => { g with pending := none }.assign flag value
  | none, none => .ok g

def add (g : Given) (flag : Flag) (value : String) : Except Halt Given := do
  let g ← g.settle
  match flag with
  | .help => throw .help
  | .version => throw .version
  | flag => g.assign flag value

/-- Takes an option of which the value is the next argument. -/
def await (g : Given) (flag : Flag) : Except Halt Given := do
  return { ← g.settle with awaiting := some flag }

def value? (g : Given) (flag : Flag) : Option String := g.values.lookup flag

def has (g : Given) (flag : Flag) : Bool := (g.value? flag).isSome

end Given

def readLong (known : List Flag) (g : Given) (text : String) : Except Halt Given :=
  let cs := text.toList
  let name := String.ofList (cs.takeWhile (· != '='))
  let attached := (cs.dropWhile (· != '=')).tail?.map String.ofList
  match (Flag.longNames.lookup name).filter known.contains with
  | none => .error .usage
  | some flag =>
      match flag.takesValue, attached with
      | true, some value => g.add flag value
      | true, none => g.await flag
      | false, none => g.add flag ""
      | false, some _ => .error .usage

/-- Reads short options that are run together, without their dash. -/
def readShort (known : List Flag) (g : Given) : List Char → Except Halt Given
  | [] => .ok g
  | c :: rest =>
      match (Flag.letters.lookup c).filter known.contains with
      | none => .error .usage
      | some flag =>
          if !flag.takesValue then do readShort known (← g.add flag "") rest
          else if rest.isEmpty then g.await flag
          else g.add flag (String.ofList (if rest.head? = some '=' then rest.drop 1 else rest))

/-- What was found at one place: options, and the name of a command with what
follows it. -/
structure Level where
  given : Given
  command : Option (String × List String)

/-- Reads arguments up to the name of a command. After two dashes nothing may
follow. -/
def readLevel (known : List Flag) (commands : List String) (g : Given) :
    List String → Except Halt Level
  | [] => .ok ⟨g, none⟩
  | arg :: rest =>
      if g.awaiting.isNone && commands.contains arg then .ok ⟨g, some (arg, rest)⟩
      else
        match arg.toList, g.awaiting with
        | ['-', '-'], none => if rest.isEmpty then .ok ⟨g, none⟩ else .error .usage
        | '-' :: '-' :: name, _ => do
            readLevel known commands (← readLong known g (String.ofList name)) rest
        | '-' :: c :: more, _ => do
            readLevel known commands (← readShort known g (c :: more)) rest
        | _, some flag =>
            readLevel known commands { g with awaiting := none, pending := some (flag, arg) } rest
        | _, none => .error .usage

def commandNames : List String := ["spec", "validate", "check", "read", "state", "help"]

def actionNames : List String := ["show", "reset", "help"]

/-- Help for names of commands, one below the other. -/
def helpFor (top : List String) : List String → Halt
  | [] => .help
  | [name] => if top.contains name then .help else .usage
  | name :: rest =>
      if top.contains name && name = "state" then
        (match rest with
        | [action] => if actionNames.contains action then .help else .usage
        | _ => .usage)
      else .usage

def readLeaf (known : List Flag) (args : List String) : Except Halt Given := do
  let level ← readLevel known [] {} args
  level.given.settle

/-- Reads what follows the name of a command: what to do, and the options found
on the way, the later ones first. -/
def readCommand (name : String) (args : List String) : Except Halt (Command × List Given) :=
  match name with
  | "help" => .error (helpFor commandNames args)
  | "spec" => do return (.spec, [← readLeaf Flag.shared args])
  | "validate" => do return (.validate, [← readLeaf Flag.shared args])
  | "check" => do return (.check, [← readLeaf Flag.shared args])
  | "read" => do
      let g ← readLeaf (Flag.shared ++ [.maxPages, .skipMalformed, .rateLimit]) args
      let maxPages := (g.value? .maxPages).bind fun v => Text.natOfBits? 64 v.toList
      return (.read maxPages (g.has .skipMalformed) ((g.value? .rateLimit).bind rateOfText?), [g])
  | _ => do
      let level ← readLevel Flag.shared actionNames {} args
      match level.command with
      | none => throw .usage
      | some ("help", rest) => throw (helpFor actionNames rest)
      | some (action, rest) =>
          let inner ← readLeaf Flag.shared rest
          let outer ← level.given.settle
          return (.state (if action = "show" then .show else .reset), [inner, outer])

def Arguments.parse (args : List String) : Except Halt Arguments := do
  let level ← readLevel (Flag.version :: Flag.shared) commandNames {} args
  match level.command with
  | none => throw .usage
  | some (name, rest) =>
      let (command, inner) ← readCommand name rest
      let places := inner ++ [← level.given.settle]
      return {
        config := places.findSome? (·.value? .config)
        state := places.findSome? (·.value? .state)
        verbose := places.any (·.has .verbose)
        command }

end PageHarvest.Cli
