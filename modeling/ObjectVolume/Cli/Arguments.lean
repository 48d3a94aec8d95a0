/-!
# Command-line arguments

The rules by which a list of arguments gives options their values. A command has options, each with
one value, at most one positional argument, and possibly subcommands, one of which takes over the
arguments after its name. Options may also take their values from environment variables and, at
last, from defaults.

| here | there |
| --- | --- |
| `Spec`, `OptionSpec`, `Flag` | what `clap` derives from the attributes of `Cli`, `Command` and `SecretBundle` |
| `Spec.readAll` | how `clap` matches arguments |
| `Spec.finish` | how it adds values of the environment and defaults |
| `Refusal` | its errors |
-/
namespace ObjectVolume.Cli

/-- Why arguments are not accepted, or not acted on. -/
inductive Refusal where
  | unknownArgument
  | invalidSubcommand
  /-- An option stands without a value. -/
  | invalidValue
  /-- An option with a single value is given twice. -/
  | argumentConflict
  /-- A value is not of the kind the option takes. -/
  | valueValidation
  /-- A flag is given a value. -/
  | tooManyValues
  | missingSubcommand
  | missingRequiredArgument
  /-- Nothing at all is given. -/
  | helpForMissingArguments
  /-- Help is asked for. -/
  | help
  /-- The version is asked for. -/
  | version
  deriving DecidableEq, Repr

namespace Refusal

def message : Refusal → String
  | unknownArgument => "unknown argument"
  | invalidSubcommand => "unknown command"
  | invalidValue => "an option has no value"
  | argumentConflict => "an option is given twice"
  | valueValidation => "a value is not of the kind its option takes"
  | tooManyValues => "a flag takes no value"
  | missingSubcommand => "no command is given"
  | missingRequiredArgument => "an argument is missing"
  | helpForMissingArguments => "nothing is given"
  | help => "help"
  | version => "version"

/-- Asking for help or the version is no mistake. -/
def exitCode : Refusal → Nat
  | help | version => 0
  | _ => 2

end Refusal

/-! ## Integers -/

/-- Value of an unsigned decimal numeral. -/
def digitsValue? (cs : List Char) : Option Nat :=
  if cs.isEmpty ∨ cs.any (!·.isDigit) then none
  else some (cs.foldl (fun n c => 10 * n + (c.toNat - '0'.toNat)) 0)

/-- Reads an unsigned 64-bit integer, which may start with a plus sign. -/
def readUnsigned? (s : String) : Option Nat :=
  let digits :=
    match s.toList with
    | '+' :: r => r
    | cs => cs
  (digitsValue? digits).filter (· < UInt64.size)

/-- Reads a signed 64-bit integer, which may start with a sign. -/
def readSigned? (s : String) : Option Int :=
  let value? : Option Int :=
    match s.toList with
    | '-' :: r => (digitsValue? r).map Int.negOfNat
    | '+' :: r => (digitsValue? r).map Int.ofNat
    | cs => (digitsValue? cs).map Int.ofNat
  value?.filter fun n => Int64.minValue.toInt ≤ n && n ≤ Int64.maxValue.toInt

/-! ## Commands -/

/-- The values an option takes. -/
inductive ValueKind where
  | text
  | signed
  | unsigned
  deriving DecidableEq, Repr

def ValueKind.accepts (k : ValueKind) (value : String) : Bool :=
  match k with
  | text => true
  | signed => (readSigned? value).isSome
  | unsigned => (readUnsigned? value).isSome

/-- An option `--name`. -/
structure OptionSpec where
  name : String
  kind : ValueKind := .text
  /-- The environment variable that stands in for the option. -/
  envName? : Option String := none
  /-- The option may be given several times and collects its values. -/
  repeatable : Bool := false
  /-- There has to be a value. -/
  required : Bool := false
  deriving DecidableEq, Repr

/-- A flag that ends the reading of arguments. -/
structure Flag where
  name : String
  letter : Char
  effect : Refusal
  deriving DecidableEq, Repr

structure Spec where
  options : List OptionSpec
  flags : List Flag
  /-- There is one positional argument, and it has to be given. -/
  positional : Bool := false
  subcommands : List String := []
  deriving DecidableEq, Repr

/-! ## Reading arguments -/

/-- What has been read. -/
structure State where
  /-- Values by option, in order. -/
  values : List (String × String) := []
  /-- The last option, whose value is taken up only when something else follows; without a value
  the next argument is its value. -/
  pending : Option (OptionSpec × Option String) := none
  positional : Option String := none
  /-- After two hyphens all arguments are positional. -/
  trailing : Bool := false
  deriving DecidableEq, Repr

namespace State

/-- The option waits for its value. -/
def isWaiting (s : State) : Bool :=
  match s.pending with
  | some (_, none) => true
  | _ => false

/-- Gives an option a value. -/
def take (s : State) (o : OptionSpec) (value : String) : Except Refusal State :=
  if !o.repeatable ∧ s.values.any (·.1 == o.name) then .error .argumentConflict
  else if o.kind.accepts value then .ok { s with values := s.values ++ [(o.name, value)] }
  else .error .valueValidation

/-- Takes up the value of the last option. -/
def settle (s : State) : Except Refusal State :=
  match s.pending with
  | none => .ok s
  | some (_, none) => .error .invalidValue
  | some (o, some value) => { s with pending := none }.take o value

end State

/-- An argument that starts with two hyphens: a name, and a value after an equals sign. -/
def splitLong (cs : List Char) : String × Option String :=
  (String.ofList (cs.takeWhile (· != '=')),
    match cs.dropWhile (· != '=') with
    | _ :: value => some (String.ofList value)
    | [] => none)

/-- `--name` or `--name=value`. -/
def Spec.readLong (c : Spec) (s : State) (cs : List Char) : Except Refusal State := do
  let (name, value) := splitLong cs
  match c.options.find? (·.name == name), c.flags.find? (·.name == name) with
  | some o, _ =>
    let s ← s.settle
    match value with
    | some v => s.take o v
    | none => return { s with pending := some (o, none) }
  | none, some flag =>
    if value.isSome then throw .tooManyValues
    let _ ← s.settle
    throw flag.effect
  | none, none => throw .unknownArgument

/-- Letters after one hyphen. The first one decides, as all of them are flags. -/
def Spec.readShort (c : Spec) (s : State) (letter : Char) : Except Refusal State := do
  match c.flags.find? (·.letter == letter) with
  | some flag =>
    let _ ← s.settle
    throw flag.effect
  | none => throw .unknownArgument

/-- A positional argument. -/
def Spec.readPositional (c : Spec) (s : State) (value : String) : Except Refusal State := do
  if c.positional ∧ s.positional.isNone then
    let s ← s.settle
    return { s with positional := some value }
  else if s.trailing ∧ c.subcommands.contains value then throw .unknownArgument
  else if c.subcommands.isEmpty then throw .unknownArgument
  else throw .invalidSubcommand

/-- One argument that is not the name of a subcommand. -/
def Spec.readArgument (c : Spec) (s : State) (argument : String) : Except Refusal State :=
  if s.trailing then c.readPositional s argument
  else
    match argument.toList with
    | ['-', '-'] => .ok { s with trailing := true }
    | '-' :: '-' :: cs => c.readLong s cs
    | '-' :: letter :: _ => c.readShort s letter
    | _ =>
      match s.pending with
      | some (o, none) => .ok { s with pending := some (o, some argument) }
      | _ => c.readPositional s argument

/-- Reads arguments up to the name of a subcommand; gives that and the arguments after it. -/
def Spec.readAll (c : Spec) (s : State) :
    List String → Except Refusal (State × Option (String × List String))
  | [] => .ok (s, none)
  | argument :: rest =>
    if !s.trailing ∧ !s.isWaiting ∧ c.subcommands.contains argument then
      .ok (s, some (argument, rest))
    else do
      let s ← c.readArgument s argument
      c.readAll s rest

/-! ## Values -/

/-- Where the value of an option may come from. -/
abbrev Environment := String → Option String

/-- The values read for a command, and those of the environment for the other options. -/
structure Matches where
  given : List (String × String)
  inherited : List (String × String)
  positional : Option String
  deriving DecidableEq, Repr

namespace Matches

/-- Values given for an option as arguments. -/
def argumentsFor (m : Matches) (name : String) : List String :=
  m.given.filterMap fun (n, v) => if n = name then some v else none

def argumentFor? (m : Matches) (name : String) : Option String :=
  (m.argumentsFor name).head?

/-- The value of an option, from the arguments or else from the environment. -/
def value? (m : Matches) (name : String) : Option String :=
  m.argumentFor? name <|> m.inherited.lookup name

end Matches

/-- The values that the environment has for options that are not given. -/
def inherit (env : Environment) (given : List (String × String)) :
    List OptionSpec → Except Refusal (List (String × String))
  | [] => .ok []
  | o :: rest => do
    match if given.any (·.1 == o.name) then none else o.envName?.bind env with
    | some value =>
      if o.kind.accepts value then return (o.name, value) :: (← inherit env given rest)
      else throw .valueValidation
    | none => inherit env given rest

/-- What is given when the arguments of a command have all been read. -/
def Spec.finish (c : Spec) (env : Environment) (s : State) : Except Refusal Matches := do
  let s ← s.settle
  return ⟨s.values, ← inherit env s.values c.options, s.positional⟩

/-- Refuses commands that lack something. -/
def Spec.checkRequired (c : Spec) (m : Matches) : Except Refusal Unit :=
  if c.options.any (fun o => o.required && (m.value? o.name).isNone) ∨
    (c.positional ∧ m.positional.isNone) then .error .missingRequiredArgument
  else .ok ()

end ObjectVolume.Cli
