import StateIntern.Walk

/-! Command-line options of a walk. -/
namespace StateIntern.Walk

inductive UsageError where
  | invalidValue (option value : String)
  | unexpected (argument : String)
  deriving DecidableEq, Repr

def UsageError.message : UsageError → String
  | .invalidValue option value => "invalid value '" ++ value ++ "' for '" ++ option ++ "'"
  | .unexpected argument => "unexpected argument '" ++ argument ++ "'"

structure Options where
  walk : Walk := {}
  /-- Whether to sum the walk up before the report. -/
  summary : Bool := true

namespace Options

/-- A value may follow its option or be joined to it by an equals sign. -/
def words (arguments : List String) : List String :=
  arguments.flatMap fun argument =>
    match argument.splitOn "=" with
    | [option, value] => if option.startsWith "--" then [option, value] else [argument]
    | _ => [argument]

/-- Whether the walk is summed up at a log level. -/
def summaryAt? (level : String) : Option Bool :=
  if level ∈ ["info", "debug", "trace"] then some true
  else if level ∈ ["off", "error", "warn"] then some false
  else none

def set (options : Options) (option value : String) : Except UsageError Options :=
  let changed : Option Options :=
    match option with
    | "--states" => value.toNat?.map fun n => { options with walk.states := n }
    | "--distinct" => value.toNat?.map fun n => { options with walk.distinct := n }
    | "--scheme" => (scheme? value).map fun s => { options with walk.scheme := s }
    | _ => (summaryAt? value).map fun b => { options with summary := b }
  match changed with
  | some options => .ok options
  | none => .error (.invalidValue option value)

/-- A later option overrides an earlier one of the same name. -/
def ofWords (options : Options) : List String → Except UsageError Options
  | [] => .ok options
  | [argument] => .error (.unexpected argument)
  | option :: value :: rest =>
    if option ∈ ["--states", "--distinct", "--scheme", "--log-level"] then
      match options.set option value with
      | .ok options => options.ofWords rest
      | .error e => .error e
    else .error (.unexpected option)

def ofArguments (arguments : List String) : Except UsageError Options :=
  ofWords {} (words arguments)

end Options

end StateIntern.Walk
