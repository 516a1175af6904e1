import RecipientCallout.CommandLine.Basic

/-!
# Reading the command line

Options are read one by one until the first argument that is none. An option waits for its value, which
may begin with a hyphen unless it is an option itself; two hyphens end the options. What looks like an
option but is none of the known ones is taken for a value or for the address.
-/

namespace RecipientCallout.CommandLine
open RecipientCallout.Text

/-- Why reading stops before the command line is understood. -/
inductive Stop where
  /-- Help is asked for. -/
  | help
  | fault (f : Fault)
  deriving DecidableEq, Repr

/-- What has been read so far. -/
structure State where
  version : Bool := false
  config : Option RawText := none
  logLevel : Option String := none
  /-- The last option, with its value once that has come. -/
  pending : Option (ValueOption × Option RawText) := none

namespace State

/-- Sets the value of an option, once. -/
def assign (s : State) (option : ValueOption) (value : RawText) : Except Stop State :=
  match option with
  | .config =>
    if s.config.isSome then .error (.fault (.repeatedOption option))
    else if value = [] then .error (.fault (.valueRequired option))
    else .ok { s with config := some value }
  | .logLevel =>
    if s.logLevel.isSome then .error (.fault (.repeatedOption option))
    else
      match value.text? with
      | none => .error (.fault .notText)
      | some text => .ok { s with logLevel := some text }

/-- Settles the pending option, as no value can come any more. -/
def settle (s : State) : Except Stop State :=
  match s.pending with
  | none => .ok s
  | some (option, none) => .error (.fault (.valueRequired option))
  | some (option, some value) => { s with pending := none }.assign option value

/-- Whether the next argument can be the value of the pending option. -/
def wantsValue (s : State) : Option ValueOption :=
  match s.pending with
  | some (option, none) => some option
  | _ => none

end State

/-- An argument as the reader of options sees it. -/
inductive Shape where
  /-- Two hyphens alone. -/
  | terminator
  /-- A known flag, perhaps with a value behind an equals sign. -/
  | flag (flag : Flag) (value : Option RawText)
  /-- A known option, perhaps with a value behind an equals sign. -/
  | option (option : ValueOption) (value : Option RawText)
  /-- Two hyphens and a name that is no text. -/
  | unreadable (name : RawText)
  /-- Anything else. -/
  | plain

/-- The sign between the name of an option and its value. -/
def equals : Piece := .char '='

/-- The shape of two hyphens with a name and perhaps a value. -/
def longShape (name : RawText) (value : Option RawText) : Shape :=
  match name.text? with
  | none => .unreadable name
  | some text =>
    if text = Flag.version.name then .flag .version value
    else if text = Flag.help.name then .flag .help value
    else if text = ValueOption.config.name then .option .config value
    else if text = ValueOption.logLevel.name then .option .logLevel value
    else .plain

/-- The shape of an argument. -/
def shape (argument : RawText) : Shape :=
  match argument with
  | .char '-' :: .char '-' :: [] => .terminator
  | .char '-' :: .char '-' :: rest =>
    longShape (rest.takeWhile (· ≠ equals)) (rest.dropWhile (· ≠ equals)).tail?
  | .char '-' :: c :: rest => if (c :: rest).all (· = .char 'h') then .flag .help none else .plain
  | _ => .plain

/-- Reads options from the start of a command line; gives the fields that follow them. -/
def readOptions (s : State) : List RawText → Except Stop (State × List RawText)
  | [] => .ok (s, [])
  | argument :: rest =>
    match shape argument with
    | .terminator => .ok (s, rest)
    | .unreadable name => .error (.fault (.unexpectedArgument name.lossy))
    | .flag flag (some value) => .error (.fault (.unexpectedValue value.lossy flag))
    | .flag .help none =>
      match s.settle with
      | .error stop => .error stop
      | .ok _ => .error .help
    | .flag .version none =>
      match s.settle with
      | .error stop => .error stop
      | .ok s =>
        if s.version then .error (.fault (.repeatedFlag .version))
        else readOptions { s with version := true } rest
    | .option option (some value) =>
      match s.settle with
      | .error stop => .error stop
      | .ok s =>
        match s.assign option value with
        | .error stop => .error stop
        | .ok s => readOptions s rest
    | .option option none =>
      match s.settle with
      | .error stop => .error stop
      | .ok s => readOptions { s with pending := some (option, none) } rest
    | .plain =>
      match s.wantsValue with
      | some option => readOptions { s with pending := some (option, some argument) } rest
      | none => .ok (s, argument :: rest)

/-- The configuration file: by the option, or else by the environment, or else the default. -/
def chooseConfig (option environment : Option RawText) : Except Stop RawText :=
  match option, environment with
  | some path, _ => .ok path
  | none, some path =>
    if path = [] then .error (.fault (.valueRequired .config)) else .ok path
  | none, none => .ok (RawText.ofString defaultConfig)

/-- What a command line says under a value of the environment variable. -/
def parse (arguments : List RawText) (environment : Option RawText) : Except Stop Arguments := do
  let (s, fields) ← readOptions {} arguments
  let s ← s.settle
  match fields.mapM RawText.text? with
  | none => .error (.fault .notText)
  | some fields =>
    let config ← chooseConfig s.config environment
    pure ⟨s.version, config, s.logLevel, fields⟩

end RecipientCallout.CommandLine
