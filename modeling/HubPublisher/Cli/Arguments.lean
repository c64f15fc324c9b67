import HubPublisher.Text.Split

/-!
The arguments of the command line: a settings file, and a command with its options.

An option takes the next argument as its value unless that looks like an option itself, or has its
value attached. What is wrong with an option is found out when the next thing that is known follows
it, so of two faults an unknown argument may come before a bad value to its left. After two dashes
nothing is an option any more.
-/
namespace HubPublisher.Cli

open Text (splitFirst)

/-- Why arguments give no command. -/
inductive UsageFault where
  | help
  | version
  /-- There are no arguments at all. -/
  | nothingGiven
  | missingCommand
  | unknownCommand (name : String)
  | unknownArgument (argument : String)
  | missingValue (option : String)
  | emptyValue (option : String)
  | repeatedOption (option : String)
  | missingOption (option : String)
  /-- A flag has a value attached. -/
  | unneededValue (flag : String)
  deriving DecidableEq, Repr

namespace UsageFault

/-- Asking for help or for the version is no fault of the caller. -/
def exitCode : UsageFault → Nat
  | help => 0
  | version => 0
  | _ => 2

def message : UsageFault → String
  | help => ""
  | version => ""
  | nothingGiven => "a command is needed"
  | missingCommand => "a command is needed"
  | unknownCommand name => "unrecognized subcommand '" ++ name ++ "'"
  | unknownArgument argument => "unexpected argument '" ++ argument ++ "' found"
  | missingValue option => "a value is required for '--" ++ option ++ "' but none was supplied"
  | emptyValue option => "a value is required for '--" ++ option ++ "' but none was supplied"
  | repeatedOption option => "the argument '--" ++ option ++ "' cannot be used multiple times"
  | missingOption option => "the required argument '--" ++ option ++ "' was not provided"
  | unneededValue flag => "unexpected value for '--" ++ flag ++ "' found"

end UsageFault

/-! ## Commands -/

/-- The topic that a command is about. -/
structure TopicArguments where
  tenant : String
  eventUri : String
  deriving DecidableEq, Repr

structure PublishArguments where
  topic : TopicArguments
  payload : String
  correlationId : Option String
  deriving DecidableEq, Repr

inductive Command where
  | publish (args : PublishArguments)
  | register (args : TopicArguments)
  | deregister (args : TopicArguments)
  | check
  deriving DecidableEq, Repr

/-- A command and the settings file it goes by. -/
structure Invocation where
  config : String
  command : Command
  deriving DecidableEq, Repr

/-- The settings file if none is named. -/
def defaultConfig : String := "websubhub.toml"

/-! ## Options -/

structure OptionSpec where
  long : String
  short : Option Char
  /-- Whether the value names a file and so may not be empty. -/
  isPath : Bool
  deriving DecidableEq, Repr

def configOption : OptionSpec := ⟨"config", some 'c', true⟩
def tenantOption : OptionSpec := ⟨"tenant", none, false⟩
def eventUriOption : OptionSpec := ⟨"event-uri", none, false⟩
def payloadOption : OptionSpec := ⟨"payload", none, true⟩
def correlationIdOption : OptionSpec := ⟨"correlation-id", none, false⟩

/-- What may stand at one place of the command line. -/
structure Level where
  options : List OptionSpec
  /-- Whether the version can be asked for. -/
  hasVersion : Bool
  /-- The names of the commands that may follow. -/
  commands : List String

namespace Level

def long? (l : Level) (name : String) : Option OptionSpec := l.options.find? (·.long == name)

def short? (l : Level) (c : Char) : Option OptionSpec := l.options.find? (·.short == some c)

/-- What a flag asks for. -/
def longFlag? (l : Level) (name : String) : Option UsageFault :=
  if name = "help" then some .help
  else if name = "version" ∧ l.hasVersion then some .version
  else none

def shortFlag? (l : Level) (c : Char) : Option UsageFault :=
  if c = 'h' then some .help
  else if c = 'V' ∧ l.hasVersion then some .version
  else none

end Level

/-- The options read so far. -/
structure Given where
  /-- Options whose values are known to be good. -/
  values : List (String × String)
  /-- The option that was read last, with its value if that has been read. -/
  pending : Option (OptionSpec × Option String)

namespace Given

def empty : Given := ⟨[], none⟩

/-- Puts down the value of an option. -/
def record (g : Given) (o : OptionSpec) (value : String) : Except UsageFault Given :=
  if (g.values.lookup o.long).isSome then .error (.repeatedOption o.long)
  else if o.isPath ∧ value = "" then .error (.emptyValue o.long)
  else .ok { g with values := g.values ++ [(o.long, value)] }

/-- Puts down the option that was read last. -/
def resolve (g : Given) : Except UsageFault Given :=
  match g.pending with
  | none => .ok g
  | some (o, none) => .error (.missingValue o.long)
  | some (o, some value) => { g with pending := none }.record o value

/-- Reads an option, with its value if that is attached. -/
def read (g : Given) (o : OptionSpec) (attached : Option String) : Except UsageFault Given :=
  match g.resolve with
  | .error e => .error e
  | .ok g =>
    match attached with
    | some value => g.record o value
    | none => .ok { g with pending := some (o, none) }

/-- What a flag that was read asks for. -/
def flag (g : Given) (asked : UsageFault) : UsageFault :=
  match g.resolve with
  | .error e => e
  | .ok _ => asked

def get? (g : Given) (o : OptionSpec) : Option String := g.values.lookup o.long

end Given

/-! ## Reading -/

/-- An argument by its form. -/
inductive Word where
  /-- Two dashes alone. -/
  | escape
  | long (name : String) (attached : Option String)
  | short (c : Char) (rest : List Char)
  | plain
  deriving DecidableEq, Repr

def Word.of (s : String) : Word :=
  match s.toList with
  | ['-', '-'] => .escape
  | '-' :: '-' :: cs =>
    let (name, attached) := splitFirst '=' cs
    .long (String.ofList name) (attached.map String.ofList)
  | '-' :: c :: cs => .short c cs
  | _ => .plain

/-- The value attached to a short option, with an equals sign before it or not. -/
def attachedValue : List Char → Option String
  | [] => none
  | '=' :: cs => some (String.ofList cs)
  | cs => some (String.ofList cs)

/-- What came of the arguments of one level. -/
structure Reading where
  given : Given
  /-- The command that was named, and the arguments after it. -/
  command : Option (String × List String)

/-- The fault in an argument that is neither an option nor the value of one. -/
def strayFault (l : Level) (escaped : Bool) (s : String) : UsageFault :=
  if l.commands.isEmpty then .unknownArgument s
  else if escaped ∧ s ∈ l.commands then .unknownArgument s
  else .unknownCommand s

/-- Reads arguments up to a command or to the end. -/
def readLevel (l : Level) (escaped : Bool) (g : Given) : List String → Except UsageFault Reading
  | [] => .ok ⟨g, none⟩
  | s :: rest =>
    if escaped then .error (strayFault l true s)
    else
      match Word.of s with
      | .escape => readLevel l true g rest
      | .long name attached =>
        match l.long? name with
        | some o =>
          match g.read o attached with
          | .ok g => readLevel l false g rest
          | .error e => .error e
        | none =>
          match l.longFlag? name with
          | some asked =>
            if attached.isSome then .error (.unneededValue name) else .error (g.flag asked)
          | none => .error (.unknownArgument s)
      | .short c cs =>
        match l.short? c with
        | some o =>
          match g.read o (attachedValue cs) with
          | .ok g => readLevel l false g rest
          | .error e => .error e
        | none =>
          match l.shortFlag? c with
          | some asked => .error (g.flag asked)
          | none => .error (.unknownArgument s)
      | .plain =>
        match g.pending with
        | some (o, none) => readLevel l false { g with pending := some (o, some s) } rest
        | _ => if s ∈ l.commands then .ok ⟨g, some (s, rest)⟩ else .error (strayFault l false s)

/-! ## The levels -/

/-- The commands in the order in which help lists them. -/
def commandNames : List String := ["publish", "register", "deregister", "check"]

/-- The command that asks for help. -/
def helpCommand : String := "help"

def topLevel : Level := ⟨[configOption], true, commandNames ++ [helpCommand]⟩

/-- The options of a command, with those that it needs. -/
def commandLevel (name : String) : Level × List OptionSpec :=
  if name = "publish" then
    (⟨[configOption, tenantOption, eventUriOption, payloadOption, correlationIdOption], false, []⟩,
      [tenantOption, eventUriOption, payloadOption])
  else if name = "check" then (⟨[configOption], false, []⟩, [])
  else (⟨[configOption, tenantOption, eventUriOption], false, []⟩, [tenantOption, eventUriOption])

/-- What asking for help comes to: one command may be named. -/
def helpAbout : List String → UsageFault
  | [] => .help
  | [name] => if name ∈ topLevel.commands then .help else .unknownCommand name
  | name :: second :: _ =>
    if name ∈ topLevel.commands then .unknownCommand second else .unknownCommand name

/-- The command of a name, once all options it needs are given. -/
def commandOf (name : String) (g : Given) : Command :=
  let value (o : OptionSpec) := (g.get? o).getD ""
  let topic : TopicArguments := ⟨value tenantOption, value eventUriOption⟩
  if name = "publish" then .publish ⟨topic, value payloadOption, g.get? correlationIdOption⟩
  else if name = "register" then .register topic
  else if name = "deregister" then .deregister topic
  else .check

/-- Reads the arguments of a command. -/
def readCommand (name : String) (args : List String) : Except UsageFault (Command × Given) :=
  let (level, needed) := commandLevel name
  match readLevel level false .empty args with
  | .error e => .error e
  | .ok reading =>
    match reading.given.resolve with
    | .error e => .error e
    | .ok g =>
      match needed.find? fun o => (g.get? o).isNone with
      | some o => .error (.missingOption o.long)
      | none => .ok (commandOf name g, g)

/-- The command that arguments give. A settings file named after the command wins over one named
before it. -/
def Invocation.ofArguments (args : List String) : Except UsageFault Invocation :=
  match readLevel topLevel false .empty args with
  | .error e => .error e
  | .ok ⟨given, none⟩ =>
    match given.resolve with
    | .error e => .error e
    | .ok g => if g.values.isEmpty then .error .nothingGiven else .error .missingCommand
  | .ok ⟨given, some (name, rest)⟩ =>
    if name = helpCommand then .error (helpAbout rest)
    else
      match readCommand name rest with
      | .error e => .error e
      | .ok (command, own) =>
        match given.resolve with
        | .error e => .error e
        | .ok g =>
          .ok ⟨((own.get? configOption).or (g.get? configOption)).getD defaultConfig, command⟩

end HubPublisher.Cli
