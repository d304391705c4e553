/-!
# Command line arguments

The program has three commands:

    compile [INPUT] [-o FILE] [-v] [--color WHEN]
    check   [INPUT] [--color WHEN]
    dump    [BINARY] [--format FORMAT] [--color WHEN]

Arguments are read from left to right.  A value that stands in an argument of its own is settled
only when the next option or positional argument is accepted, or at the end; so an unknown argument
after it is reported in its place.  A value that is attached to its option is settled at once.
-/

namespace Patchbay.Cli

/-- Why the arguments do not ask for one of the commands. -/
inductive Refusal where
  | help
  | version
  | missingCommand
  | unknownCommand
  | unknownArgument
  | conflict
  | invalidValue
  | tooManyValues
deriving DecidableEq, Repr

/-- The exit status of a refusal: asking for help or for the version is no mistake. -/
def Refusal.exitStatus : Refusal → Nat
  | help => 0
  | version => 0
  | _ => 2

/-- When output is coloured. -/
inductive Coloring where
  /-- If it goes to a terminal. -/
  | auto
  | always
  | never
deriving DecidableEq, Repr

/-- Whether output is coloured, given whether it goes to a terminal. -/
def Coloring.colorize (terminal : Bool) : Coloring → Bool
  | auto => terminal
  | always => true
  | never => false

/-- The form of a dump. -/
inductive DumpForm where
  | text
  | json
deriving DecidableEq, Repr

/-- What the arguments ask for. -/
inductive Invocation where
  | compile (input output : Option String) (verbose : Bool) (color : Coloring)
  | check (input : Option String) (color : Coloring)
  | dump (input : Option String) (format : DumpForm) (color : Coloring)
deriving DecidableEq, Repr

/-- Whether the output of an invocation is coloured, given whether it goes to a terminal.  A dump in
JSON never is. -/
def Invocation.colorize (terminal : Bool) : Invocation → Bool
  | compile _ _ _ color => color.colorize terminal
  | check _ color => color.colorize terminal
  | dump _ .text color => color.colorize terminal
  | dump _ .json _ => false

/-- The commands. -/
inductive CommandName where
  | compile
  | check
  | dump
deriving DecidableEq, Repr

/-- The command with the given name. -/
def CommandName.ofText? (name : String) : Option CommandName :=
  if name = "compile" then some .compile
  else if name = "check" then some .check
  else if name = "dump" then some .dump
  else none

/-- The things that arguments can set. -/
inductive Slot where
  | input
  | output
  | verbose
  | color
  | format
deriving DecidableEq, Repr

namespace Slot

/-- Whether a value is acceptable; the flag has no value. -/
def accepts (slot : Slot) (value : String) : Bool :=
  match slot with
  | input => !value.isEmpty
  | output => !value.isEmpty
  | verbose => true
  | color => ["auto", "always", "never"].contains value
  | format => ["text", "json"].contains value

end Slot

/-- An option that a command knows. -/
inductive Switch where
  | help
  | flag (slot : Slot)
  | valued (slot : Slot)
deriving DecidableEq, Repr

namespace CommandName

/-- The long options of a command. -/
def long? (command : CommandName) (name : List Char) : Option Switch :=
  match command, String.ofList name with
  | _, "help" => some .help
  | _, "color" => some (.valued .color)
  | compile, "output" => some (.valued .output)
  | compile, "verbose" => some (.flag .verbose)
  | dump, "format" => some (.valued .format)
  | _, _ => none

/-- The short options of a command. -/
def short? (command : CommandName) (letter : Char) : Option Switch :=
  match command, letter with
  | _, 'h' => some .help
  | compile, 'o' => some (.valued .output)
  | compile, 'v' => some (.flag .verbose)
  | _, _ => none

end CommandName

/-- The arguments of a command read so far. -/
structure Reading where
  /-- What has been settled. -/
  settled : List (Slot × String)
  /-- An option that waits for its value, or a value that is not settled yet. -/
  pending : Option (Slot × Option String)
  /-- Whether the positional argument has been given. -/
  positional : Bool
  /-- Whether all further arguments are positional. -/
  escaped : Bool
deriving DecidableEq, Repr

namespace Reading

/-- Before the first argument. -/
def initial : Reading := ⟨[], none, false, false⟩

/-- The settled value of a slot. -/
def get? (reading : Reading) (slot : Slot) : Option String :=
  reading.settled.lookup slot

/-- Settles a value: a slot is set once, and only to a value it accepts. -/
def settle (slot : Slot) (value : String) (reading : Reading) : Except Refusal Reading :=
  if (reading.get? slot).isSome then .error .conflict
  else if slot.accepts value then
    .ok { reading with settled := reading.settled ++ [(slot, value)] }
  else .error .invalidValue

/-- Settles what is pending; an option without its value is refused. -/
def resolve (reading : Reading) : Except Refusal Reading :=
  match reading.pending with
  | none => .ok reading
  | some (_, none) => .error .invalidValue
  | some (slot, some value) => settle slot value { reading with pending := none }

/-- Takes an option together with a value attached to it, if there is one. -/
def option (switch : Switch) (attached : Option String) (reading : Reading) :
    Except Refusal Reading :=
  match switch, attached with
  | .help, none => do
    let _ ← reading.resolve
    throw .help
  | .help, some _ => .error .tooManyValues
  | .flag slot, none => do (← reading.resolve).settle slot ""
  | .flag _, some _ => .error .tooManyValues
  | .valued slot, some value => do (← reading.resolve).settle slot value
  | .valued slot, none => do return { ← reading.resolve with pending := some (slot, none) }

/-- Takes a positional argument; there is only one. -/
def addPositional (argument : String) (reading : Reading) : Except Refusal Reading :=
  if reading.positional then .error .unknownArgument
  else do
    return { ← reading.resolve with pending := some (.input, some argument), positional := true }

/-- Takes an argument `--name` or `--name=value`. -/
def addLong (command : CommandName) (text : List Char) (reading : Reading) :
    Except Refusal Reading :=
  let name := text.takeWhile (· != '=')
  let attached :=
    match text.dropWhile (· != '=') with
    | [] => none
    | _ :: value => some (String.ofList value)
  match command.long? name with
  | none => .error .unknownArgument
  | some switch => reading.option switch attached

/-- Takes an argument of short options.  Flags may be followed by further options; what follows an
option with a value is the value, with or without an equals sign. -/
def addShort (command : CommandName) : List Char → Reading → Except Refusal Reading
  | [], reading => .ok reading
  | letter :: rest, reading =>
    match command.short? letter with
    | none => .error .unknownArgument
    | some (.valued slot) =>
      let attached :=
        match rest with
        | [] => none
        | '=' :: value => some (String.ofList value)
        | value => some (String.ofList value)
      reading.option (.valued slot) attached
    | some switch => do addShort command rest (← reading.option switch none)

/-- Takes an argument that is no option: the value that an option waits for, or the positional
argument. -/
def addWord (argument : String) (reading : Reading) : Except Refusal Reading :=
  match reading.pending with
  | some (slot, none) => .ok { reading with pending := some (slot, some argument) }
  | _ => reading.addPositional argument

/-- Takes one argument. -/
def add (command : CommandName) (reading : Reading) (argument : String) :
    Except Refusal Reading :=
  if reading.escaped then reading.addPositional argument
  else if argument = "--" then .ok { reading with escaped := true }
  else
    match argument.toList with
    | '-' :: '-' :: text => reading.addLong command text
    | ['-'] => reading.addWord argument
    | '-' :: letters => reading.addShort command letters
    | _ => reading.addWord argument

/-- The colour choice that has been settled. -/
def color (reading : Reading) : Coloring :=
  match reading.get? .color with
  | some "always" => .always
  | some "never" => .never
  | _ => .auto

/-- The form of a dump that has been settled. -/
def format (reading : Reading) : DumpForm :=
  match reading.get? .format with
  | some "json" => .json
  | _ => .text

/-- What the settled arguments ask for. -/
def invocation (reading : Reading) : CommandName → Invocation
  | .compile =>
    .compile (reading.get? .input) (reading.get? .output) (reading.get? .verbose).isSome
      reading.color
  | .check => .check (reading.get? .input) reading.color
  | .dump => .dump (reading.get? .input) reading.format reading.color

end Reading

/-- Reads the arguments of a command. -/
def commandArguments (command : CommandName) (arguments : List String) :
    Except Refusal Invocation := do
  let reading ← arguments.foldlM (Reading.add command) .initial
  return (← reading.resolve).invocation command

/-- Reads the arguments of `help`: the name of a command or of `help` itself may follow. -/
def helpArguments : List String → Refusal
  | [] => .help
  | [name] =>
    if (CommandName.ofText? name).isSome || name = "help" then .help else .unknownCommand
  | _ => .unknownCommand

/-- Refuses short options before a command. -/
def leadingShort : List Char → Refusal
  | 'h' :: _ => .help
  | 'V' :: _ => .version
  | _ => .unknownArgument

/-- Refuses a long option before a command. -/
def leadingLong (text : List Char) : Refusal :=
  let known : Option Refusal :=
    match String.ofList (text.takeWhile (· != '=')) with
    | "help" => some .help
    | "version" => some .version
    | _ => none
  match known with
  | none => .unknownArgument
  | some refusal => if text.contains '=' then .tooManyValues else refusal

/-- Refuses what follows `--` in the place of a command. -/
def escapedCommand : List String → Refusal
  | [] => .missingCommand
  | word :: _ =>
    if (CommandName.ofText? word).isSome || word = "help" then .unknownArgument
    else .unknownCommand

/-- Reads the arguments of the program. -/
def parseArguments : List String → Except Refusal Invocation
  | [] => .error .missingCommand
  | first :: rest =>
    match CommandName.ofText? first with
    | some command => commandArguments command rest
    | none =>
      if first = "help" then .error (helpArguments rest)
      else if first = "--" then .error (escapedCommand rest)
      else
        match first.toList with
        | '-' :: '-' :: text => .error (leadingLong text)
        | ['-'] => .error .unknownCommand
        | '-' :: letters => .error (leadingShort letters)
        | _ => .error .unknownCommand

end Patchbay.Cli
