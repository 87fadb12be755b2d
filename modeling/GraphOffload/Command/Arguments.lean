import GraphOffload.Command.Options

/-!
# Arguments

The arguments of the program are read from left to right. The first one that makes no sense, or that
asks for help, decides; what is missing is noticed at the end.

## Main definitions

* `GraphOffload.CommandLine` : what the program is to do.
* `GraphOffload.CommandLine.Refusal` : why it does nothing.
* `GraphOffload.CommandLine.parse` : what arguments mean.
-/

namespace GraphOffload

/-- What is to be built. -/
structure BuildArguments where
  input : String
  output : String
  fieldName : String
  buildUnit : String
  similarity : Similarity
  engine : String
  deriving DecidableEq

/-- What is to be done. -/
inductive CommandLine.Action
  | build (arguments : BuildArguments)
  | status (jobId : String)
  deriving DecidableEq

/-- What the program is to do. -/
structure CommandLine where
  settingsFile : Option String
  action : CommandLine.Action
  deriving DecidableEq

namespace CommandLine

/-- What is wrong with arguments. -/
inductive Misuse
  | noCommand
  | unknownCommand (word : String)
  | unexpected (argument : String)
  | noValue (spec : CommandOption)
  | badValue (spec : CommandOption) (value : String)
  | repeated (spec : CommandOption)
  | missing (name : String)
  deriving DecidableEq

/-- The text for people. -/
def Misuse.message : Misuse → String
  | .noCommand => "a command is required"
  | .unknownCommand word => "unrecognized command: " ++ word
  | .unexpected argument => "unexpected argument: " ++ argument
  | .noValue spec => "a value is required for " ++ spec.usage
  | .badValue spec value => "invalid value for " ++ spec.usage ++ ": " ++ value
  | .repeated spec => spec.usage ++ " cannot be used multiple times"
  | .missing name => "required but not given: " ++ name

/-- Why the program does nothing. -/
inductive Refusal
  | help (level : CommandLevel)
  | misuse (reason : Misuse)
  deriving DecidableEq

/-! ### One argument -/

/-- What an argument is. -/
inductive Reading
  | help
  /-- All that follows is no option. -/
  | separator
  /-- An option, with its value if that is part of the argument. -/
  | option (spec : CommandOption) (value : Option String)
  | operand
  | unexpected

/-- Whether an argument looks like an option. -/
def isOptionLike (argument : String) : Bool :=
  match argument.toList with
  | '-' :: _ :: _ => true
  | _ => false

/-- An option whose name is written out, perhaps with its value after an equals sign. -/
def readLong (level : CommandLevel) (text : List Char) : Reading :=
  let (name, rest) := text.span (· ≠ '=')
  let value := if rest.isEmpty then none else some (String.ofList (rest.drop 1))
  match level.options.find? (·.name.toList = name) with
  | some spec => .option spec value
  | none => if name = "help".toList ∧ value.isNone then .help else .unexpected

/-- An option by its letter, perhaps with its value after it. -/
def readShort (level : CommandLevel) (letter : Char) (rest : List Char) : Reading :=
  let value := match rest with
    | '=' :: value => value
    | value => value
  match level.options.find? (·.letter = some letter) with
  | some spec => .option spec (if rest.isEmpty then none else some (String.ofList value))
  | none => if letter = 'h' then .help else .unexpected

/-- What an argument is. -/
def read (level : CommandLevel) (argument : String) : Reading :=
  match argument.toList with
  | ['-', '-'] => .separator
  | '-' :: '-' :: text => readLong level text
  | '-' :: letter :: rest => readShort level letter rest
  | _ => .operand

/-! ### All arguments of a level -/

/-- The values of options and the other arguments given so far. -/
structure Given where
  values : List (CommandOption × String) := []
  operands : List String := []

/-- Gives a value to an option. -/
def Given.set (given : Given) (spec : CommandOption) (value : String) : Except Refusal Given :=
  if ¬ spec.accepts value then .error (.misuse (.badValue spec value))
  else if (given.values.lookup spec).isSome then .error (.misuse (.repeated spec))
  else .ok { given with values := given.values ++ [(spec, value)] }

/-- Adds an argument that is no option; only the status of one job can be asked for. -/
def Given.add (given : Given) (level : CommandLevel) (argument : String) : Except Refusal Given :=
  if level = .status ∧ given.operands.isEmpty then .ok { given with operands := [argument] }
  else .error (.misuse (.unexpected argument))

/-- Reads the arguments of a level, where an option may be waiting for its value; gives those that
follow the word for a command, with that word. -/
def scan (level : CommandLevel) :
    Option CommandOption → Given → List String → Except Refusal (Given × List String)
  | none, given, [] => .ok (given, [])
  | some spec, _, [] => .error (.misuse (.noValue spec))
  | some spec, given, value :: rest =>
    if isOptionLike value then .error (.misuse (.noValue spec))
    else do scan level none (← given.set spec value) rest
  | none, given, argument :: rest =>
    match read level argument with
    | .help => .error (.help level)
    | .unexpected => .error (.misuse (.unexpected argument))
    | .separator => do return (← rest.foldlM (·.add level ·) given, [])
    | .option spec (some value) => do scan level none (← given.set spec value) rest
    | .option spec none => scan level (some spec) given rest
    | .operand =>
      if level = .program then .ok (given, argument :: rest)
      else do scan level none (← given.add level argument) rest

/-! ### Commands -/

/-- The value of an option that must be given or has a value of its own. -/
def Given.value (given : Given) (spec : CommandOption) : Except Refusal String :=
  match (given.values.lookup spec).or spec.default with
  | some value => .ok value
  | none => .error (.misuse (.missing spec.usage))

/-- What is to be built. -/
def buildArguments (given : Given) : Except Refusal BuildArguments := do
  return {
    input := ← given.value .input
    output := ← given.value .output
    fieldName := ← given.value .field
    buildUnit := ← given.value .buildUnit
    similarity := ((Similarity.parse (← given.value .spaceType)).toOption).getD .l2
    engine := ← given.value .engine }

/-- What the words after the one for help ask for. -/
def parseHelp : List String → Refusal
  | [] => .help .program
  | [word] => match CommandLevel.ofWord word with
    | some level => .help level
    | none => .misuse (.unknownCommand word)
  | _ :: word :: _ => .misuse (.unknownCommand word)

/-- What a command is to do, and the settings file given after it. -/
def parseAction (word : String) (rest : List String) : Except Refusal (Action × Option String) :=
  match CommandLevel.ofWord word with
  | some .build => do
    let (given, _) ← scan .build none {} rest
    return (.build (← buildArguments given), given.values.lookup .config)
  | some .status => do
    let (given, _) ← scan .status none {} rest
    match given.operands with
    | [] => throw (.misuse (.missing "<JOB_ID>"))
    | jobId :: _ => return (.status jobId, given.values.lookup .config)
  | some .help => .error (parseHelp rest)
  | _ => .error (.misuse (.unknownCommand word))

/-- What arguments mean. A settings file given after the command goes before one given ahead of it. -/
def parse (arguments : List String) : Except Refusal CommandLine := do
  let (given, rest) ← scan .program none {} arguments
  match rest with
  | [] => throw (.misuse .noCommand)
  | word :: rest =>
    let (action, settingsFile) ← parseAction word rest
    return ⟨settingsFile.or (given.values.lookup .config), action⟩

end CommandLine

end GraphOffload
