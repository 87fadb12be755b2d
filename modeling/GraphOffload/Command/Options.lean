import GraphOffload.Field

/-!
# Commands and their options

## Main definitions

* `GraphOffload.CommandOption` : an option with a value.
* `GraphOffload.CommandLevel` : the program itself, or one of its commands.
* `GraphOffload.CommandLevel.options` : the options that may stand after it.
* `GraphOffload.CommandLevel.helpText` : what the program says when it is asked for help.
-/

namespace GraphOffload

/-! ### Options -/

/-- The values that an option accepts. -/
inductive CommandOption.Domain
  | text
  /-- A name of a file, which is never empty. -/
  | path
  | similarity
  deriving DecidableEq

/-- An option with a value. -/
structure CommandOption where
  name : String
  letter : Option Char := none
  /-- What its value is called. -/
  valueName : String
  domain : CommandOption.Domain := .text
  default : Option String := none
  summary : String := ""
  deriving DecidableEq

namespace CommandOption

/-- Whether the option accepts a value. -/
def accepts (spec : CommandOption) (value : String) : Bool :=
  match spec.domain with
  | .text => true
  | .path => !value.isEmpty
  | .similarity => (Similarity.parse value).toOption.isSome

/-- The settings file. -/
def config : CommandOption where
  name := "config"
  letter := some 'C'
  valueName := "CONFIG_FILE"
  domain := .path
  summary := "Path to a TOML config file"

/-- The file with the vectors. -/
def input : CommandOption where
  name := "input"
  valueName := "INPUT"
  domain := .path
  summary := "Flat vector file: [u32 count][u32 dim][f32 * count * dim], little-endian"

/-- The name of the field. -/
def field : CommandOption where
  name := "field"
  valueName := "FIELD"
  default := some "vector"
  summary := "Vector field name"

/-- The unit of the index. -/
def buildUnit : CommandOption where
  name := "build-unit"
  valueName := "BUILD_UNIT"
  default := some "_0"
  summary := "Build unit (segment) identifier"

/-- The file for the graph. -/
def output : CommandOption where
  name := "output"
  valueName := "OUTPUT"
  domain := .path
  summary := "Where to write the graph"

/-- How vectors are compared. -/
def spaceType : CommandOption where
  name := "space-type"
  valueName := "SPACE_TYPE"
  domain := .similarity
  default := some "l2"

/-- The engine that builds the graph. -/
def engine : CommandOption where
  name := "engine"
  valueName := "ENGINE"
  default := some "faiss"

/-- The option with the name of its value. -/
def usage (spec : CommandOption) : String := "--" ++ spec.name ++ " <" ++ spec.valueName ++ ">"

end CommandOption

/-! ### Levels -/

/-- The program itself, or one of its commands. -/
inductive CommandLevel
  | program
  | build
  | status
  | help
  deriving DecidableEq

namespace CommandLevel

/-- The options that may stand after the program or a command. -/
def options : CommandLevel → List CommandOption
  | program | status => [.config]
  | build => [.config, .input, .field, .buildUnit, .output, .spaceType, .engine]
  | help => []

/-- The command of a word. -/
def ofWord (word : String) : Option CommandLevel :=
  [("build", build), ("status", status), ("help", help)].lookup word

/-- What the program or a command does. -/
def summary : CommandLevel → String
  | program => "Offload ANN graph builds to a remote build service"
  | build => "Build a graph for a flat vector file"
  | status => "Print the status of a remote build job"
  | help => "Print this message or the help of the given subcommand(s)"

/-- How the program or a command is called. -/
def usage : CommandLevel → String
  | program => "graphlift [OPTIONS] <COMMAND>"
  | build => "graphlift build [OPTIONS] --input <INPUT> --output <OUTPUT>"
  | status => "graphlift status [OPTIONS] <JOB_ID>"
  | help => "graphlift help [COMMAND]..."

/-! ### Help -/

/-- Lines in two columns. -/
def columns (rows : List (String × String)) : List String :=
  let width := (rows.map (·.1.length)).foldl max 0
  rows.map fun row =>
    "  " ++ row.1 ++ String.ofList (List.replicate (width - row.1.length + 2) ' ') ++ row.2

/-- A row on an option. -/
def optionRow (spec : CommandOption) : String × String :=
  let letter := match spec.letter with
    | some letter => "-" ++ letter.toString ++ ", "
    | none => "    "
  let default := (spec.default.map fun value => "[default: " ++ value ++ "]").toList
  let summary := if spec.summary.isEmpty then [] else [spec.summary]
  (letter ++ spec.usage, " ".intercalate (summary ++ default))

/-- The lines on commands. -/
def commandLines : List String :=
  "Commands:" :: columns
    [("build", summary build), ("status", summary status), ("help", summary help)] ++ [""]

/-- The lines on what stands after the program or a command other than options. -/
def operandLines : CommandLevel → List String
  | program => commandLines
  | build => []
  | status => "Arguments:" :: columns [("<JOB_ID>", "")] ++ [""]
  | help => "Arguments:" :: columns [("[COMMAND]...", "Print help for the subcommand(s)")]

/-- The lines on options. -/
def optionLines (level : CommandLevel) : List String :=
  if level.options.isEmpty then []
  else "Options:" :: columns (level.options.map optionRow ++ [("-h, --help", "Print help")])

/-- What the program says when it is asked for help. -/
def helpText (level : CommandLevel) : String :=
  String.join ((level.summary :: "" :: ("Usage: " ++ level.usage) :: "" ::
    level.operandLines ++ level.optionLines).map (· ++ "\n"))

end CommandLevel

end GraphOffload
