import Crosswalk.CommandLine.Arguments

/-!
# Options

The words that a command line may hold: the subcommands, and at each level its options and the
places for arguments without a name.  A switch stands alone and a setting has a value.
-/

set_option autoImplicit false

namespace Crosswalk.CommandLine

/-- The name under which the program is called. -/
def programName : String :=
  "sttm"

def programVersion : String :=
  "0.1.0"

/-! ## Names -/

/-- Options that stand alone. -/
inductive Switch where
  | verbose
  | quiet
  | noColor
  | lazy
  | help
  | version
  deriving DecidableEq, Repr

/-- Options that have a value. -/
inductive Setting where
  | config
  | output
  | policy
  | workers
  | saveTo
  deriving DecidableEq, Repr

inductive OptionName where
  | switch (switch : Switch)
  | setting (setting : Setting)
  deriving DecidableEq, Repr

/-- Arguments that are known by their place. -/
inductive Place where
  | catalog
  | records
  | shell
  deriving DecidableEq, Repr

inductive Subcommand where
  | validate
  | transform
  | masks
  | completions
  deriving DecidableEq, Repr

/-- Before a subcommand, or after one. -/
inductive Level where
  | top
  | within (subcommand : Subcommand)
  deriving DecidableEq, Repr

/-! ## How they are written -/

namespace Switch

def short? : Switch → Option Char
  | .verbose => some 'v'
  | .quiet => some 'q'
  | .help => some 'h'
  | .version => some 'V'
  | .noColor | .lazy => none

def long : Switch → String
  | .verbose => "verbose"
  | .quiet => "quiet"
  | .noColor => "no-color"
  | .lazy => "lazy"
  | .help => "help"
  | .version => "version"

def about : Switch → String
  | .verbose => "Enable verbose output (can be used multiple times for increased verbosity)"
  | .quiet => "Suppress all non-essential output"
  | .noColor => "Disable colored output"
  | .lazy => "Check mapping links per record instead of before the batch starts"
  | .help => "Print help"
  | .version => "Print version"

end Switch

/-- The failure policies under the names that are offered. -/
def policyChoices : List (String × FailurePolicy) :=
  [("halt", .halt), ("collect", .collect)]

/-- What the choice of a policy means. -/
def policyAbout : FailurePolicy → String
  | .halt => "Stop at the first failing record"
  | .collect => "Transform every record and report each failure"

/-- What the choice of an output format means. -/
def formatAbout : OutputFormat → String
  | .human => "Human-readable formatted output"
  | .json => "JSON output"
  | .yaml => "YAML output"
  | .jsonPretty => "Pretty-printed JSON output"

namespace Setting

def short? : Setting → Option Char
  | .config => some 'c'
  | .output => some 'o'
  | .policy => some 'p'
  | .workers => some 'w'
  | .saveTo => none

def long : Setting → String
  | .config => "config"
  | .output => "output"
  | .policy => "policy"
  | .workers => "workers"
  | .saveTo => "save-to"

/-- The word that stands for the value in help. -/
def valueName : Setting → String
  | .config => "CONFIG"
  | .output => "OUTPUT"
  | .policy => "POLICY"
  | .workers => "WORKERS"
  | .saveTo => "OUTPUT_FILE"

def about : Setting → String
  | .config => "Path to configuration file"
  | .output => "Output format for results (defaults to the configured format, then human)"
  | .policy => "What to do when a record fails (defaults to the configured policy)"
  | .workers => "Number of worker threads (defaults to the configured worker count)"
  | .saveTo => "Write the transformed records to a file instead of stdout"

/-- The values that can be chosen from, with what they mean; none where the value is free. -/
def choices : Setting → List (String × String)
  | .output => OutputFormat.all.map fun format => (format.name, formatAbout format)
  | .policy => policyChoices.map fun (name, choice) => (name, policyAbout choice)
  | .config | .workers | .saveTo => []

/-- The value is the path of a file. -/
def isPath : Setting → Bool
  | .config | .saveTo => true
  | .output | .policy | .workers => false

end Setting

namespace OptionName

def short? : OptionName → Option Char
  | .switch s => s.short?
  | .setting s => s.short?

def long : OptionName → String
  | .switch s => s.long
  | .setting s => s.long

def about : OptionName → String
  | .switch s => s.about
  | .setting s => s.about

def choices : OptionName → List (String × String)
  | .switch _ => []
  | .setting s => s.choices

end OptionName

namespace Place

def valueName : Place → String
  | .catalog => "CATALOG"
  | .records => "RECORDS"
  | .shell => "SHELL"

def about : Place → String
  | .catalog => "Path to the mapping catalog (JSON or YAML)"
  | .records => "Input records: a JSON array or object, JSON Lines, or YAML"
  | .shell => "Shell to generate completions for"

def choices : Place → List (String × String)
  | .shell => Shell.all.map fun shell => (shell.name, shell.about)
  | .catalog | .records => []

end Place

namespace Subcommand

def all : List Subcommand :=
  [.validate, .transform, .masks, .completions]

def name : Subcommand → String
  | .validate => "validate"
  | .transform => "transform"
  | .masks => "masks"
  | .completions => "completions"

def about : Subcommand → String
  | .validate => "Load a mapping catalog and check every link and mask"
  | .transform => "Transform a batch of input records with a mapping catalog"
  | .masks => "List the registered transform masks"
  | .completions => "Generate shell completions for the specified shell"

def ofName? (name : String) : Option Subcommand :=
  all.find? fun subcommand => subcommand.name == name

/-- The arguments without a name, in order; all of them have to be given. -/
def places : Subcommand → List Place
  | .validate => [.catalog]
  | .transform => [.catalog, .records]
  | .masks => []
  | .completions => [.shell]

end Subcommand

/-- The word that asks for help where a subcommand could stand. -/
def helpWord : String :=
  "help"

def helpAbout : String :=
  "Print this message or the help of the given subcommand(s)"

/-- What the program does, in a line. -/
def programAbout : String :=
  "STTM CLI - Source-to-target mapping of loosely structured records"

namespace Level

def places : Level → List Place
  | .top => []
  | .within subcommand => subcommand.places

def ownOptions : Level → List OptionName
  | .within .transform =>
    [.setting .policy, .setting .workers, .setting .saveTo, .switch .lazy]
  | _ => []

/-- Options that are known at every level. -/
def commonOptions : List OptionName :=
  [.switch .verbose, .switch .quiet, .setting .config, .setting .output, .switch .noColor,
    .switch .help, .switch .version]

/-- The options of a level. -/
def options (level : Level) : List OptionName :=
  level.ownOptions ++ commonOptions

def optionOfLong? (level : Level) (name : String) : Option OptionName :=
  level.options.find? fun option => option.long == name

def optionOfShort? (level : Level) (c : Char) : Option OptionName :=
  level.options.find? fun option => option.short? == some c

/-- The words before the arguments of the level. -/
def words : Level → List String
  | .top => [programName]
  | .within subcommand => [programName, subcommand.name]

def about : Level → String
  | .top => programAbout
  | .within subcommand => subcommand.about

end Level

end Crosswalk.CommandLine
