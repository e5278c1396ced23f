import Crosswalk.CommandLine.Options

/-!
# Completion scripts

For every shell a script that completes the subcommands, the options of each level and the choices
for their values.  The scripts follow from the table of options.
-/

set_option autoImplicit false

namespace Crosswalk.CommandLine.Completion

def levels : List Level :=
  .top :: Subcommand.all.map Level.within

/-- The name of a level, of its words with a text between them. -/
def levelName (separator : String) (level : Level) : String :=
  separator.intercalate level.words

/-- Subcommands and the word for help, with what they mean, where they can stand. -/
def subcommands : Level → List (String × String)
  | .top => Subcommand.all.map (fun s => (s.name, s.about)) ++ [(helpWord, helpAbout)]
  | .within _ => []

/-- The choices for the arguments without a name. -/
def placeChoices (level : Level) : List String :=
  level.places.flatMap fun place => place.choices.map Prod.fst

/-- An option as it is typed: with its letter, if it has one, and in full. -/
def spellings (option : OptionName) : List String :=
  (option.short?.map fun c => String.ofList ['-', c]).toList ++ ["--" ++ option.long]

def lines (list : List String) : String :=
  String.join (list.map (· ++ "\n"))

/-- A text between single quotation marks, in which such a mark is written by a code of its own. -/
def singleQuoted (code s : String) : String :=
  "'" ++ String.ofList (s.toList.flatMap fun c => if c = '\'' then code.toList else [c]) ++ "'"

/-! ## Bash -/

def bashWords (level : Level) : String :=
  " ".intercalate
    (level.options.flatMap spellings ++ (subcommands level).map Prod.fst ++ placeChoices level)

/-- What completes the value of a setting. -/
def bashValues (setting : Setting) : String :=
  if setting.choices.isEmpty then "compgen -f \"$cur\""
  else
    "compgen -W \"" ++ " ".intercalate (setting.choices.map Prod.fst) ++ "\" -- \"$cur\""

def bashLevel (level : Level) : List String :=
  let values := level.options.flatMap fun
    | .setting s =>
      ["                " ++ "|".intercalate (spellings (.setting s)) ++ ")",
        "                    COMPREPLY=($(" ++ bashValues s ++ "))",
        "                    return 0",
        "                    ;;"]
    | .switch _ => []
  ["        " ++ levelName "__" level ++ ")",
    "            opts=\"" ++ bashWords level ++ "\"",
    "            case \"$prev\" in"]
    ++ values
    ++ ["            esac",
      "            ;;"]

def bash : String :=
  let starts := Subcommand.all.map fun s =>
    "            " ++ s.name ++ ") cmd=\"" ++ levelName "__" (.within s) ++ "\" ;;"
  lines (
    ["_" ++ programName ++ "() \x7b",
      "    local i cur prev opts cmd",
      "    COMPREPLY=()",
      "    cur=\"$\x7bCOMP_WORDS[COMP_CWORD]\x7d\"",
      "    prev=\"$3\"",
      "    cmd=\"" ++ programName ++ "\"",
      "    opts=\"\"",
      "    for i in \"$\x7bCOMP_WORDS[@]:1:COMP_CWORD-1\x7d\"; do",
      "        case \"$i\" in"]
    ++ starts
    ++ ["        esac",
      "    done",
      "    case \"$cmd\" in"]
    ++ levels.flatMap bashLevel
    ++ ["    esac",
      "    COMPREPLY=($(compgen -W \"$opts\" -- \"$cur\"))",
      "    return 0",
      "\x7d",
      "",
      "complete -F _" ++ programName ++ " -o bashdefault -o default " ++ programName])

/-! ## Zsh -/

/-- A text in which brackets and colons have no meaning. -/
def zshEscaped (s : String) : String :=
  String.ofList (s.toList.flatMap fun c =>
    if c = '[' || c = ']' || c = ':' then ['\\', c] else [c])

def zshValues (choices : List (String × String)) (isPath : Bool) : String :=
  if !choices.isEmpty then
    "((" ++ " ".intercalate (choices.map fun (name, about) =>
      name ++ "\\:\"" ++ about ++ "\"") ++ "))"
  else if isPath then "_files"
  else "_default"

def zshOption (option : OptionName) : List String :=
  (spellings option).map fun spelling =>
    let value :=
      match option with
      | .setting s => ":" ++ s.valueName ++ ":" ++ zshValues s.choices s.isPath
      | .switch _ => ""
    "        " ++ singleQuoted "'\\''"
      (spelling ++ "[" ++ zshEscaped option.about ++ "]" ++ value) ++ " \\"

def zshPlace (place : Place) : String :=
  "        " ++ singleQuoted "'\\''"
    (":" ++ place.valueName ++ " -- " ++ zshEscaped place.about ++ ":"
      ++ zshValues place.choices true) ++ " \\"

def zshLevel (level : Level) : List String :=
  let rest :=
    match level with
    | .top =>
      ["        ': :_" ++ programName ++ "_commands' \\",
        "        '*::: :->" ++ programName ++ "'"]
    | .within _ => ["        && return 0"]
  ["    (" ++ levelName "-" level ++ ")",
    "    _arguments -s -S -C \\"]
    ++ level.options.flatMap zshOption ++ level.places.map zshPlace ++ rest
    ++ ["    ;;"]

def zsh : String :=
  let commands := (subcommands .top).map fun (name, about) =>
    "        " ++ singleQuoted "'\\''" (name ++ ":" ++ zshEscaped about) ++ " \\"
  lines (
    ["#compdef " ++ programName,
      "",
      "_" ++ programName ++ "() \x7b",
      "    local context state line level",
      "    level=\"" ++ programName ++ "\"",
      "    [[ -n \"$words[2]\" ]] && level=\"" ++ programName ++ "-$words[2]\"",
      "    case \"$level\" in"]
    ++ levels.flatMap zshLevel
    ++ ["    esac",
      "\x7d",
      "",
      "_" ++ programName ++ "_commands() \x7b",
      "    local commands; commands=( \\"]
    ++ commands
    ++ ["    )",
      "    _describe -t commands '" ++ programName ++ " commands' commands",
      "\x7d",
      "",
      "compdef _" ++ programName ++ " " ++ programName])

/-! ## Fish -/

def fishCondition : Level → String
  | .top => "__fish_use_subcommand"
  | .within s => "__fish_seen_subcommand_from " ++ s.name

def fishStart (level : Level) : String :=
  "complete -c " ++ programName ++ " -n \"" ++ fishCondition level ++ "\""

def fishOption (level : Level) (option : OptionName) : String :=
  let short := (option.short?.map fun c => " -s " ++ String.ofList [c]).getD ""
  let value :=
    match option with
    | .setting s =>
      if s.choices.isEmpty then if s.isPath then " -r -F" else " -r"
      else
        " -r -f -a \"" ++ "\\n".intercalate (s.choices.map fun (name, about) =>
          name ++ "\\t" ++ singleQuoted "\\'" about) ++ "\""
    | .switch _ => ""
  fishStart level ++ short ++ " -l " ++ option.long ++ " -d "
    ++ singleQuoted "\\'" option.about ++ value

def fish : String :=
  lines (levels.flatMap fun level =>
    level.options.map (fishOption level)
      ++ (subcommands level).map fun (name, about) =>
        fishStart level ++ " -f -a \"" ++ name ++ "\" -d " ++ singleQuoted "\\'" about)

/-! ## PowerShell -/

def powerShellEntry (kind text about : String) : String :=
  "            [CompletionResult]::new('" ++ text ++ "', '" ++ text ++ "', [CompletionResultType]::"
    ++ kind ++ ", " ++ singleQuoted "''" about ++ ")"

def powerShellLevel (level : Level) : List String :=
  ["        '" ++ levelName ";" level ++ "' \x7b"]
    ++ level.options.flatMap (fun option =>
      (spellings option).map fun text => powerShellEntry "ParameterName" text option.about)
    ++ (subcommands level).map (fun (name, about) => powerShellEntry "ParameterValue" name about)
    ++ ["            break", "        \x7d"]

def powerShell : String :=
  lines (
    ["using namespace System.Management.Automation",
      "using namespace System.Management.Automation.Language",
      "",
      "Register-ArgumentCompleter -Native -CommandName '" ++ programName ++ "' -ScriptBlock \x7b",
      "    param($wordToComplete, $commandAst, $cursorPosition)",
      "    $command = @(",
      "        '" ++ programName ++ "'",
      "        foreach ($element in $commandAst.CommandElements | Select-Object -Skip 1) \x7b",
      "            if ($element.Value.StartsWith('-') -or $element.Value -eq $wordToComplete) "
        ++ "\x7b break \x7d",
      "            $element.Value",
      "        \x7d) -join ';'",
      "    $completions = @(switch ($command) \x7b"]
    ++ levels.flatMap powerShellLevel
    ++ ["    \x7d)",
      "    $completions.Where\x7b $_.CompletionText -like \"$wordToComplete*\" \x7d |",
      "        Sort-Object -Property ListItemText",
      "\x7d"])

/-! ## Elvish -/

def elvishEntry (text about : String) : String :=
  "            cand " ++ text ++ " " ++ singleQuoted "''" about

def elvishLevel (level : Level) : List String :=
  ["        &'" ++ levelName ";" level ++ "'= \x7b"]
    ++ level.options.flatMap (fun option =>
      (spellings option).map fun text => elvishEntry text option.about)
    ++ (subcommands level).map (fun (name, about) => elvishEntry name about)
    ++ ["        \x7d"]

def elvish : String :=
  lines (
    ["use builtin;",
      "use str;",
      "",
      "set edit:completion:arg-completer[" ++ programName ++ "] = \x7b|@words|",
      "    fn cand \x7b|text desc|",
      "        edit:complex-candidate $text &display=$text'  '$desc",
      "    \x7d",
      "    var command = '" ++ programName ++ "'",
      "    for word $words[1..-1] \x7b",
      "        if (str:has-prefix $word '-') \x7b break \x7d",
      "        set command = $command';'$word",
      "    \x7d",
      "    var completions = ["]
    ++ levels.flatMap elvishLevel
    ++ ["    ]",
      "    $completions[$command]",
      "\x7d"])

end Completion

/-- The completion script for a shell. -/
def completionScript : Shell → String
  | .bash => Completion.bash
  | .zsh => Completion.zsh
  | .fish => Completion.fish
  | .powerShell => Completion.powerShell
  | .elvish => Completion.elvish

end Crosswalk.CommandLine
