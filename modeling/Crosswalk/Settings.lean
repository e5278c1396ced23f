import Crosswalk.Batch.Policy
import Crosswalk.Engine
import Crosswalk.Files.Tree
import Crosswalk.Json.Parse
import Crosswalk.Output.Format
import Crosswalk.Toml.Parse
import Crosswalk.Yaml.Parse

/-!
# Settings

What a settings file can say: how batches run, how results are printed and what is logged.
Everything may be left out.  A file that is named has to be readable; of the files at the usual
places the first that can be read is taken, and without one the defaults hold.
-/

set_option autoImplicit false

namespace Crosswalk

/-! ## Choices -/

def FailurePolicy.decoder : Decoder FailurePolicy :=
  Decoder.variant FailurePolicy.names

namespace LinkValidation

def name : LinkValidation → String
  | .eager => "eager"
  | .lazy => "lazy"

def decoder : Decoder LinkValidation :=
  Decoder.variant [("eager", .eager), ("lazy", .lazy)]

/-- The record of the choice alone. -/
def optionsShape : RecordShape where
  title := "EngineOptions"
  fieldNames := ["link_validation"]

def optionsDecoder : Decoder LinkValidation :=
  optionsShape.decode fun parts rules =>
    RecordShape.defaulted parts rules 0 "link_validation" decoder .eager

def toOptionsJson (validation : LinkValidation) : Json :=
  .object [("link_validation", .string validation.name)]

end LinkValidation

def OutputFormat.decoder : Decoder OutputFormat :=
  Decoder.variant (OutputFormat.all.map fun format => (format.name, format))

/-! ## Sections -/

structure EngineSettings where
  policy : FailurePolicy
  validation : LinkValidation
  workers : Nat
  deriving DecidableEq, Repr

structure OutputSettings where
  format : Option OutputFormat
  color : Bool
  progress : Bool
  deriving DecidableEq, Repr

structure LogSettings where
  level : Option String
  format : Option String
  file : Option String
  deriving DecidableEq, Repr

structure Settings where
  engine : EngineSettings
  output : OutputSettings
  logging : LogSettings
  deriving DecidableEq, Repr

namespace EngineSettings

/-- The defaults on a machine that can run a number of workers at a time. -/
def standard (workers : Nat) : EngineSettings :=
  ⟨.halt, .eager, workers⟩

def shape : RecordShape where
  title := "EngineSettings"
  fieldNames := ["policy", "link_validation", "workers"]

def decoder (workers : Nat) : Decoder EngineSettings :=
  shape.decode fun parts rules =>
    EngineSettings.mk
      <$> RecordShape.defaulted parts rules 0 "policy" FailurePolicy.decoder .halt
      <*> RecordShape.defaulted parts rules 1 "link_validation" LinkValidation.decoder .eager
      <*> RecordShape.defaulted parts rules 2 "workers" (Decoder.natural "usize") workers

end EngineSettings

namespace OutputSettings

def standard : OutputSettings :=
  ⟨none, true, true⟩

def shape : RecordShape where
  title := "OutputSettings"
  fieldNames := ["format", "color", "progress"]

def decoder : Decoder OutputSettings :=
  shape.decode fun parts rules =>
    OutputSettings.mk
      <$> RecordShape.defaulted parts rules 0 "format" (Decoder.option OutputFormat.decoder) none
      <*> RecordShape.defaulted parts rules 1 "color" Decoder.flag true
      <*> RecordShape.defaulted parts rules 2 "progress" Decoder.flag true

end OutputSettings

namespace LogSettings

def standard : LogSettings :=
  ⟨none, none, none⟩

def shape : RecordShape where
  title := "LogSettings"
  fieldNames := ["level", "format", "file"]

def decoder : Decoder LogSettings :=
  shape.decode fun parts rules =>
    LogSettings.mk
      <$> RecordShape.defaulted parts rules 0 "level" (Decoder.option Decoder.text) none
      <*> RecordShape.defaulted parts rules 1 "format" (Decoder.option Decoder.text) none
      <*> RecordShape.defaulted parts rules 2 "file" (Decoder.option Decoder.text) none

end LogSettings

inductive SettingsFormat where
  | json
  | yaml
  | toml
  deriving DecidableEq, Repr

namespace SettingsFormat

/-- The format that the extension of a path stands for. -/
def ofPath (path : String) : SettingsFormat :=
  match Files.extension? path with
  | some "yaml" | some "yml" => .yaml
  | some "toml" => .toml
  | _ => .json

/-- What stands before the fault of a text in the format. -/
def label : SettingsFormat → String
  | .json => "JSON error: "
  | .yaml => "YAML error: "
  | .toml => "Configuration error: "

end SettingsFormat

/-- Why settings cannot be had from a file. -/
inductive SettingsFault where
  | unreadable (path : String) (error : Files.FileError)
  | malformed (path : String) (error : DecodeError)
  /-- A fault in the words of whoever found it. -/
  | stated (message : String)
  deriving DecidableEq

def SettingsFault.message : SettingsFault → String
  | .unreadable path error => "failed to read " ++ path ++ ": " ++ error.message
  | .malformed path error =>
    "invalid config " ++ path ++ ": " ++ (SettingsFormat.ofPath path).label ++ error.message
  | .stated message => message

namespace Settings

def standard (workers : Nat) : Settings :=
  ⟨.standard workers, .standard, .standard⟩

def shape : RecordShape where
  title := "Settings"
  fieldNames := ["engine", "output", "logging"]

def decoder (workers : Nat) : Decoder Settings :=
  shape.decode fun parts rules =>
    Settings.mk
      <$> RecordShape.defaulted parts rules 0 "engine" (EngineSettings.decoder workers)
        (.standard workers)
      <*> RecordShape.defaulted parts rules 1 "output" OutputSettings.decoder .standard
      <*> RecordShape.defaulted parts rules 2 "logging" LogSettings.decoder .standard

/-- The settings of a text in a format. -/
def ofText (workers : Nat) (format : SettingsFormat) (text : String) :
    Except DecodeError Settings :=
  match format with
  | .json => Json.decodeText (decoder workers) text
  | .yaml => Yaml.decodeText (decoder workers) text
  | .toml => Toml.decodeText (decoder workers) text

/-- The settings of a file. -/
def ofFile (workers : Nat) (tree : Files.Tree) (path : String) :
    Except SettingsFault Settings :=
  match tree.read path with
  | .error e => .error (.unreadable path e)
  | .ok text =>
    (ofText workers (SettingsFormat.ofPath path) text).mapError (.malformed path)

/-- The extensions of settings files, in the order in which they are tried. -/
def extensions : List String :=
  ["yaml", "yml", "json", "toml"]

/-- A path followed by a name. -/
def inDirectory (directory name : String) : String :=
  if Files.endsWithSlash directory then directory ++ name else directory ++ "/" ++ name

/-- The places of settings files: in the working directory, among the settings of the user, and in
the home of the user. -/
def usualPaths (environment : List (String × String)) : List String :=
  let home := (environment.lookup "HOME").filter (· != "")
  let userSettings :=
    ((environment.lookup "XDG_CONFIG_HOME").filter Files.isAbsolute).or
      (home.map fun home => inDirectory home ".config")
  let inHome (home : String) := extensions.map fun e => inDirectory home (".sttm." ++ e)
  let amongSettings (directory : String) :=
    extensions.map fun e => inDirectory (inDirectory directory "sttm") ("config." ++ e)
  (extensions.map fun e => ".sttm." ++ e)
    ++ (userSettings.map amongSettings).getD []
    ++ (home.map inHome).getD []

/-- The settings of the first file that can be read, or the defaults. -/
def search (workers : Nat) (tree : Files.Tree) (paths : List String) : Settings :=
  (paths.findSome? fun path => (ofFile workers tree path).toOption).getD (standard workers)

/-- The settings of a named file, or those found at the usual places. -/
def load (workers : Nat) (tree : Files.Tree) (environment : List (String × String))
    (path : Option String) : Except SettingsFault Settings :=
  match path with
  | some path => ofFile workers tree path
  | none => .ok (search workers tree (usualPaths environment))

end Settings

end Crosswalk
