import TraversalSdk.Command.Variables
import TraversalSdk.Storage.Path
import TraversalSdk.Checked

namespace TraversalSdk

/-- Settings of the command line, from variables of the environment and, behind them, of a file. -/
structure Settings where
  logLevel : String
  richLogging : Bool
  outputDir : Path
  cleanOutput : Bool

namespace Settings
open Checked

def logLevels : List String := ["DEBUG", "INFO", "WARNING", "ERROR", "CRITICAL"]

def levelName : Json → Checked String
  | .str s => if logLevels.contains s then .sound s else fail .unknownLiteral
  | _ => fail .unknownLiteral

def names : List String := ["log_level", "rich_logging", "output_dir", "clean_output"]

/-- The variables that settings are read from, under the names of the settings. -/
def given (environment : List (String × String)) (file : List (String × Option String)) :
    List (String × Json) :=
  names.filterMap fun name =>
    let key := "treant_" ++ name
    ((lookup key (Variables.foldNames environment)).or
      (lookup key (Variables.foldNames file)).join).map fun value => (name, .str value)

def ofBindings (environment : List (String × String)) (file : List (String × Option String)) :
    Checked Settings :=
  let ms := given environment file
  Settings.mk <$> defaulted "log_level" "WARNING" levelName ms
    <*> defaulted "rich_logging" true flag ms
    <*> defaulted "output_dir" ⟨["sdk"]⟩ (fun v => Path.ofText <$> text v) ms
    <*> defaulted "clean_output" false flag ms

/-- Why there are no settings: a file that is no text, or variables of the wrong shape. -/
inductive Refusal
  | notText (fault : Text.Utf8Fault)
  | malformed (issues : List Issue)

def read (environment : List (String × String)) (file : ByteArray) : Except Refusal Settings := do
  let s ← (Variables.fileText file).mapError .notText
  (ofBindings environment (Variables.ofText environment s)).toExcept.mapError .malformed

end Settings

end TraversalSdk
