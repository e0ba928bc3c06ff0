import TraversalSdk.Command.Run

namespace TraversalSdk

/-- Stored files, and settings once they have been read. The settings that the first command line reads hold
for all. -/
structure Session where
  files : Files
  settings : Option Settings

namespace Session

def settingsNow (s : Session) (environment : List (String × String)) :
    Except Settings.Refusal Settings :=
  match s.settings with
  | some settings => .ok settings
  | none => Settings.read environment (Command.variablesFile s.files)

/-- Wrong words are told before the settings are read, and help and the version need none. -/
def outcome (s : Session) (environment : List (String × String)) (words : List String) :
    Session × Command.Outcome :=
  match Command.ofWords? words with
  | none => (s, .answer ⟨2, []⟩)
  | some .help => (s, .answer ⟨0, []⟩)
  | some .version => (s, .answer (.ofLines 0 [Command.versionText]))
  | some (.generate o) => match s.settingsNow environment with
    | .error e => (s, .answer (.ofRefusal e))
    | .ok settings => ({ s with settings := some settings }, Command.generated s.files settings o)
  | some (.inspect o) => match s.settingsNow environment with
    | .error e => (s, .answer (.ofRefusal e))
    | .ok settings => ({ s with settings := some settings }, .answer (Command.inspectFrom s.files o))

/-- Runs a command line on the stored files. -/
def run (s : Session) (environment : List (String × String)) (words : List String) :
    Session × Response :=
  match s.outcome environment words with
  | (s, .answer r) => (s, r)
  | (s, .write d) =>
    let (files, r) := d.deliver s.files
    ({ s with files := files }, r)

end Session

end TraversalSdk
