import TraversalSdk.Command.Session

namespace TraversalSdk.Main

def isDirectory (path : String) : IO Bool :=
  try
    let _ ← IO.FS.realPath (path ++ "/.")
    return true
  catch _ => return false

def bytes? (path : String) : IO (Option ByteArray) :=
  try
    return some (← IO.FS.readBinFile path)
  catch _ => return none

/-- Adds what stands at a path to the stored files. -/
def observe (f : Files) (p : Path) : IO Files := do
  if ← isDirectory p.text then
    return (f.makeDirectories p).1
  else match ← bytes? p.text with
    | some bytes => return (f.write p bytes).1
    | none => return f

def observeBelow (f : Files) (p : Path) (names : List String) : IO Files :=
  names.foldlM (fun f name => observe f (p.below name)) f

/-- What loading a grammar may look at. -/
def grammarFiles : List String := ["", "src", "src/grammar.json", "src/node-types.json",
  "src/parser.wasm", "grammar.json", "node-types.json", "parser.wasm"]

/-- What removing an earlier SDK may look at. -/
def sdkFiles : List String := ["", Sdk.artifactsDir, "__init__.py"]

def grammarDir? : Command → Option String
  | .generate o => some o.grammarDir
  | .inspect o => some o.grammarDir
  | _ => none

def files (words : List String) : IO Files := do
  let f ← observe .empty (Path.ofText ".env")
  match (Command.ofWords? words).bind grammarDir? with
  | some directory => observeBelow f (Path.ofText directory) grammarFiles
  | none => return f

def environment : IO (List (String × String)) := do
  let found ← Settings.names.mapM fun name => do
    let key := "TREANT_" ++ name.toUpper
    return (← IO.getEnv key).map fun value => (key, value)
  return found.filterMap id

def writeAll (p : Path) : List Artifact → IO (Except Failure Unit)
  | [] => return .ok ()
  | a :: rest => do
    let target := p.below a.path
    if let some o := Files.bar? target then return .error (Files.writingFailure target o)
    try
      IO.FS.createDirAll target.parent.text
      IO.FS.writeBinFile target.text a.content.bytes
    catch e => return .error (.unwritable target.text (.refused (toString e)))
    writeAll p rest

def clean (p : Path) : IO (Except Failure Unit) := do
  match (← observeBelow .empty p sdkFiles).needsCleaning p with
  | .error e => return .error e
  | .ok false => return .ok ()
  | .ok true =>
    try
      IO.FS.removeDirAll p.text
      return .ok ()
    catch e => return .error (.barred p.text (.refused (toString e)))

def deliver (d : Delivery) : IO Response := do
  if d.clean then
    if let .error e ← clean d.target then return .ofFailure e
  match ← writeAll d.target d.output.artifacts with
  | .error e => return .ofFailure e
  | .ok _ => return d.announcement d.output.artifacts.length

def print : Printed → IO Unit
  | .line s => IO.println s
  | .table t => do
    IO.println t.title
    for column in t.columns do
      IO.println ("\t".intercalate column)

end TraversalSdk.Main

open TraversalSdk in
def main (words : List String) : IO UInt32 := do
  let session := ⟨← Main.files words, none⟩
  let r ← match (Session.outcome session (← Main.environment) words).2 with
    | .answer r => pure r
    | .write d => Main.deliver d
  r.printed.forM Main.print
  return UInt32.ofNat r.exit
