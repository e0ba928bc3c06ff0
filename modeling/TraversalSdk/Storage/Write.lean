import TraversalSdk.Storage.Files
import TraversalSdk.Sdk.Generate

namespace TraversalSdk

def Content.bytes : Content → ByteArray
  | .text s => s.toUTF8
  | .binary bytes => bytes

namespace Files

variable (f : Files)

def holdsSdk (p : Path) : Except Failure Bool := do
  if ← f.isDirectory (p.below Sdk.artifactsDir) then f.isFile (p.below "__init__.py")
  else return false

/-- Whether a directory may be removed by the name of a path. The steps before the last have to lead
somewhere, and the last has to name the directory itself. -/
def removable (p : Path) : Except Obstacle Unit := do
  let _ ← f.find p.parent
  match p.steps.getLast? with
  | none => .error .invalid
  | some s => if s = ".." then .error .notEmpty else .ok ()

/-- Removes a directory: first all it holds, which may take away the steps to it, and then itself. -/
def removeTree (p : Path) : Files × Except Failure Unit :=
  match f.locate p with
  | .error o => (f, .error (.barred p.text o))
  | .ok l =>
    let emptied := f.removeBelow l
    match emptied.removable p with
    | .error o => (emptied, .error (.barred p.text o))
    | .ok () => (emptied.remove l, .ok ())

/-- Whether an earlier SDK has to be removed. What is not there needs no removal, and what is no SDK
is left alone. -/
def needsCleaning (p : Path) : Except Failure Bool := do
  if !(← f.isPresent p) then return false
  else if ← f.holdsSdk p then return true
  else .error (.notGenerated p.text)

def clean (p : Path) : Files × Except Failure Unit :=
  match f.needsCleaning p with
  | .error e => (f, .error e)
  | .ok false => (f, .ok ())
  | .ok true => f.removeTree p

def writingFailure (target : Path) : Obstacle → Failure
  | .holdsNul => .barred target.text .holdsNul
  | o => .unwritable target.text o

/-- Writes the files of an SDK below a directory, one after another. A file that cannot be written
ends the work; those before it stay. -/
def writeAll (f : Files) (p : Path) : List Artifact → Files × Except Failure (List Path)
  | [] => (f, .ok [])
  | a :: rest =>
    let target := p.below a.path
    match f.write target a.content.bytes with
    | (f, .error o) => (f, .error (writingFailure target o))
    | (f, .ok ()) =>
      let (f, written) := writeAll f p rest
      (f, written.map (target :: ·))

/-- Writes an SDK, in place of an earlier one if asked. -/
def writeOutput (p : Path) (artifacts : List Artifact) (clean : Bool) :
    Files × Except Failure (List Path) :=
  if clean then
    match f.clean p with
    | (f, .error e) => (f, .error e)
    | (f, .ok ()) => f.writeAll p artifacts
  else f.writeAll p artifacts

end Files

end TraversalSdk
