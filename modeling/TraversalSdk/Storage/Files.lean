import TraversalSdk.Storage.Path
import TraversalSdk.Failure

namespace TraversalSdk

inductive StoredEntry
  | directory
  | file (bytes : ByteArray)

def StoredEntry.bytes? : StoredEntry → Option ByteArray
  | file bytes => some bytes
  | directory => none

/-- Stored files and directories. Every entry is held at its location: the steps down from the working
directory, from the top of all directories, or from a directory above the working directory. -/
structure Files where
  entries : List (List String × StoredEntry)

namespace Files

abbrev Location := List String

def empty : Files := ⟨[]⟩

variable (f : Files)

/-- The working directory and those above it. -/
def isAbove (l : Location) : Bool := l.all (· == "..")

/-- The working directory and those above it are always there. -/
def get? (l : Location) : Option StoredEntry :=
  if isAbove l || l = ["/"] then some .directory else lookup l f.entries

def put (l : Location) (e : StoredEntry) : Files := ⟨assign l e f.entries⟩

def isDirectoryAt (l : Location) : Bool :=
  match f.get? l with
  | some .directory => true
  | _ => false

/-- The location one step on. There is nothing above the top. -/
def step (l : Location) (s : String) : Location :=
  if s = ".." && !isAbove l then
    if l = ["/"] then l else l.dropLast
  else l ++ [s]

def isTooLong (s : String) : Bool := decide (255 < s.utf8ByteSize)

/-- What bars a path whatever is stored. -/
def bar? (p : Path) : Option Obstacle :=
  if p.text.toList.contains '\x00' then some .holdsNul
  else if 4096 ≤ p.text.utf8ByteSize then some .nameTooLong
  else none

/-- Takes steps from a location on; each has to start from a directory. -/
def locateFrom (l : Location) : List String → Except Obstacle Location
  | [] => .ok l
  | s :: rest => match f.get? l with
    | none => .error .absent
    | some (.file _) => .error .notDirectory
    | some .directory => if isTooLong s then .error .nameTooLong else locateFrom (step l s) rest

def locate (p : Path) : Except Obstacle Location :=
  match bar? p with
  | some o => .error o
  | none => f.locateFrom [] p.steps

def find (p : Path) : Except Obstacle StoredEntry := do
  match f.get? (← f.locate p) with
  | some e => .ok e
  | none => .error .absent

/-- What stands at a path. A path that cannot be followed leads to nothing, but one that is too long
cannot even be asked about. -/
def stored? (p : Path) : Except Failure (Option StoredEntry) :=
  match f.find p with
  | .ok e => .ok (some e)
  | .error .nameTooLong => .error (.barred p.text .nameTooLong)
  | .error _ => .ok none

def isPresent (p : Path) : Except Failure Bool := (f.stored? p).map Option.isSome

def isDirectory (p : Path) : Except Failure Bool :=
  (f.stored? p).map fun e => e.any fun e => e.bytes?.isNone

def isFile (p : Path) : Except Failure Bool :=
  (f.stored? p).map fun e => e.any fun e => e.bytes?.isSome

def bytes (p : Path) : Except Obstacle ByteArray := do
  match ← f.find p with
  | .file bytes => .ok bytes
  | .directory => .error .isDirectory

def textOf (bytes : ByteArray) : Except Obstacle String :=
  match Text.Utf8.fault? bytes.data.toList with
  | some fault => .error (.notText fault)
  | none => .ok ((String.fromUTF8? bytes).getD "")

/-- The text of a file. -/
def text (p : Path) : Except Obstacle String := do textOf (← f.bytes p)

/-- Whether a location is that of a directory or below it. From the working directory and those above
it, steps up and steps from the top lead elsewhere. -/
def isWithin (l m : Location) : Bool :=
  l.isPrefixOf m &&
    (!isAbove l || (m.drop l.length).head?.all fun s => !(["..", "/", "//"].contains s))

/-- Removes a location and everything below it. -/
def remove (l : Location) : Files := ⟨f.entries.filter fun e => !isWithin l e.1⟩

/-- Removes everything below a location. -/
def removeBelow (l : Location) : Files := ⟨f.entries.filter fun e => !(isWithin l e.1 && e.1 ≠ l)⟩

/-- Makes the directories of a path that are missing, from a location on. Those before an obstacle
stay. -/
def makeDirectoriesFrom (f : Files) (l : Location) : List String → Files × Except Obstacle Location
  | [] => (f, .ok l)
  | s :: rest =>
    let next := step l s
    if isTooLong s then (f, .error .nameTooLong)
    else match f.get? next with
      | some .directory => makeDirectoriesFrom f next rest
      | some (.file _) => (f, .error (if rest.isEmpty then .occupied else .notDirectory))
      | none => makeDirectoriesFrom (f.put next .directory) next rest

def makeDirectories (p : Path) : Files × Except Obstacle Location :=
  match bar? p with
  | some o => (f, .error o)
  | none => makeDirectoriesFrom f [] p.steps

/-- Where in a directory a file of this name may be written. -/
def target (l : Location) (p : Path) (s : String) : Except Obstacle Location :=
  match bar? p with
  | some o => .error o
  | none =>
    if isTooLong s then .error .nameTooLong
    else if f.isDirectoryAt (step l s) then .error .isDirectory
    else .ok (step l s)

/-- Writes a file, and makes the directories above it. These stay if the file cannot be written. -/
def write (p : Path) (bytes : ByteArray) : Files × Except Obstacle Unit :=
  match p.steps.getLast? with
  | none => (f, .error .isDirectory)
  | some s => match f.makeDirectories p.parent with
    | (f, .error o) => (f, .error o)
    | (f, .ok l) => match f.target l p s with
      | .error o => (f, .error o)
      | .ok t => (f.put t (.file bytes), .ok ())

/-- Everything below a directory, named from `p`; directories end with a slash. -/
def tree (p : Path) : List String :=
  match f.locate p with
  | .error _ => []
  | .ok l => sortTexts (f.entries.filterMap fun e =>
      if isWithin l e.1 && e.1 ≠ l then
        let name := Path.text ⟨p.steps ++ e.1.drop l.length⟩
        some (match e.2 with
          | .directory => name ++ "/"
          | .file _ => name)
      else none)

end Files

end TraversalSdk
