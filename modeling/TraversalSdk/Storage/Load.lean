import TraversalSdk.Storage.Files
import TraversalSdk.Built
import TraversalSdk.Text.Lines

namespace TraversalSdk.Built

def hasDocuments (f : Files) (p : Path) : Except Failure Bool := do
  if ← f.isFile (p.below "grammar.json") then f.isFile (p.below "node-types.json")
  else return false

def documentPath (f : Files) (p : Path) : Except Failure Path := do
  if ← hasDocuments f (p.below "src") then return p.below "src"
  else if ← hasDocuments f p then return p
  else .error (.noArtifacts p.text)

/-- The text of a document, every line ending as a line feed. -/
def documentText (f : Files) (p : Path) (name : String) : Except Obstacle String :=
  (f.text (p.below name)).map fun s => String.ofList (Text.normalizeNewlines s.toList)

def documentTexts (f : Files) (p : Path) : Except Obstacle (String × String) := do
  return (← documentText f p "grammar.json", ← documentText f p "node-types.json")

def parser? (f : Files) (p documents : Path) : Option ByteArray :=
  (f.bytes (p.below "parser.wasm")).toOption.or (f.bytes (documents.below "parser.wasm")).toOption

/-- The documents stand in the source directory or in the directory itself, and the compiled parser in either.
-/
def load (f : Files) (p : Path) : Except Failure Built := do
  if !(← f.isDirectory p) then .error (.noDirectory p.text)
  else
    let documents ← documentPath f p
    let (grammar, nodeTypes) ← (documentTexts f documents).mapError (.unreadable documents.text)
    ofInputs? (.text grammar) (.text nodeTypes) (parser? f p documents)

end TraversalSdk.Built
