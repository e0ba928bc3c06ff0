import TraversalSdk.Sdk.Nodes
import TraversalSdk.Sdk.Cursors
import TraversalSdk.Sdk.Navigators
import TraversalSdk.Sdk.Root
import TraversalSdk.Sdk.Tokens
import TraversalSdk.Sdk.TreeTypes
import TraversalSdk.Sdk.Expectation
import TraversalSdk.Sdk.NodeSearch
import TraversalSdk.Naming.Namespace

namespace TraversalSdk

inductive Content
  | text (s : String)
  | binary (bytes : ByteArray)

def Content.isBinary : Content → Bool
  | .binary _ => true
  | .text _ => false

structure Artifact where
  path : String
  content : Content

structure Output where
  spaceName : String
  grammar : String
  artifacts : List Artifact

namespace Output

def paths (o : Output) : List String := o.artifacts.map Artifact.path

def get? (o : Output) (path : String) : Option Content :=
  (o.artifacts.find? fun a => a.path = path).map Artifact.content

end Output

namespace Sdk
open Source

def typesModule (b : Blueprint) : Module :=
  ⟨b.grammar, "Structural types for parse trees, cursors, and nodes.", treeTypes⟩

def errorsModule (b : Blueprint) : Module :=
  ⟨b.grammar, "Errors raised by navigators.", expectationErrors⟩

def utilsModule (b : Blueprint) : Module :=
  ⟨b.grammar, "Helpers for finding children of a node.", nodeSearch⟩

/-- Every source module and its path. -/
def modules (b : Blueprint) : List (String × Module) :=
  [("__init__.py", rootModule b),
    ("types.py", typesModule b),
    ("errors.py", errorsModule b),
    ("utils.py", utilsModule b),
    ("anonymous_nodes.py", tokensModule b),
    ("navigator.py", navigatorModule b)]
  ++ nodeModules b ++ cursorModules b

def artifactsDir : String := "__artifacts__"

/-- The documents that the SDK was made from, and the parser. -/
def documents (b : Built) : List Artifact :=
  [⟨artifactsDir ++ "/grammar.json", .text b.grammarSource⟩,
    ⟨artifactsDir ++ "/node-types.json", .text b.nodeTypesSource⟩]
  ++ b.parser.toList.map fun bytes => ⟨artifactsDir ++ "/parser.wasm", .binary bytes⟩

def artifacts (b : Built) (plan : Blueprint) : List Artifact :=
  ⟨"py.typed", .text ""⟩ :: (modules plan).map (fun m => ⟨m.1, .text m.2.text⟩) ++ documents b

/-- Files by path; no two may have one path. -/
def collect (grammar : String) (files : List Artifact) : Except Failure (List Artifact) :=
  match firstRepeated? (files.map Artifact.path) with
  | some path => .error (.sharedPath path grammar)
  | none => .ok (sortOn Artifact.path files)

def generate (b : Built) (config : Option Json) : Except Failure Output := do
  let spaceName ← (← NamespaceConfig.ofOptional? config).resolve b.name
  let plan ← Blueprint.ofBuilt? b spaceName
  return ⟨spaceName, b.name, ← collect b.name (artifacts b plan)⟩

/-- An SDK from both documents. -/
def generateFrom (grammar : Input Grammar) (nodeTypes : Input Catalogue)
    (parser : Option ByteArray) (config : Option Json) : Except Failure Output := do
  generate (← Built.ofInputs? grammar nodeTypes parser) config

end Sdk

end TraversalSdk
