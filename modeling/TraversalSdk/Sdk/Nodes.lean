import TraversalSdk.Source.Module
import TraversalSdk.Sdk.Blueprint

namespace TraversalSdk.Sdk
open Source Text

/-- How a node type is described. -/
def nodePhrase (t : Titled) : String :=
  if t.ref.named then "node of type " ++ span t.ref.type
  else "anonymous " ++ span t.ref.type ++ " token"

def protocolSteps (t : Titled) : List Step := [
  .block ("class " ++ t.names.className ++ "(_SyntaxNode, Protocol)") [
    .docstring ((if t.ref.named then "A " else "An ") ++ nodePhrase t ++ "."),
    .blank 1,
    .line "@property",
    .line ("def type(self) -> Literal[" ++ literal t.ref.type ++ "]: ..."),
    .blank 1,
    .line "@property",
    .line ("def is_named(self) -> Literal[" ++ (Value.flag t.ref.named).source ++ "]: ...")]]

def guardSteps (t : Titled) (summary test : String) : List Step := [
  .block ("def " ++ t.names.guard ++ "(node: _SyntaxNode | None) -> TypeGuard["
      ++ t.names.className ++ "]") [
    .docstring summary,
    .line ("return node is not None and " ++ test)]]

/-- What a guard of one type asks of a node. -/
def ownTest (t : Titled) : String :=
  (if t.ref.named then "node.is_named" else "not node.is_named") ++ " and node.type == TYPE"

def ownSummary (t : Titled) : String :=
  "Whether `node` is " ++ (if t.ref.named then "a " else "the ") ++ nodePhrase t ++ "."

/-- The module of a concrete type or of a token. -/
def ownModule (grammar : String) (t : Titled) : Module where
  grammar := grammar
  summary := if t.ref.named then "The " ++ span t.ref.type ++ " node type."
    else "The anonymous " ++ span t.ref.type ++ " token."
  stmts := [
    .importNames "typing" ["Final", "Literal", "Protocol", "TypeGuard"],
    .gap 1,
    .importAs ((if t.ref.named then ".." else "...") ++ "types") "SyntaxNode" "_SyntaxNode",
    .gap 2,
    .assign "TYPE" "Final" (.text t.ref.type),
    .gap 2,
    .define t.names.className (protocolSteps t),
    .gap 2,
    .define t.names.guard (guardSteps t (ownSummary t) (ownTest t))]
    ++ exporting ["TYPE", t.names.className, t.names.guard]

def memberValue (t : Titled) : Value := .tuple [.text t.ref.type, .flag t.ref.named]

def groupModule (grammar : String) (g : Group) : Module where
  grammar := grammar
  summary := "The " ++ span g.title.ref.type ++ " supertype: any of its "
    ++ toString g.members.length ++ " concrete node types."
  stmts :=
    let imports := sortOn Titled.module g.members
    [.importNames "typing" ["Final", "Never", "TypeAlias", "TypeGuard"],
      .gap 1,
      .importAs "..types" "SyntaxNode" "_SyntaxNode"]
    ++ imports.map (fun t => .importNames ("." ++ t.module) [t.names.className])
    ++ [.gap 2,
      .assign "TYPES" "Final"
        (.frozenset (Value.texts (distinct (g.members.map (·.ref.type))))),
      .assign "_MEMBERS" "Final" (.frozenset (g.members.map memberValue)),
      .gap 1,
      .assign g.title.names.className "TypeAlias"
        (.expression (unionType (imports.map (·.names.className)) false)),
      .gap 2,
      .define g.title.names.guard (guardSteps g.title
        ("Whether `node` is any member of the " ++ span g.title.ref.type ++ " supertype.")
        "(node.type, node.is_named) in _MEMBERS")]
    ++ exporting ["TYPES", g.title.names.className, g.title.names.guard]

/-- A package that passes on the names of its modules, with constants that list node types. -/
def barrel (grammar summary : String) (titles : List Titled)
    (constants : List (String × List String)) : Module where
  grammar := grammar
  summary := summary
  stmts :=
    [.importNames "typing" ["Final"], .gap 1]
    ++ (sortOn (·.names.module) titles).map (fun t =>
      .importNames ("." ++ t.names.module) [t.names.className, t.names.guard])
    ++ [.gap 2]
    ++ constants.map (fun c => .assign c.1 "Final" (.frozenset (Value.texts c.2)))
    ++ exporting (sortTexts (titles.flatMap (fun t => [t.names.className, t.names.guard])
      ++ constants.map (·.1)))

def nodesBarrel (b : Blueprint) : Module :=
  barrel b.grammar ("Named node types of the " ++ b.grammar ++ " grammar.")
    (b.concrete.map ConcreteNode.title ++ b.groups.map Group.title)
    [("NODE_TYPES", b.concrete.map (·.title.ref.type)),
      ("SUPERTYPES", b.groups.map (·.title.ref.type))]

def anonymousBarrel (b : Blueprint) : Module :=
  barrel b.grammar
    ("Anonymous node types (literal tokens) of the " ++ b.grammar ++ " grammar.") b.tokens
    [("ANONYMOUS_TYPES", distinct (b.tokens.map (·.ref.type)))]

def nodePath (t : Titled) : String := "nodes/" ++ t.names.module ++ ".py"

def tokenPath (t : Titled) : String := "nodes/anonymous/" ++ t.names.module ++ ".py"

/-- Every module below the package of nodes. -/
def nodeModules (b : Blueprint) : List (String × Module) :=
  b.concrete.map (fun n => (nodePath n.title, ownModule b.grammar n.title))
    ++ b.groups.map (fun g => (nodePath g.title, groupModule b.grammar g))
    ++ b.tokens.map (fun t => (tokenPath t, ownModule b.grammar t))
    ++ [("nodes/__init__.py", nodesBarrel b),
      ("nodes/anonymous/__init__.py", anonymousBarrel b)]

end TraversalSdk.Sdk
