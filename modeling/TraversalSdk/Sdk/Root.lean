import TraversalSdk.Source.Module
import TraversalSdk.Sdk.Blueprint

namespace TraversalSdk.Sdk
open Source Naming

def titleExports (titles : List Titled) : List String :=
  sortTexts (titles.flatMap fun t => [t.names.className, t.names.guard])

/-- The names that the root module takes from each module, by module. -/
def rootImports (b : Blueprint) : List (String × List String) := [
  (".anonymous_nodes", ["ANONYMOUS_TYPES", "KEYWORD_TYPES", "OPERATOR_TYPES", "PUNCTUATION_TYPES",
    "KeywordType", "OperatorType", "PunctuationType", "categorize", "is_keyword", "is_operator",
    "is_punctuation"]),
  (".cursor", ["CURSOR_CLASSES", "TRANSITIONS", "AnonymousCursor", "TreeCursor", "can_navigate",
    "from_tree"]),
  (".errors", ["NavigationErrorContext", "NavigationExpectationError"]),
  (".navigator", ["NAVIGATORS", "Navigator", "create"]),
  (".nodes", titleExports (b.concrete.map ConcreteNode.title ++ b.groups.map Group.title)),
  (".nodes.anonymous", titleExports b.tokens),
  (".types", ["RawTreeCursor", "SyntaxNode", "SyntaxTree"]),
  (".utils", ["find_child_by_type", "find_children_by_type", "node_text"])]

/-- The namespace as a name, unless it is none, is reserved or is taken. -/
def spaceAlias? (spaceName : String) (taken : List String) : Option String :=
  if isIdentifier spaceName && !isKeyword spaceName && !taken.contains spaceName then some spaceName
  else none

def rootNames (b : Blueprint) : List String :=
  ["ARTIFACTS_DIR", "GRAMMAR_NAME", "NAMESPACE", "cursor", "navigator", "nodes"]
    ++ (rootImports b).flatMap (·.2)

def rootAlias? (b : Blueprint) : Option String := spaceAlias? b.spaceName (rootNames b)

/-- The root module passes on the public names of all modules, and binds the package to the namespace if that
can be a name. -/
def rootModule (b : Blueprint) : Module where
  grammar := b.grammar
  summary := "Typed traversal SDK for the " ++ b.grammar ++ " grammar."
  stmts :=
    (rootAlias? b).toList.flatMap (fun _ => [.importModule "sys", .gap 1])
    ++ [.importNames "pathlib" ["Path"],
      .importNames "typing" ["Final"],
      .gap 1,
      .importNames "." ["cursor", "navigator", "nodes"]]
    ++ ((rootImports b).filter fun i => !i.2.isEmpty).map (fun i => .importSpread i.1 i.2)
    ++ [.gap 2,
      .assign "NAMESPACE" "Final" (.text b.spaceName),
      .assign "GRAMMAR_NAME" "Final" (.text b.grammar),
      .assign "ARTIFACTS_DIR" "Final" (.expression "Path(__file__).parent / \"__artifacts__\"")]
    ++ (rootAlias? b).toList.flatMap (fun name =>
      [.gap 1, .assign name "" (.expression "sys.modules[__name__]")])
    ++ [.gap 2, .exportSpread (sortTexts (rootNames b ++ (rootAlias? b).toList))]

end TraversalSdk.Sdk
