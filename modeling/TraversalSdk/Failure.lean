import TraversalSdk.Report
import TraversalSdk.Checked
import TraversalSdk.Rule.Kind
import TraversalSdk.NodeType.Ref
import TraversalSdk.Storage.Obstacle

namespace TraversalSdk

/-- The two documents of a grammar. -/
inductive Document
  | grammar
  | nodeTypes
  deriving DecidableEq

def Document.fileName : Document → String
  | .grammar => "grammar.json"
  | .nodeTypes => "node-types.json"

def Document.container : Document → String
  | .grammar => "object"
  | .nodeTypes => "array"

/-- All that can go wrong between reading a grammar and writing its SDK. -/
inductive Failure
  | notJson (document : Document)
  | wrongContainer (document : Document)
  | malformedRule (location : String) (issues : List Issue)
  | malformedGrammar (issues : List Issue)
  | malformedNodeTypes (issues : List Issue)
  | unclassifiableRule (tag : Option String) (location : String)
  | notOptional (kind : RuleKind)
  | duplicateNodeType (node : NodeRef)
  | missingNodeTypes (users : List (String × List String))
  | noRules (grammar : String)
  | noSuchRule (grammar rule : String)
  | invalidNamespace (field : String) (value : Json) (reason : Option String)
  | notIterable (value : Json)
  | tooDeep
  | tooDeepToWrite
  | sharedPath (path grammar : String)
  | unnamed (node : NodeRef) (grammar : String)
  | noDirectory (path : String)
  | noArtifacts (path : String)
  | unreadable (path : String) (obstacle : Obstacle)
  | notGenerated (path : String)
  | unwritable (path : String) (obstacle : Obstacle)
  | barred (path : String) (obstacle : Obstacle)

namespace Failure
open Text

def issueList (issues : List Issue) : Json :=
  Json.list (fun i => Json.texts [i.location, i.fault.code]) issues

def malformed (subject location : String) (issues : List Issue) : Report :=
  ⟨.grammar, "Malformed " ++ subject ++ " at " ++ location ++ ": " ++ toString issues.length
    ++ " validation error(s)", [("location", .str location), ("errors", issueList issues)], []⟩

def atPath (category : Category) (message path : String) (suggestions : List String) : Report :=
  ⟨category, message, [("path", .str path)], suggestions⟩

/-- A report without details. -/
def bare (category : Category) (message : String) : Report := ⟨category, message, [], []⟩

def depthMessage : String := "Maximum serialization depth exceeded"

def withPath (path : String) (obstacle : Obstacle) : String :=
  if obstacle.namesPath then obstacle.message ++ ": " ++ quoted path else obstacle.message

def barrier : Obstacle → Category
  | .absent => .absentFile
  | .occupied => .existingFile
  | .notDirectory => .notDirectory
  | .isDirectory => .directory
  | .holdsNul | .notText _ => .wrongValue
  | _ => .system

/-- The word for the kind of a value in messages. -/
def kindWord : Json → String
  | .null => "NoneType"
  | .bool _ => "bool"
  | .int _ => "int"
  | .real _ => "float"
  | .str _ => "str"
  | .arr _ => "list"
  | .obj _ => "dict"

def report : Failure → Report
  | notJson document => ⟨.grammar, document.fileName ++ " is not valid JSON", [], []⟩
  | wrongContainer document =>
    ⟨.grammar, document.fileName ++ " must contain a JSON " ++ document.container, [], []⟩
  | malformedRule location issues => malformed "grammar rule" location issues
  | malformedGrammar issues => malformed "grammar document" "grammar" issues
  | malformedNodeTypes issues =>
    ⟨.grammar, "Malformed node-types.json: " ++ toString issues.length ++ " validation error(s)",
      [("errors", issueList issues)], []⟩
  | unclassifiableRule tag location =>
    Report.unclassifiableRule (Json.ofOption .str tag) location
  | notOptional kind =>
    ⟨.notOptional, "Expected CHOICE(<rule>, BLANK) but got " ++ kind.tag,
      [("rule_type", .str kind.tag)], []⟩
  | duplicateNodeType node =>
    ⟨.grammar, "Node type " ++ node.shown ++ " is declared more than once in node-types.json",
      [("node_type", .str node.type), ("named", .bool node.named)], []⟩
  | missingNodeTypes users =>
    Report.missingNodeTypes (users.map (·.1)) (users.map fun u => (u.1, Json.texts u.2))
  | noRules grammar => ⟨.grammar, "Grammar " ++ quoted grammar ++ " has no rules", [], []⟩
  | noSuchRule grammar rule =>
    ⟨.grammar, "Grammar " ++ quoted grammar ++ " has no rule named " ++ quoted rule,
      [("rule", .str rule)], []⟩
  | invalidNamespace field value reason => Report.invalidNamespace field value reason
  | notIterable value =>
    bare .wrongKind (quoted (kindWord value) ++ " object is not iterable")
  | tooDeep => bare .wrongValue depthMessage
  | tooDeepToWrite => bare .unwritableValue ("Error serializing to JSON: ValueError: " ++ depthMessage)
  | sharedPath path grammar =>
    ⟨.generation, "Two generated files share the path " ++ path,
      [("path", .str path), ("grammar", .str grammar)], []⟩
  | unnamed node grammar =>
    ⟨.generation, "Failed to generate the SDK for grammar " ++ quoted grammar
        ++ ": NodeRef(type=" ++ quoted node.type ++ ", named=" ++ (Json.bool node.named).shown ++ ")",
      [("grammar", .str grammar), ("cause", .str "KeyError")],
      ["This is likely a bug in Treant; please report it with your grammar."]⟩
  | noDirectory path =>
    atPath .load ("Grammar directory " ++ path ++ " does not exist") path []
  | noArtifacts path =>
    atPath .load ("No grammar.json and node-types.json found in " ++ path) path
      ["Run `tree-sitter generate` in the grammar directory first.",
        "Point at the grammar root or its `src` directory containing grammar.json."]
  | unreadable path obstacle =>
    atPath .load ("Could not read grammar artifacts from " ++ path ++ ": " ++ withPath path obstacle) path []
  | notGenerated path =>
    atPath .output ("Refusing to clean " ++ path ++ ": it does not look like a generated SDK") path
      ["Choose an empty or new output directory, or remove it yourself."]
  | unwritable path obstacle =>
    atPath .output ("Could not write " ++ path ++ ": " ++ withPath path obstacle) path []
  | barred path obstacle => bare (barrier obstacle) (withPath path obstacle)

end Failure

end TraversalSdk
