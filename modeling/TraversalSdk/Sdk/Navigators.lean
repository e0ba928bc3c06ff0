import TraversalSdk.Source.Module
import TraversalSdk.Sdk.Blueprint
import TraversalSdk.Sdk.NavigatorBase

namespace TraversalSdk.Sdk
open Source Text

def expected (targets : List Titled) : String :=
  tupleText ((distinct (targets.map (·.ref.type))).map literal)

/-- The navigators that a field leads to. -/
def fieldType (a : TitledAccessor) : String :=
  if a.targets.isEmpty then "Navigator[Any]"
  else unionType (a.targets.map Titled.navigatorClass) false

/-- A method with a description and one line of code. -/
def method (name result summary code : String) : List Step := [
  .blank 1,
  .block ("def " ++ name ++ "(self) -> " ++ result) [.docstring summary, .line ("return " ++ code)]]

/-- A call of a method of the base navigator. -/
def baseCall (name : String) (arguments : List String) : String :=
  "self." ++ name ++ "(" ++ ", ".intercalate arguments ++ ")"

def fieldSteps (a : TitledAccessor) (field : String) : List Step :=
  let stem := a.accessor.stem
  let place := [literal field, literal (stem ++ "()")]
  let result := fieldType a
  if a.accessor.multiple then
    method stem ("list[" ++ result ++ "]") ("Every node in the " ++ span field ++ " field.")
      (baseCall "_fields" place)
    ++ method (stem ++ "_or_raise") ("list[" ++ result ++ "]")
      ("Every node in the " ++ span field ++ " field; raises NavigationExpectationError "
        ++ "if there are none or one has an unexpected type.")
      (baseCall "_fields_or_raise" (place ++ [expected a.targets]))
  else
    method stem (unionType [result] true) ("The " ++ span field ++ " field, or None.")
      (baseCall "_field" place)
    ++ method (stem ++ "_or_raise") result
      ("The " ++ span field ++ " field; raises NavigationExpectationError "
        ++ "if it is missing or has an unexpected type.")
      (baseCall "_field_or_raise" (place ++ [expected a.targets]))

def childSteps (a : TitledAccessor) (type : String) : List Step :=
  let stem := a.accessor.stem
  let place := [literal type, literal (stem ++ "()")]
  let result := " | ".intercalate (a.targets.map Titled.navigatorClass)
  method stem (result ++ " | None") ("The first " ++ span type ++ " child, or None.")
    (baseCall "_child_of_type" place)
  ++ method (stem ++ "_or_raise") result
    ("The first " ++ span type ++ " child; raises NavigationExpectationError if absent.")
    (baseCall "_child_of_type_or_raise" place)
  ++ if a.accessor.multiple then
      method (stem ++ "_all") ("list[" ++ result ++ "]")
        ("Every " ++ span type ++ " child, in order.") (baseCall "_children_of_type" place)
    else []

def accessorSteps (a : TitledAccessor) : List Step :=
  match a.accessor.access with
  | .field name => fieldSteps a name
  | .child type => childSteps a type

def navigatorSteps (n : ConcreteNode) : List Step := [
  .block ("class " ++ n.title.navigatorClass ++ "(Navigator[" ++ n.title.names.className ++ "])") (
    [.docstring ("Navigates a node of type " ++ span n.title.ref.type ++ "."),
      .blank 1,
      .line ("node_type: ClassVar[str | None] = " ++ literal n.title.ref.type)]
    ++ n.accessors.flatMap accessorSteps)]

def rootType : Option Titled → String
  | some t => t.navigatorClass
  | none => "Navigator[Any]"

def createSummary : Option Titled → String
  | some t => "A navigator on the root of a parse tree.\nRaises:\n"
    ++ "    NavigationExpectationError: If the root node is not of type " ++ span t.ref.type ++ "."
  | none => "A navigator on the root of a parse tree."

def createSteps (root : Option Titled) : List Step := [
  .block ("def create(tree: SyntaxTree) -> " ++ rootType root) [
    .docstring (createSummary root),
    .line "root = tree.root_node",
    .block "if ROOT_TYPE is not None and root.type != ROOT_TYPE"
      [.line "raise NavigationExpectationError((ROOT_TYPE,), root.type, ())"],
    .line "return wrap(root)  # type: ignore[return-value]"]]

/-- One navigator class per node type, whose methods lead to fields and children by name. -/
def navigatorModule (b : Blueprint) : Module where
  grammar := b.grammar
  summary := "Typed navigators over " ++ b.grammar ++ " parse trees.\n"
    ++ "Start with `create(tree)` and follow fields and children by name."
  stmts :=
    [.importNames "collections.abc" ["Mapping", "Sequence"],
      .importNames "types" ["MappingProxyType"],
      .importNames "typing" ["Any", "ClassVar", "Final", "Generic", "TypeVar"],
      .gap 1,
      .importNames ".errors" ["NavigationExpectationError"]]
    ++ b.concrete.map (fun n =>
      .importNames (".nodes." ++ n.title.names.module) [n.title.names.className])
    ++ [.importNames ".types" ["SyntaxNode", "SyntaxTree"], .gap 2]
    ++ navigatorBase
    ++ b.concrete.flatMap (fun n => [.gap 2, .define n.title.navigatorClass (navigatorSteps n)])
    ++ [.gap 2,
      .table "NAVIGATORS" "Final[Mapping[str, type[Navigator[Any]]]]"
        (b.concrete.map fun n => (n.title.ref.type, .expression n.title.navigatorClass)),
      .assign "ROOT_TYPE" "Final[str | None]" (Value.ofName? (b.root.map (·.ref.type))),
      .gap 2]
    ++ navigatorWrap
    ++ [.gap 2,
      .define "create" (createSteps b.root),
      .gap 2,
      .exportSpread (["NAVIGATORS", "Navigator", "ROOT_TYPE", "create", "wrap"]
        ++ sortTexts (b.concrete.map (·.title.navigatorClass)))]

end TraversalSdk.Sdk
