import TraversalSdk.Source.Module
import TraversalSdk.Sdk.Blueprint
import TraversalSdk.Sdk.CursorBase

namespace TraversalSdk.Sdk
open Source Text

def reachTable (g : Graph) (d : Direction) : Stmt :=
  .table d.constant "Final[Mapping[str, frozenset[str | None]]]"
    ((g.table d).map fun row => (row.1, .frozenset (row.2.map Value.ofName?)))

def sequenceValue (ms : List SequenceMember) : Value :=
  .tuple (ms.map fun m => .tuple [.text m.type, .flag m.optional, Value.ofName? m.field])

def canNavigateSteps : List Step := [
  .block "def can_navigate(from_type: str, to_type: str | None, direction: str) -> bool" [
    .docstring ("Whether a step in `direction` from a `from_type` node can land on `to_type`.\n"
      ++ "`to_type` None asks whether the step can find no node at all. Unknown "
      ++ "`from_type`s are not navigable; unknown directions raise KeyError."),
    .line "row = TRANSITIONS[direction].get(from_type)",
    .line "return row is not None and to_type in row"]]

def mapsExports : List String := ["FIRST_CHILD", "NEXT_SIBLING", "PARENT", "PREVIOUS_SIBLING",
  "SEQUENCES", "TRANSITIONS", "can_navigate"]

def mapsModule (b : Blueprint) : Module where
  grammar := b.grammar
  summary := "Which node types each cursor step can reach, as data.\n"
    ++ "Each table maps a named node type to the node types (None for no node) "
    ++ "a step in that direction can land on."
  stmts :=
    [.importNames "collections.abc" ["Mapping"],
      .importNames "types" ["MappingProxyType"],
      .importNames "typing" ["Final"],
      .gap 2]
    ++ Direction.all.flatMap (fun d => [reachTable b.graph d, .gap 1])
    ++ [.table "TRANSITIONS" "Final[Mapping[str, Mapping[str, frozenset[str | None]]]]"
        (Direction.all.map fun d => (d.word, .expression d.constant)),
      .gap 1,
      .table "SEQUENCES" "Final[Mapping[str, tuple[tuple[str, bool, str | None], ...]]]"
        (b.sequences.map fun s => (s.1, sequenceValue s.2)),
      .gap 2,
      .define "can_navigate" canNavigateSteps]
    ++ exporting mapsExports

def cursorModule (b : Blueprint) : Module where
  grammar := b.grammar
  summary := "Typed wrappers around a raw tree cursor."
  stmts := cursorBase

/-- The cursor classes that a move can end with. -/
def moveType (m : Move) : String := unionType (m.targets.map Titled.cursorClass) m.nowhere

def moveSteps (m : Move) : List Step := [
  .blank 1,
  .block ("def " ++ m.direction.method ++ "(self) -> " ++ moveType m) [
    .line ("return self._move(" ++ literal m.direction.method
      ++ ")  # type: ignore[return-value]")]]

def cursorClassSteps (n : ConcreteNode) : List Step := [
  .block ("class " ++ n.title.cursorClass ++ "(TreeCursor)") (
    [.docstring ("A cursor on a node of type " ++ span n.title.ref.type ++ "."),
      .blank 1,
      .line ("node_type: ClassVar[str | None] = " ++ literal n.title.ref.type),
      .blank 1,
      .line "@property",
      .block ("def node(self) -> " ++ n.title.names.className)
        [.line "return super().node  # type: ignore[return-value]"]]
    ++ n.moves.flatMap moveSteps)]

def conditionalsModule (b : Blueprint) : Module where
  grammar := b.grammar
  summary := "Cursor classes whose moves are typed by the grammar.\n"
    ++ "Each `goto_*` return annotation lists exactly the cursor classes that "
    ++ "step can produce from that node type."
  stmts :=
    [.importNames "types" ["MappingProxyType"], .importNames "typing" ["ClassVar", "Final"], .gap 1]
    ++ b.concrete.map (fun n =>
      .importNames ("..nodes." ++ n.title.names.module) [n.title.names.className])
    ++ [.importNames ".cursor" ["AnonymousCursor", "TreeCursor", "wrap"]]
    ++ b.concrete.flatMap (fun n => [.gap 2, .define n.title.cursorClass (cursorClassSteps n)])
    ++ [.gap 2,
      .table "CURSOR_CLASSES" "Final[MappingProxyType[str, type[TreeCursor]]]"
        (b.concrete.map fun n => (n.title.ref.type, .expression n.title.cursorClass)),
      .gap 2,
      .exportTuple (sortTexts
        ("CURSOR_CLASSES" :: "wrap" :: b.concrete.map (·.title.cursorClass)))]

def cursorImports (b : Blueprint) : List (String × List String) := [
  (".conditionals", sortTexts ("CURSOR_CLASSES" :: b.concrete.map (·.title.cursorClass))),
  (".cursor", ["AnonymousCursor", "TreeCursor", "cursor_class", "from_tree", "wrap"]),
  (".maps", mapsExports)]

def cursorBarrel (b : Blueprint) : Module where
  grammar := b.grammar
  summary := "Typed cursors for the " ++ b.grammar ++ " grammar."
  stmts :=
    (cursorImports b).map (fun i => .importSpread i.1 i.2)
    ++ exporting (sortTexts ((cursorImports b).flatMap (·.2)))

/-- The navigation graph stands in these modules twice: as tables, and in the types of the methods of one
cursor class per node type. -/
def cursorModules (b : Blueprint) : List (String × Module) := [
  ("cursor/__init__.py", cursorBarrel b),
  ("cursor/conditionals.py", conditionalsModule b),
  ("cursor/cursor.py", cursorModule b),
  ("cursor/maps.py", mapsModule b)]

end TraversalSdk.Sdk
