import TraversalSdk.Source.Module

namespace TraversalSdk.Sdk
open Source

/-- The part of an SDK that moves cursors, the same for every grammar. -/
def cursorBase : List Stmt := [
  .importNames "typing" ["ClassVar"],
  .gap 1,
  .importNames "..types" ["RawTreeCursor", "SyntaxNode", "SyntaxTree"],
  .gap 2,
  .assign "_REGISTRY" "dict[str, type[TreeCursor]]" (.expression "\x7b\x7d"),
  .gap 2,
  .define "TreeCursor" (Step.ofLines [
    "class TreeCursor:",
    "    \"\"\"A cursor positioned on one node of a parse tree.",
    "",
    "    Moves never change the cursor they are called on: each `goto_*` method",
    "    moves a copy of the underlying cursor and returns a new cursor of the class",
    "    registered for the node type it lands on, or None if there is no such node.",
    "    \"\"\"",
    "",
    "    node_type: ClassVar[str | None] = None",
    "",
    "    def __init_subclass__(cls, **kwargs: object) -> None:",
    "        super().__init_subclass__(**kwargs)",
    "        if cls.node_type is not None:",
    "            _REGISTRY[cls.node_type] = cls",
    "",
    "    def __init__(self, raw: RawTreeCursor) -> None:",
    "        self._raw = raw",
    "",
    "    def __repr__(self) -> str:",
    "        node = self._raw.node",
    "        node_type = None if node is None else node.type",
    "        return f\"\x7btype(self).__name__\x7d(\x7bnode_type!r\x7d)\"",
    "",
    "    @property",
    "    def raw(self) -> RawTreeCursor:",
    "        \"\"\"The wrapped cursor.\"\"\"",
    "        return self._raw",
    "",
    "    @property",
    "    def node(self) -> SyntaxNode:",
    "        \"\"\"The node under the cursor.\"\"\"",
    "        node = self._raw.node",
    "        if node is None:",
    "            raise ValueError(\"cursor is not positioned on a node\")",
    "        return node",
    "",
    "    @property",
    "    def type(self) -> str:",
    "        return self.node.type",
    "",
    "    @property",
    "    def is_named(self) -> bool:",
    "        return self.node.is_named",
    "",
    "    @property",
    "    def field_name(self) -> str | None:",
    "        \"\"\"The field the current node is in, if any.\"\"\"",
    "        return self._raw.field_name",
    "",
    "    def _move(self, step: str) -> TreeCursor | None:",
    "        raw = self._raw.copy()",
    "        if not getattr(raw, step)():",
    "            return None",
    "        return wrap(raw)",
    "",
    "    def goto_first_child(self) -> TreeCursor | None:",
    "        return self._move(\"goto_first_child\")",
    "",
    "    def goto_next_sibling(self) -> TreeCursor | None:",
    "        return self._move(\"goto_next_sibling\")",
    "",
    "    def goto_previous_sibling(self) -> TreeCursor | None:",
    "        return self._move(\"goto_previous_sibling\")",
    "",
    "    def goto_parent(self) -> TreeCursor | None:",
    "        return self._move(\"goto_parent\")"]),
  .gap 2,
  .define "AnonymousCursor" (Step.ofLines [
    "class AnonymousCursor(TreeCursor):",
    "    \"\"\"A cursor positioned on an anonymous token.\"\"\""]),
  .gap 2,
  .define "cursor_class" (Step.ofLines [
    "def cursor_class(node: SyntaxNode | None) -> type[TreeCursor]:",
    "    \"\"\"The cursor class for a node: its registered class, AnonymousCursor, or TreeCursor.\"\"\"",
    "    if node is None:",
    "        return TreeCursor",
    "    if not node.is_named:",
    "        return AnonymousCursor",
    "    return _REGISTRY.get(node.type, TreeCursor)"]),
  .gap 2,
  .define "wrap" (Step.ofLines [
    "def wrap(raw: RawTreeCursor) -> TreeCursor:",
    "    \"\"\"Wrap a raw cursor in the class for the node it is on.\"\"\"",
    "    return cursor_class(raw.node)(raw)"]),
  .gap 2,
  .define "from_tree" (Step.ofLines [
    "def from_tree(tree: SyntaxTree) -> TreeCursor:",
    "    \"\"\"A typed cursor on the root of a parse tree.\"\"\"",
    "    return wrap(tree.walk())"]),
  .gap 2,
  .exportTuple ["AnonymousCursor", "TreeCursor", "cursor_class", "from_tree", "wrap"]]

end TraversalSdk.Sdk
