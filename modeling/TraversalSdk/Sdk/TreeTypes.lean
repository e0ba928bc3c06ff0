import TraversalSdk.Source.Module

namespace TraversalSdk.Sdk
open Source

/-- The part of an SDK that describes parse trees: nodes, cursors and trees as the SDK uses them. -/
def treeTypes : List Stmt := [
  .importNames "collections.abc" ["Sequence"],
  .importNames "typing" ["Protocol"],
  .gap 2,
  .define "SyntaxNode" (Step.ofLines [
    "class SyntaxNode(Protocol):",
    "    \"\"\"A node in a parse tree.\"\"\"",
    "",
    "    @property",
    "    def type(self) -> str: ...",
    "",
    "    @property",
    "    def is_named(self) -> bool: ...",
    "",
    "    @property",
    "    def text(self) -> bytes | None: ...",
    "",
    "    @property",
    "    def children(self) -> Sequence[SyntaxNode]: ...",
    "",
    "    @property",
    "    def named_children(self) -> Sequence[SyntaxNode]: ...",
    "",
    "    @property",
    "    def parent(self) -> SyntaxNode | None: ...",
    "",
    "    @property",
    "    def next_sibling(self) -> SyntaxNode | None: ...",
    "",
    "    @property",
    "    def prev_sibling(self) -> SyntaxNode | None: ...",
    "",
    "    def child_by_field_name(self, name: str, /) -> SyntaxNode | None: ...",
    "",
    "    def children_by_field_name(self, name: str, /) -> Sequence[SyntaxNode]: ..."]),
  .gap 2,
  .define "RawTreeCursor" (Step.ofLines [
    "class RawTreeCursor(Protocol):",
    "    \"\"\"A stateful cursor over a parse tree.\"\"\"",
    "",
    "    @property",
    "    def node(self) -> SyntaxNode | None: ...",
    "",
    "    @property",
    "    def field_name(self) -> str | None: ...",
    "",
    "    def goto_first_child(self) -> bool: ...",
    "",
    "    def goto_next_sibling(self) -> bool: ...",
    "",
    "    def goto_previous_sibling(self) -> bool: ...",
    "",
    "    def goto_parent(self) -> bool: ...",
    "",
    "    def copy(self) -> RawTreeCursor: ..."]),
  .gap 2,
  .define "SyntaxTree" (Step.ofLines [
    "class SyntaxTree(Protocol):",
    "    \"\"\"A parsed tree.\"\"\"",
    "",
    "    @property",
    "    def root_node(self) -> SyntaxNode: ...",
    "",
    "    def walk(self) -> RawTreeCursor: ..."]),
  .gap 2,
  .exportTuple ["RawTreeCursor", "SyntaxNode", "SyntaxTree"]]

end TraversalSdk.Sdk
