import TraversalSdk.Source.Module

namespace TraversalSdk.Sdk
open Source

def navigatorBase : List Stmt := [
  .assign "N" "" (.expression "TypeVar(\"N\", bound=SyntaxNode)"),
  .gap 2,
  .define "Navigator" (Step.ofLines [
    "class Navigator(Generic[N]):",
    "    \"\"\"Fluent access to a node's fields and children.",
    "",
    "    A navigator remembers the accessor steps that led to it from the root, so a",
    "    failed `*_or_raise` call reports where the tree did not match the grammar.",
    "    \"\"\"",
    "",
    "    node_type: ClassVar[str | None] = None",
    "",
    "    def __init__(self, node: N, path: Sequence[str] = ()) -> None:",
    "        self.node = node",
    "        self.path = tuple(path)",
    "",
    "    def __repr__(self) -> str:",
    "        location = \".\".join(self.path) or \"<root>\"",
    "        return f\"\x7btype(self).__name__\x7d(\x7bself.node.type!r\x7d at \x7blocation\x7d)\"",
    "",
    "    @property",
    "    def type(self) -> str:",
    "        return self.node.type",
    "",
    "    @property",
    "    def text(self) -> str:",
    "        \"\"\"The node's source text, decoded as UTF-8.\"\"\"",
    "        return (self.node.text or b\"\").decode(\"utf-8\")",
    "",
    "    def child(self, index: int) -> Navigator[Any] | None:",
    "        \"\"\"The child at `index`, named or anonymous, or None.\"\"\"",
    "        return self._at(self.node.children, index, f\"child(\x7bindex\x7d)\")",
    "",
    "    def named_child(self, index: int) -> Navigator[Any] | None:",
    "        \"\"\"The named child at `index`, or None.\"\"\"",
    "        return self._at(self.node.named_children, index, f\"named_child(\x7bindex\x7d)\")",
    "",
    "    def child_of_type(self, type_name: str) -> Navigator[Any] | None:",
    "        \"\"\"The first named child with the given type, or None.\"\"\"",
    "        return self._child_of_type(type_name, f\"child_of_type(\x7btype_name!r\x7d)\")",
    "",
    "    def children_of_type(self, type_name: str) -> list[Navigator[Any]]:",
    "        \"\"\"Every named child with the given type, in order.\"\"\"",
    "        return self._children_of_type(type_name, f\"children_of_type(\x7btype_name!r\x7d)\")",
    "",
    "    def _step(self, step: str) -> tuple[str, ...]:",
    "        return (*self.path, step)",
    "",
    "    def _at(self, children: Sequence[SyntaxNode], index: int, step: str) -> Navigator[Any] | None:",
    "        if not -len(children) <= index < len(children):",
    "            return None",
    "        return wrap(children[index], self._step(step))",
    "",
    "    def _field(self, name: str, step: str) -> Any:",
    "        child = self.node.child_by_field_name(name)",
    "        return None if child is None else wrap(child, self._step(step))",
    "",
    "    def _field_or_raise(self, name: str, step: str, expected: tuple[str, ...]) -> Any:",
    "        child = self.node.child_by_field_name(name)",
    "        if child is None or child.type not in expected:",
    "            actual = None if child is None else child.type",
    "            raise NavigationExpectationError(expected, actual, self._step(step))",
    "        return wrap(child, self._step(step))",
    "",
    "    def _fields(self, name: str, step: str) -> list[Any]:",
    "        children = self.node.children_by_field_name(name)",
    "        return [wrap(child, self._step(f\"\x7bstep\x7d[\x7bi\x7d]\")) for i, child in enumerate(children)]",
    "",
    "    def _fields_or_raise(self, name: str, step: str, expected: tuple[str, ...]) -> list[Any]:",
    "        children = self.node.children_by_field_name(name)",
    "        if not children:",
    "            raise NavigationExpectationError(expected, None, self._step(step))",
    "        for i, child in enumerate(children):",
    "            if child.type not in expected:",
    "                raise NavigationExpectationError(expected, child.type, self._step(f\"\x7bstep\x7d[\x7bi\x7d]\"))",
    "        return [wrap(child, self._step(f\"\x7bstep\x7d[\x7bi\x7d]\")) for i, child in enumerate(children)]",
    "",
    "    def _child_of_type(self, type_name: str, step: str) -> Any:",
    "        for child in self.node.named_children:",
    "            if child.type == type_name:",
    "                return wrap(child, self._step(step))",
    "        return None",
    "",
    "    def _child_of_type_or_raise(self, type_name: str, step: str) -> Any:",
    "        found = self._child_of_type(type_name, step)",
    "        if found is None:",
    "            raise NavigationExpectationError((type_name,), None, self._step(step))",
    "        return found",
    "",
    "    def _children_of_type(self, type_name: str, step: str) -> list[Any]:",
    "        matches = [child for child in self.node.named_children if child.type == type_name]",
    "        return [wrap(child, self._step(f\"\x7bstep\x7d[\x7bi\x7d]\")) for i, child in enumerate(matches)]"])]

/-- Puts a node into the navigator of its type. -/
def navigatorWrap : List Stmt := [
  .define "wrap" (Step.ofLines [
    "def wrap(node: SyntaxNode, path: Sequence[str] = ()) -> Navigator[Any]:",
    "    \"\"\"Wrap a node in the navigator for its type.",
    "",
    "    Anonymous nodes and node types the grammar does not declare get the base",
    "    `Navigator`.",
    "    \"\"\"",
    "    cls = NAVIGATORS.get(node.type, Navigator) if node.is_named else Navigator",
    "    return cls(node, path)"])]

end TraversalSdk.Sdk
