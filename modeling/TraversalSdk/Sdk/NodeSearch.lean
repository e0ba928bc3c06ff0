import TraversalSdk.Source.Module

namespace TraversalSdk.Sdk
open Source

/-- The part of an SDK that searches the children of a node. -/
def nodeSearch : List Stmt := [
  .importNames ".types" ["SyntaxNode"],
  .gap 2,
  .define "find_child_by_type" (Step.ofLines [
    "def find_child_by_type(",
    "    node: SyntaxNode, type_name: str, *, named: bool | None = None",
    ") -> SyntaxNode | None:",
    "    \"\"\"The first direct child of `node` with the given type, or None.",
    "",
    "    `named` restricts the match to named (True) or anonymous (False) children.",
    "    \"\"\"",
    "    for child in node.children:",
    "        if child.type == type_name and (named is None or child.is_named == named):",
    "            return child",
    "    return None"]),
  .gap 2,
  .define "find_children_by_type" (Step.ofLines [
    "def find_children_by_type(",
    "    node: SyntaxNode, type_name: str, *, named: bool | None = None",
    ") -> list[SyntaxNode]:",
    "    \"\"\"Every direct child of `node` with the given type, in order.\"\"\"",
    "    return [",
    "        child",
    "        for child in node.children",
    "        if child.type == type_name and (named is None or child.is_named == named)",
    "    ]"]),
  .gap 2,
  .define "node_text" (Step.ofLines [
    "def node_text(node: SyntaxNode, encoding: str = \"utf-8\") -> str:",
    "    \"\"\"A node's source text, decoded.\"\"\"",
    "    return (node.text or b\"\").decode(encoding)"]),
  .gap 2,
  .exportTuple ["find_child_by_type", "find_children_by_type", "node_text"]]

end TraversalSdk.Sdk
