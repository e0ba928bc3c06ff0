import TraversalSdk.Source.Module

namespace TraversalSdk.Sdk
open Source

/-- The part of an SDK that reports where a tree is not what the grammar says. -/
def expectationErrors : List Stmt := [
  .importNames "collections.abc" ["Iterable"],
  .importNames "dataclasses" ["dataclass"],
  .gap 2,
  .define "NavigationErrorContext" (Step.ofLines [
    "@dataclass(frozen=True)",
    "class NavigationErrorContext:",
    "    \"\"\"Where a navigation expectation failed.\"\"\"",
    "",
    "    expected: tuple[str, ...]",
    "    \"\"\"Node types that were acceptable at this step.\"\"\"",
    "    actual: str | None",
    "    \"\"\"The node type found, or None when no node was there.\"\"\"",
    "    path: tuple[str, ...]",
    "    \"\"\"Accessor steps taken from the root navigator, ending with the failing one.\"\"\"",
    "",
    "    def describe(self) -> str:",
    "        expected = \" | \".join(self.expected) or \"no node\"",
    "        actual = self.actual if self.actual is not None else \"nothing\"",
    "        location = \".\".join(self.path) or \"<root>\"",
    "        return f\"Expected \x7bexpected\x7d at \x7blocation\x7d, found \x7bactual\x7d\""]),
  .gap 2,
  .define "NavigationExpectationError" (Step.ofLines [
    "class NavigationExpectationError(Exception):",
    "    \"\"\"A navigator step did not find the node type the grammar allows there.\"\"\"",
    "",
    "    def __init__(",
    "        self, expected: str | Iterable[str], actual: str | None, path: Iterable[str] = ()",
    "    ) -> None:",
    "        expected = (expected,) if isinstance(expected, str) else tuple(expected)",
    "        self.context = NavigationErrorContext(expected, actual, tuple(path))",
    "        super().__init__(self.context.describe())",
    "",
    "    @property",
    "    def expected(self) -> tuple[str, ...]:",
    "        return self.context.expected",
    "",
    "    @property",
    "    def actual(self) -> str | None:",
    "        return self.context.actual",
    "",
    "    @property",
    "    def path(self) -> tuple[str, ...]:",
    "        return self.context.path"]),
  .gap 2,
  .exportTuple ["NavigationErrorContext", "NavigationExpectationError"]]

end TraversalSdk.Sdk
