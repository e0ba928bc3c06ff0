import TraversalSdk.Source.Module
import TraversalSdk.Sdk.Blueprint

namespace TraversalSdk.Sdk
open Source Text

def categorizeSteps : List Step := [
  .block "def categorize(text: str) -> str | None" (
    .docstring
      "The category of an anonymous token's text, or None if the grammar has no such token."
    :: TokenCategory.all.map (fun k =>
      .block ("if text in " ++ k.constant) [.line ("return " ++ literal k.word)])
    ++ [.line "return None"])]

def categoryGuard (k : TokenCategory) : List Stmt := [
  .gap 2,
  .define k.guard [
    .block ("def " ++ k.guard ++ "(text: str) -> TypeGuard[" ++ k.typeAlias ++ "]") [
      .docstring ("Whether `text` is one of the grammar's " ++ k.word ++ " tokens."),
      .line ("return text in " ++ k.constant)]]]

def tokenExports : List String :=
  sortTexts (TokenCategory.all.flatMap (fun k => [k.typeAlias, k.constant, k.guard])
    ++ ["ANONYMOUS_TYPES", "categorize"])

/-- The module that sorts the texts of anonymous tokens into categories. -/
def tokensModule (b : Blueprint) : Module where
  grammar := b.grammar
  summary := "Anonymous tokens of the " ++ b.grammar ++ " grammar, "
    ++ "grouped into punctuation, operators, and keywords."
  stmts :=
    [.importNames "typing" ["Final", "Literal", "Never", "TypeAlias", "TypeGuard"], .gap 2]
    ++ TokenCategory.all.map (fun k =>
      .assign k.typeAlias "TypeAlias" (.expression (literalType (b.tokensOf k))))
    ++ [.gap 1]
    ++ TokenCategory.all.map (fun k =>
      .assign k.constant "Final[frozenset[str]]" (.frozenset (Value.texts (b.tokensOf k))))
    ++ [.assign "ANONYMOUS_TYPES" "Final[frozenset[str]]"
        (.expression (" | ".intercalate (TokenCategory.all.map TokenCategory.constant))),
      .gap 2, .define "categorize" categorizeSteps]
    ++ TokenCategory.all.flatMap categoryGuard
    ++ [.gap 2, .exportLine tokenExports]

end TraversalSdk.Sdk
