import TraversalSdk.Naming.Identifier
import TraversalSdk.Vocabulary
import TraversalSdk.NodeType.Catalogue

namespace TraversalSdk

/-- Categories of anonymous tokens, told by the characters of their text. -/
inductive TokenCategory
  | punctuation
  | operator
  | keyword
  deriving DecidableEq

namespace TokenCategory

def all : List TokenCategory := [punctuation, operator, keyword]

def word : TokenCategory → String
  | punctuation => "punctuation"
  | operator => "operator"
  | keyword => "keyword"

def name : TokenCategory → String
  | punctuation => "PUNCTUATION"
  | operator => "OPERATOR"
  | keyword => "KEYWORD"

def vocabulary : Vocabulary TokenCategory := ⟨"AnonymousCategory", all, name, fun k => .text k.word⟩

/-- The type alias of a category in generated code. -/
def typeAlias (k : TokenCategory) : String := Casing.pascal k.word ++ "Type"

/-- The constant of a category in generated code. -/
def constant (k : TokenCategory) : String := k.name ++ "_TYPES"

/-- Whether a token is of the category, in generated code. -/
def guard (k : TokenCategory) : String := "is_" ++ k.word

/-- One character that no identifier holds is punctuation, several of them are an operator, and
everything else is a keyword. -/
def ofText (s : String) : TokenCategory :=
  if s.toList.any Naming.isNameChar || s.isEmpty then keyword
  else if s.toList.length = 1 then punctuation
  else operator

end TokenCategory

/-- The texts of a category, in order. -/
def textsOf (texts : List String) (k : TokenCategory) : List String :=
  (textSet texts).filter fun s => TokenCategory.ofText s = k

def Catalogue.tokenTexts (c : Catalogue) : List String := c.anonymous.map (·.ref.type)

end TraversalSdk
