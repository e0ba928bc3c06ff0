import TraversalSdk.Text.Literal
import TraversalSdk.Text.Printable
import TraversalSdk.Order

namespace TraversalSdk.Source
open Text

inductive Value
  | text (s : String)
  | flag (b : Bool)
  | absent
  | tuple (items : List Value)
  | frozenset (items : List Value)
  | expression (source : String)

/-- A tuple of one item keeps a comma. -/
def tupleText : List String → String
  | [s] => "(" ++ s ++ ",)"
  | items => "(" ++ ", ".intercalate items ++ ")"

def frozensetText : List String → String
  | [] => "frozenset()"
  | items => "frozenset(\x7b" ++ ", ".intercalate items ++ "\x7d)"

namespace Value

def ofName? : Option String → Value
  | some s => text s
  | none => absent

mutual

def source : Value → String
  | text s => literal s
  | flag true => "True"
  | flag false => "False"
  | absent => "None"
  | tuple items => tupleText (sources items)
  | frozenset items => frozensetText (sources items)
  | expression s => s

def sources : List Value → List String
  | [] => []
  | v :: vs => source v :: sources vs

end

def texts (l : List String) : List Value := l.map text

end Value

/-- The type of the given texts alone. -/
def literalType : List String → String
  | [] => "Never"
  | l => "Literal[" ++ ", ".intercalate (l.map literal) ++ "]"

/-- The union of the types of the given names, each once, and of no value. -/
def unionType (names : List String) (optional : Bool) : String :=
  match distinct names ++ (if optional then ["None"] else []) with
  | [] => "Never"
  | members => " | ".intercalate members

/-- Text within triple quotes: quotes and backslashes are escaped. -/
def proseChar (c : Char) : List Char :=
  if c == '\\' then ['\\', '\\'] else if c == '"' then ['\\', '"'] else [c]

def proseChars (cs : List Char) : List Char := cs.flatMap proseChar

def prose (s : String) : String := String.ofList (proseChars s.toList)

/-- A node type in prose; a text that cannot be shown appears as a literal. -/
def span (s : String) : String :=
  if s.toList.all isPrintable then "`" ++ s ++ "`" else literal s

end TraversalSdk.Source
