import TraversalSdk.Json.Basic
import TraversalSdk.Number.Decimal
import TraversalSdk.Text.Quoted

namespace TraversalSdk.Json
open Text

mutual

def shown : Json → String
  | .null => "None"
  | .bool true => "True"
  | .bool false => "False"
  | .int n => toString n
  | .real x => messageDecimal.text x
  | .str s => quoted s
  | .arr vs => "[" ++ ", ".intercalate (shownItems vs) ++ "]"
  | .obj ms => "\x7b" ++ ", ".intercalate (shownMembers ms) ++ "\x7d"

def shownItems : List Json → List String
  | [] => []
  | v :: vs => shown v :: shownItems vs

def shownMembers : List (String × Json) → List String
  | [] => []
  | (key, v) :: ms => (quoted key ++ ": " ++ shown v) :: shownMembers ms

end

/-- A text stands for itself, without quotes. -/
def plain : Json → String
  | .str s => s
  | v => shown v

end TraversalSdk.Json
