import TraversalSdk.Json.Basic
import TraversalSdk.Number.Decimal
import TraversalSdk.Text.Literal

namespace TraversalSdk.Json
open Text

def intText (n : Int) : String := toString n

def scalarText : Json → String
  | .bool true => "true"
  | .bool false => "false"
  | .int n => intText n
  | .real x => documentDecimal.text x
  | .str s => literal s
  | _ => "null"

/-- A line break and the indentation of a level. -/
def newLine (level : Nat) : String := "\n" ++ String.ofList (List.replicate (2 * level) ' ')

mutual

/-- Empty arrays and objects stay on one line. -/
def indented (level : Nat) : Json → String
  | .arr [] => "[]"
  | .arr (v :: vs) => "[" ++ newLine (level + 1) ++ indented (level + 1) v
      ++ indentedItems level vs ++ newLine level ++ "]"
  | .obj [] => "\x7b\x7d"
  | .obj ((key, v) :: ms) => "\x7b" ++ newLine (level + 1) ++ literal key ++ ": "
      ++ indented (level + 1) v ++ indentedMembers level ms ++ newLine level ++ "\x7d"
  | v => scalarText v

def indentedItems (level : Nat) : List Json → String
  | [] => ""
  | v :: vs => "," ++ newLine (level + 1) ++ indented (level + 1) v ++ indentedItems level vs

def indentedMembers (level : Nat) : List (String × Json) → String
  | [] => ""
  | (key, v) :: ms => "," ++ newLine (level + 1) ++ literal key ++ ": " ++ indented (level + 1) v
      ++ indentedMembers level ms

end

/-- The text of a document. -/
def document (v : Json) : String := indented 0 v

mutual

def compact : Json → String
  | .arr [] => "[]"
  | .arr (v :: vs) => "[" ++ compact v ++ compactItems vs ++ "]"
  | .obj [] => "\x7b\x7d"
  | .obj ((key, v) :: ms) => "\x7b" ++ literal key ++ ":" ++ compact v ++ compactMembers ms ++ "\x7d"
  | v => scalarText v

def compactItems : List Json → String
  | [] => ""
  | v :: vs => "," ++ compact v ++ compactItems vs

def compactMembers : List (String × Json) → String
  | [] => ""
  | (key, v) :: ms => "," ++ literal key ++ ":" ++ compact v ++ compactMembers ms

end

end TraversalSdk.Json
