import TraversalSdk.Rule.Basic
import TraversalSdk.Json.Basic

namespace TraversalSdk

def Level.toJson : Level → Json
  | .number n => .int n
  | .name s => .str s

namespace Rule

def flagsMember (nulls : Bool) : Option String → List (String × Json)
  | some s => [("flags", .str s)]
  | none => if nulls then [("flags", .null)] else []

mutual

/-- The tag comes first. A pattern without flags is written with a null, or without the member. -/
def toJson (nulls : Bool) (r : Rule) : Json :=
  .obj (("type", .str r.kind.tag) :: match r with
    | symbol name => [("name", .str name)]
    | literal text => [("value", .str text)]
    | pattern source flags => ("value", .str source) :: flagsMember nulls flags
    | blank => []
    | seq ms => [("members", .arr (toJsons nulls ms))]
    | choice ms => [("members", .arr (toJsons nulls ms))]
    | star c => [("content", toJson nulls c)]
    | plus c => [("content", toJson nulls c)]
    | field name c => [("name", .str name), ("content", toJson nulls c)]
    | aliased c named value =>
      [("content", toJson nulls c), ("named", .bool named), ("value", .str value)]
    | token c => [("content", toJson nulls c)]
    | immediateToken c => [("content", toJson nulls c)]
    | prec _ level c => [("value", level.toJson), ("content", toJson nulls c)]
    | precDynamic n c => [("value", .int n), ("content", toJson nulls c)])

def toJsons (nulls : Bool) : List Rule → List Json
  | [] => []
  | r :: rs => toJson nulls r :: toJsons nulls rs

end

end Rule

end TraversalSdk
