import TraversalSdk.Grammar.Basic
import TraversalSdk.Rule.Encode

namespace TraversalSdk.Grammar

def wordMember (nulls : Bool) : Option String → List (String × Json)
  | some s => [("word", .str s)]
  | none => if nulls then [("word", .null)] else []

def members (nulls : Bool) (g : Grammar) : List (String × Json) :=
  let rules := Json.list (Rule.toJson nulls)
  [("name", .str g.name), ("rules", .obj (g.rules.map fun r => (r.1, r.2.toJson nulls))),
    ("extras", rules g.extras), ("conflicts", Json.list Json.texts g.conflicts),
    ("precedences", Json.list rules g.precedences), ("externals", rules g.externals),
    ("inline", Json.texts g.inlined), ("supertypes", Json.texts g.supertypes)]
    ++ wordMember nulls g.word

def keptUnknown (nulls : Bool) (g : Grammar) : List (String × Json) :=
  if nulls then g.unknown else Json.finiteMembers (g.unknown.filter fun m => !m.2.isNull)

/-- The known members come in order, then the others. Where nulls are left out, unknown numbers that are not
finite become nulls. -/
def toJson (nulls : Bool) (g : Grammar) : Json := .obj (g.members nulls ++ g.keptUnknown nulls)

end TraversalSdk.Grammar
