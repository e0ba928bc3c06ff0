import TraversalSdk.NodeType.Basic

namespace TraversalSdk

def ChildSpec.toJson (s : ChildSpec) : Json :=
  .obj [("multiple", .bool s.multiple), ("required", .bool s.required),
    ("types", Json.list NodeRef.toJson s.types)]

/-- A member that is left out, or null, when it has no value. -/
def optionalMember {α : Type} (nulls : Bool) (key : String) (write : α → Json) :
    Option α → List (String × Json)
  | some a => [(key, write a)]
  | none => if nulls then [(key, .null)] else []

namespace Descriptor

def toJson (nulls : Bool) (d : Descriptor) : Json :=
  .obj (d.ref.members ++ [("root", .bool d.root), ("extra", .bool d.extra),
    ("fields", .obj (d.fields.map fun f => (f.1, f.2.toJson)))]
    ++ optionalMember nulls "children" ChildSpec.toJson d.children
    ++ optionalMember nulls "subtypes" (Json.list NodeRef.toJson) d.subtypes)

end Descriptor

end TraversalSdk
