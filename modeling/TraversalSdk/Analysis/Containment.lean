import TraversalSdk.NodeType.Catalogue

namespace TraversalSdk.Catalogue

variable (c : Catalogue)

/-- The names of the named types that a node can hold. -/
def childNames (d : Descriptor) : List String :=
  let held := c.expandAll (d.entries.flatMap (·.spec.types))
  textSet ((held.filter NodeRef.named).map NodeRef.type)

/-- The children of every type that has any, in order. -/
def childrenTable : List (String × List String) :=
  (c.concrete.map fun d => (d.ref.type, c.childNames d)).filter fun row => !row.2.isEmpty

/-- The rows that list a name, under that name. -/
def reversed (rows : List (String × List String)) : List (String × List String) :=
  (textSet (rows.flatMap (·.2))).map fun name =>
    (name, textSet ((rows.filter fun row => row.2.contains name).map (·.1)))

/-- The same relation read backwards. -/
def parentsTable : List (String × List String) := reversed c.childrenTable

end TraversalSdk.Catalogue
