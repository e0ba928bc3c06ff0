import TraversalSdk.NodeType.Catalogue

namespace TraversalSdk

inductive Direction
  | firstChild
  | nextSibling
  | previousSibling
  | parent
  deriving DecidableEq

namespace Direction

def all : List Direction := [firstChild, nextSibling, previousSibling, parent]

def word : Direction → String
  | firstChild => "first_child"
  | nextSibling => "next_sibling"
  | previousSibling => "previous_sibling"
  | parent => "parent"

def constant : Direction → String
  | firstChild => "FIRST_CHILD"
  | nextSibling => "NEXT_SIBLING"
  | previousSibling => "PREVIOUS_SIBLING"
  | parent => "PARENT"

def vocabulary : Vocabulary Direction := ⟨"Direction", all, constant, fun d => .text d.word⟩

/-- The cursor method that takes the step. -/
def method (d : Direction) : String := "goto_" ++ d.word

def isSibling (d : Direction) : Bool := d = nextSibling || d = previousSibling

end Direction

/-- Where one step can lead: node types in order, and possibly nowhere. -/
structure Landing where
  nodes : List NodeRef
  nowhere : Bool
  deriving DecidableEq

namespace Landing

def targets (l : Landing) : List (Option NodeRef) :=
  l.nodes.map some ++ if l.nowhere then [none] else []

/-- The names of the targets; a named node and a token of one text count once. -/
def names (l : Landing) : List (Option String) := distinct (l.targets.map (·.map NodeRef.type))

end Landing

/-- A place for children: the concrete types that it takes, and whether it takes several nodes. -/
structure Slot where
  multiple : Bool
  nodes : List NodeRef

structure Container where
  node : NodeRef
  slots : List Slot
  required : Bool

namespace Container

def nodes (k : Container) : List NodeRef := k.slots.flatMap Slot.nodes

def holds (k : Container) (r : NodeRef) : Bool := k.nodes.contains r

/-- Whether two nodes of this type fit in: one slot takes several, or several slots take one. -/
def repeats (k : Container) (r : NodeRef) : Bool :=
  let holding := k.slots.filter fun s => s.nodes.contains r
  holding.any Slot.multiple || decide (1 < holding.length)

def firstChild (k : Container) : Landing := ⟨NodeRef.set k.nodes, k.slots.isEmpty || !k.required⟩

/-- The types that can stand beside a node of type `r`. -/
def beside (k : Container) (r : NodeRef) : List NodeRef :=
  if k.repeats r then k.nodes else k.nodes.filter (· ≠ r)

end Container

namespace Catalogue

variable (c : Catalogue)

/-- Named nodes that can stand anywhere, comments for instance. -/
def namedExtras : List NodeRef := c.extras.filter fun r => r.named && !c.isSupertype r

/-- The slots of a node type: its entries, and one for extras if it has any entry. -/
def slots (d : Descriptor) : List Slot :=
  let own := d.entries.map fun e => Slot.mk e.spec.multiple (c.expandAll e.spec.types)
  if own.isEmpty || c.namedExtras.isEmpty then own else own ++ [⟨true, c.namedExtras⟩]

def containers : List Container :=
  c.concrete.map fun d => ⟨d.ref, c.slots d, d.entries.any (·.spec.required)⟩

end Catalogue

structure Row where
  node : NodeRef
  firstChild : Landing
  sibling : Landing
  parent : Landing

def Row.landing (row : Row) : Direction → Landing
  | .firstChild => row.firstChild
  | .nextSibling | .previousSibling => row.sibling
  | .parent => row.parent

/-- Where a step through a tree can lead. For every concrete node type and every direction the graph holds the
types of the nodes that the step can land on, and whether it can find no node at all. -/
structure Graph where
  rows : List Row

namespace Graph

/-- The row of a container. Roots have no parent, and neither has a type that nothing holds. -/
def rowOf (roots : List NodeRef) (ks : List Container) (k : Container) : Row :=
  let parents := ks.filter (·.holds k.node)
  { node := k.node
    firstChild := k.firstChild
    sibling := ⟨NodeRef.set (parents.flatMap (·.beside k.node)), true⟩
    parent := ⟨NodeRef.set (parents.map Container.node), roots.contains k.node || parents.isEmpty⟩ }

/-- The graph of a catalogue that is closed; the start type is a root besides those marked. -/
def build (c : Catalogue) (start : Option String) : Except Failure Graph := do
  c.check
  let roots := c.roots ++ start.toList.map fun s => ⟨s, true⟩
  let ks := c.containers
  return ⟨ks.map (rowOf roots ks)⟩

variable (g : Graph)

def nodes : List NodeRef := g.rows.map Row.node

def row? (r : NodeRef) : Option Row := g.rows.find? fun row => row.node = r

def contains (r : NodeRef) : Bool := (g.row? r).isSome

def landing? (r : NodeRef) (d : Direction) : Option Landing := (g.row? r).map (·.landing d)

def canNavigate (source : NodeRef) (target : Option NodeRef) (d : Direction) : Bool :=
  (g.landing? source d).any fun l => l.targets.contains target

/-- The graph as names, a table for each direction. -/
def table (d : Direction) : List (String × List (Option String)) :=
  g.rows.map fun row => (row.node.type, (row.landing d).names)

/-- What is said of a node type without a row. -/
def noRow (r : NodeRef) : String :=
  r.shown ++ " has no navigation row; only named, non-supertype node types do"

end Graph

end TraversalSdk
