import TraversalSdk.Built
import TraversalSdk.Navigation
import TraversalSdk.Analysis.Shape
import TraversalSdk.Naming.Registry
import TraversalSdk.Naming.Anonymous
import TraversalSdk.Sdk.Accessor

namespace TraversalSdk

/-- A node type and its names. -/
structure Titled where
  ref : NodeRef
  names : NodeNames
  deriving DecidableEq

namespace Titled

/-- The module of a node type within the package of nodes. -/
def module (t : Titled) : String :=
  if t.ref.named then t.names.module else "anonymous." ++ t.names.module

/-- The cursor class for a node; all tokens share one. -/
def cursorClass (t : Titled) : String :=
  if t.ref.named then t.names.pascal ++ "Cursor" else "AnonymousCursor"

/-- The navigator class for a node; tokens get the base. -/
def navigatorClass (t : Titled) : String :=
  if t.ref.named then t.names.pascal ++ "Navigator" else "Navigator[Any]"

end Titled

structure TitledAccessor where
  accessor : Accessor
  targets : List Titled

/-- Where a cursor can go in one direction. -/
structure Move where
  direction : Direction
  targets : List Titled
  nowhere : Bool

structure ConcreteNode where
  title : Titled
  accessors : List TitledAccessor
  moves : List Move

structure Group where
  title : Titled
  members : List Titled

/-- All that the modules of an SDK are written from: node types with their names, their accessors, the members
of supertypes and the navigation graph. Every name is looked up here, once. -/
structure Blueprint where
  grammar : String
  spaceName : String
  root : Option Titled
  declared : List Titled
  concrete : List ConcreteNode
  groups : List Group
  tokens : List Titled
  graph : Graph
  sequences : List (String × List SequenceMember)

namespace Blueprint

/-- The names of a type, which is declared if the catalogue is closed. -/
def title (b : Built) (registry : Registry) (r : NodeRef) : Except Failure Titled :=
  match registry.get? r with
  | some names => .ok ⟨r, names⟩
  | none => .error (.unnamed r b.name)

def move (find : NodeRef → Except Failure Titled) (row : Row) (d : Direction) :
    Except Failure Move := do
  let landing := row.landing d
  return ⟨d, ← landing.nodes.mapM find, landing.nowhere⟩

def accessor (find : NodeRef → Except Failure Titled) (a : Accessor) :
    Except Failure TitledAccessor := do
  return ⟨a, ← a.targets.mapM find⟩

def concreteNode (c : Catalogue) (find : NodeRef → Except Failure Titled) (row : Row)
    (d : Descriptor) : Except Failure ConcreteNode := do
  return ⟨← find d.ref, ← (Accessor.plan c d).mapM (accessor find),
    ← Direction.all.mapM (move find row)⟩

def group (c : Catalogue) (find : NodeRef → Except Failure Titled) (d : Descriptor) :
    Except Failure Group := do
  return ⟨← find d.ref, ← (c.expand d.ref).mapM find⟩

/-- The type at the root of every tree: one that is marked as a root, else the start rule. -/
def rootType? (c : Catalogue) (start : String) : Option String :=
  let names := c.concrete.map (·.ref.type)
  match sortTexts ((c.roots.map NodeRef.type).filter names.contains) with
  | root :: _ => some root
  | [] => if names.contains start then some start else none

/-- The rows of the graph stand in the order of the concrete types. -/
def ofBuilt? (b : Built) (spaceName : String) : Except Failure Blueprint := do
  let c := b.catalogue
  let start ← b.grammar.startRule
  let graph ← Graph.build c (some start)
  let find := title b (Registry.ofCatalogue c)
  return {
    grammar := b.name
    spaceName := spaceName
    root := ← ((rootType? c start).mapM fun s => find ⟨s, true⟩)
    declared := ← c.refs.mapM find
    concrete := ← (graph.rows.zip c.concrete).mapM fun p => concreteNode c find p.1 p.2
    groups := ← c.supertypes.mapM (group c find)
    tokens := ← (c.anonymous.map Descriptor.ref).mapM find
    graph := graph
    sequences := sortOn Prod.fst (TraversalSdk.sequences b.grammar.rules) }

variable (b : Blueprint)

def tokensOf (k : TokenCategory) : List String := textsOf (b.tokens.map (·.ref.type)) k

end Blueprint

end TraversalSdk
