import TraversalSdk.Naming.Identifier
import TraversalSdk.NodeType.Catalogue

namespace TraversalSdk

structure NodeNames where
  module : String
  snake : String
  pascal : String
  className : String
  guard : String
  deriving DecidableEq

namespace Naming

/-- One spelling of a name in its three forms. -/
structure Stem where
  module : String
  snake : String
  pascal : String

def orText (fallback s : String) : String := if s.isEmpty then fallback else s

def Stem.of (s : String) : Stem :=
  ⟨s, orText "empty" (Casing.snake s), orText "Empty" (Casing.pascal s)⟩

/-- The first candidate is the name itself; the others carry a number from two on. -/
def candidate (base : String) : Nat → String
  | 0 => base
  | n + 1 => base ++ "_" ++ toString (n + 2)

/-- Names in use, form by form. -/
structure Taken where
  modules : List String
  snakes : List String
  pascals : List String

namespace Taken

def size (t : Taken) : Nat := t.modules.length + t.snakes.length + t.pascals.length

def isFree (t : Taken) (s : Stem) : Bool :=
  !t.modules.contains s.module && !t.snakes.contains s.snake && !t.pascals.contains s.pascal

def add (t : Taken) (s : Stem) : Taken :=
  ⟨s.module :: t.modules, s.snake :: t.snakes, s.pascal :: t.pascals⟩

def findFrom (t : Taken) (base : String) (n : Nat) : Nat → Stem
  | 0 => Stem.of (candidate base n)
  | tries + 1 =>
    let s := Stem.of (candidate base n)
    if t.isFree s then s else findFrom t base (n + 1) tries

/-- The first free candidate. A name in use blocks one candidate at most, so that a free one comes
within as many as there are names in use, and one more. -/
def find (t : Taken) (base : String) : Stem := t.findFrom base 0 t.size

end Taken

/-- A name space: the words in its class and guard names, and the names that it keeps free. -/
structure Space where
  word : String
  modules : List String
  pascals : List String

def namedSpace : Space :=
  ⟨"node", ["anonymous", "__init__", "__main__"], ["Anonymous", "RawTree", "Syntax", "Tree"]⟩

def anonymousSpace : Space := ⟨"token", ["__init__"], []⟩

namespace Space

def names (space : Space) (s : Stem) : NodeNames :=
  { module := s.module
    snake := s.snake
    pascal := s.pascal
    className := s.pascal ++ Casing.pascal space.word
    guard := safeIdentifier ("is_" ++ s.snake ++ "_" ++ space.word) }

def assignFrom (space : Space) (taken : Taken) : List NodeRef → List (NodeRef × NodeNames)
  | [] => []
  | r :: rs =>
    let s := taken.find (sanitize r.type)
    (r, space.names s) :: assignFrom space (taken.add s) rs

def assign (space : Space) (rs : List NodeRef) : List (NodeRef × NodeNames) :=
  space.assignFrom ⟨space.modules, [], space.pascals⟩ (NodeRef.sorted rs)

end Space

end Naming

/-- The names of every declared node type. -/
structure Registry where
  names : List (NodeRef × NodeNames)

namespace Registry

/-- Named types and anonymous tokens have a name space each; a name that is taken gets the first number that
makes it free, in the order of the node types. -/
def ofCatalogue (c : Catalogue) : Registry :=
  ⟨Naming.namedSpace.assign (c.refs.filter NodeRef.named)
    ++ Naming.anonymousSpace.assign (c.refs.filter fun r => !r.named)⟩

def get? (g : Registry) (r : NodeRef) : Option NodeNames := lookup r g.names

end Registry

end TraversalSdk
