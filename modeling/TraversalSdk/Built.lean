import TraversalSdk.Grammar.Decode
import TraversalSdk.Grammar.Encode
import TraversalSdk.NodeType.Catalogue
import TraversalSdk.Json.Reader
import TraversalSdk.Json.Writer

namespace TraversalSdk

/-- Deeper values are not written. -/
def Json.writableDepth : Nat := 255

def Json.documentText? (v : Json) : Except Failure String :=
  if v.depth ≤ Json.writableDepth then .ok v.document else .error .tooDeepToWrite

/-- A document as a text, as JSON, or read already. -/
inductive Input (α : Type)
  | text (s : String)
  | value (v : Json)
  | parsed (a : α)

namespace Grammar

def ofText? (s : String) : Except Failure Grammar :=
  match Json.ofText? s with
  | none => .error (.notJson .grammar)
  | some (.obj ms) => ofJson? (.obj ms)
  | some _ => .error (.wrongContainer .grammar)

/-- The text of a grammar that came without one. Its unknown members are looked at first. -/
def text? (g : Grammar) : Except Failure String :=
  if g.unknown.all fun m => m.2.depth ≤ Json.writableDepth then (g.toJson false).documentText?
  else .error .tooDeep

/-- The grammar of an input and its text. -/
def ofInput? : Input Grammar → Except Failure (Grammar × String)
  | .text s => do return (← ofText? s, s)
  | .value v => do return (← ofJson? v, ← v.documentText?)
  | .parsed g => do return (g, ← g.text?)

end Grammar

namespace Catalogue

/-- The declarations of a document, checked one by one but not against each other. -/
def descriptorsOf? (v : Json) : Except Failure (List Descriptor) :=
  (Descriptor.decodeAll v).toExcept.mapError .malformedNodeTypes

def ofJson? (v : Json) : Except Failure Catalogue := do ofClosed? (← descriptorsOf? v)

def ofText? (s : String) : Except Failure Catalogue :=
  match Json.ofText? s with
  | none => .error (.notJson .nodeTypes)
  | some (.arr vs) => ofJson? (.arr vs)
  | some _ => .error (.wrongContainer .nodeTypes)

def withText (c : Catalogue) : Catalogue × String := (c, (c.toJson false).document)

/-- The catalogue of an input and its text. An empty object counts as an empty array. -/
def ofInput? : Input Catalogue → Except Failure (Catalogue × String)
  | .text s => do return (← ofText? s, s)
  | .parsed c => .ok c.withText
  | .value (.arr []) | .value (.obj []) => do return (← ofJson? (.arr [])).withText
  | .value (.arr vs) => do return (← ofJson? (.arr vs), ← (Json.arr vs).documentText?)
  | .value (.obj ms) => do return (← ofJson? (.obj ms)).withText
  | .value v => .error (.notIterable v)

end Catalogue

/-- A grammar with both of its documents read, their texts, and a compiled parser. Texts are kept as they are;
what comes without a text is written as one. -/
structure Built where
  grammar : Grammar
  catalogue : Catalogue
  grammarSource : String
  nodeTypesSource : String
  parser : Option ByteArray

namespace Built

def name (b : Built) : String := b.grammar.name

/-- The grammar is read before the node types. -/
def ofInputs? (grammar : Input Grammar) (nodeTypes : Input Catalogue) (parser : Option ByteArray) :
    Except Failure Built := do
  let (g, grammarSource) ← Grammar.ofInput? grammar
  let (c, nodeTypesSource) ← Catalogue.ofInput? nodeTypes
  return ⟨g, c, grammarSource, nodeTypesSource, parser⟩

end Built

end TraversalSdk
