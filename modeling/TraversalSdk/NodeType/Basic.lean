import TraversalSdk.NodeType.Ref
import TraversalSdk.Vocabulary

namespace TraversalSdk

/-- What one field, or the positional children of a node, may hold. -/
structure ChildSpec where
  multiple : Bool
  required : Bool
  types : List NodeRef
  deriving DecidableEq

/-- A declared node type: which fields and children a node has, and which members a supertype groups. -/
structure Descriptor where
  ref : NodeRef
  root : Bool
  extra : Bool
  fields : List (String × ChildSpec)
  children : Option ChildSpec
  subtypes : Option (List NodeRef)
  deriving DecidableEq

inductive EntryKind
  | field
  | children
  deriving DecidableEq

namespace EntryKind

def word : EntryKind → String
  | .field => "field"
  | .children => "children"

def vocabulary : Vocabulary EntryKind :=
  ⟨"EntryKind", [.field, .children], fun k => if k = .field then "FIELD" else "CHILDREN",
    fun k => .text k.word⟩

end EntryKind

/-- A field, with its name, or the positional children. -/
structure Entry where
  name : Option String
  spec : ChildSpec
  deriving DecidableEq

def Entry.kind (e : Entry) : EntryKind := if e.name.isSome then .field else .children

namespace Descriptor

/-- A supertype groups other types and never stands in a tree. -/
def isSupertype (d : Descriptor) : Bool := d.subtypes.isSome

def isConcrete (d : Descriptor) : Bool := d.ref.named && !d.isSupertype

def hasEntries (d : Descriptor) : Bool := !d.fields.isEmpty || d.children.isSome

/-- Fields by name, then the positional children. -/
def entries (d : Descriptor) : List Entry :=
  (sortOn Prod.fst d.fields).map (fun f => ⟨some f.1, f.2⟩)
    ++ d.children.toList.map (fun spec => ⟨none, spec⟩)

def members (d : Descriptor) : List NodeRef := d.subtypes.getD []

/-- Every type that the entries and the subtypes name. -/
def references (d : Descriptor) : List NodeRef :=
  d.entries.flatMap (·.spec.types) ++ d.members

theorem entries_eq_nil_iff {d : Descriptor} : d.entries = [] ↔ d.hasEntries = false := by
  have h : sortOn Prod.fst d.fields = [] ↔ d.fields = [] := by
    rw [← List.length_eq_zero_iff, (sortOn_perm _ _).length_eq, List.length_eq_zero_iff]
  cases hc : d.children <;> simp [entries, hasEntries, h, hc]

end Descriptor

end TraversalSdk
