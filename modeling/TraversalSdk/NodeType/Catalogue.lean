import TraversalSdk.NodeType.Decode
import TraversalSdk.NodeType.Encode
import TraversalSdk.Failure

namespace TraversalSdk

/-- All node types of a grammar, none of them declared twice. A closed catalogue also declares every node type
that it names. -/
structure Catalogue where
  descriptors : List Descriptor
  nodup : (descriptors.map Descriptor.ref).Nodup

namespace Catalogue

def ofDescriptors? (ds : List Descriptor) : Except Failure Catalogue :=
  match h : firstRepeated? (ds.map Descriptor.ref) with
  | some r => .error (.duplicateNodeType r)
  | none => .ok ⟨ds, nodup_of_firstRepeated? h⟩

variable (c : Catalogue)

def size : Nat := c.descriptors.length

def refs : List NodeRef := c.descriptors.map Descriptor.ref

def get? (r : NodeRef) : Option Descriptor := c.descriptors.find? fun d => d.ref = r

def contains (r : NodeRef) : Bool := c.refs.contains r

def isSupertype (r : NodeRef) : Bool := (c.get? r).any Descriptor.isSupertype

/-- Undeclared references: the missing type and the type that names it, in order. -/
def dangling : List (String × String) :=
  c.descriptors.flatMap fun d =>
    (d.references.filter fun r => !c.contains r).map fun r => (r.type, d.ref.type)

/-- Whether everything that is named is declared; if not, all missing types are reported at once. -/
def check : Except Failure Unit :=
  if c.dangling.isEmpty then .ok () else .error (.missingNodeTypes (grouped c.dangling))

def ofClosed? (ds : List Descriptor) : Except Failure Catalogue := do
  let c ← ofDescriptors? ds
  c.check
  return c

/-- Named node types that stand in trees, by name. -/
def concrete : List Descriptor :=
  sortOn (·.ref.type) (c.descriptors.filter Descriptor.isConcrete)

def anonymous : List Descriptor :=
  sortOn (·.ref.type) (c.descriptors.filter fun d => !d.ref.named)

def supertypes : List Descriptor :=
  sortOn (·.ref.type) (c.descriptors.filter Descriptor.isSupertype)

def roots : List NodeRef := (c.descriptors.filter Descriptor.root).map Descriptor.ref

def extras : List NodeRef := (c.descriptors.filter Descriptor.extra).map Descriptor.ref

/-- The subtypes of a declared supertype; other types have none. -/
def subtypes? (r : NodeRef) : Option (List NodeRef) := (c.get? r).bind Descriptor.subtypes

theorem mem_refs_of_subtypes? {r : NodeRef} {subtypes : List NodeRef} (h : c.subtypes? r = some subtypes) :
    r ∈ c.refs := by
  obtain ⟨d, hd, _⟩ := Option.bind_eq_some_iff.mp h
  have href : d.ref = r := by simpa using List.find?_some hd
  exact List.mem_map.mpr ⟨d, List.mem_of_find?_eq_some hd, href⟩

/-- Takes the pending types apart, the last subtype of a supertype first. A type that has been looked at
contributes nothing more; those that stand for themselves are found. -/
def expandFrom (seen found : List NodeRef) : List NodeRef → List NodeRef
  | [] => found
  | r :: pending =>
    if r ∈ seen then expandFrom seen found pending
    else
      match _subtypes : c.subtypes? r with
      | none => expandFrom (r :: seen) (r :: found) pending
      | some subtypes => expandFrom (r :: seen) found (subtypes.reverse ++ pending)
termination_by pending => ((unseen id c.refs seen).length, pending.length)
decreasing_by
  · exact Prod.Lex.right _ (by simp)
  · exact lex_unseen_cons ‹r ∉ seen› fun _ => by simp
  · exact lex_unseen_cons ‹r ∉ seen› fun h => absurd rfl (h r (c.mem_refs_of_subtypes? _subtypes))

/-- The types that can stand in a tree where `r` is named: `r` itself or the members of its groups. -/
def expand (r : NodeRef) : List NodeRef := NodeRef.set (c.expandFrom [] [] [r])

def expandAll (rs : List NodeRef) : List NodeRef := NodeRef.set (rs.flatMap c.expand)

/-- The names of the supertypes that a type belongs to. -/
def supertypesOf (r : NodeRef) : List String :=
  (c.supertypes.filter fun d => (c.expand d.ref).contains r).map (·.ref.type)

def toJson (nulls : Bool) : Json := Json.list (Descriptor.toJson nulls) c.descriptors

end Catalogue

end TraversalSdk
