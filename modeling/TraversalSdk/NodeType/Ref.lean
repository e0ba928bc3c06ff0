import TraversalSdk.Order
import TraversalSdk.Text.Quoted
import TraversalSdk.Checked

namespace TraversalSdk

/-- The identity of a node type. One text can name both a named node and an anonymous token. -/
structure NodeRef where
  type : String
  named : Bool
  deriving DecidableEq

namespace NodeRef

/-- Tokens are shown in quotes. -/
def shown (r : NodeRef) : String := if r.named then r.type else Text.quoted r.type

/-- By type, the named node before the token of the same text. -/
def precedes (a b : NodeRef) : Bool :=
  decide (a.type < b.type) || (a.type == b.type && (a.named || !b.named))

def sorted (l : List NodeRef) : List NodeRef := l.mergeSort precedes

/-- Distinct members in order. -/
def set (l : List NodeRef) : List NodeRef := sorted (distinct l)

@[simp]
theorem mem_sorted {r : NodeRef} {l : List NodeRef} : r ∈ sorted l ↔ r ∈ l := List.mem_mergeSort

@[simp]
theorem mem_set {r : NodeRef} {l : List NodeRef} : r ∈ set l ↔ r ∈ l := by simp [set]

theorem nodup_set (l : List NodeRef) : (set l).Nodup :=
  (List.mergeSort_perm _ _).nodup_iff.mpr (nodup_distinct l)

def decode : Json → Checked NodeRef :=
  Checked.object fun ms =>
    NodeRef.mk <$> Checked.required "type" Checked.text ms <*> Checked.required "named" Checked.flag ms

def members (r : NodeRef) : List (String × Json) :=
  [("type", .str r.type), ("named", .bool r.named)]

def toJson (r : NodeRef) : Json := .obj r.members

end NodeRef

end TraversalSdk
