import TraversalSdk.Naming.Identifier
import TraversalSdk.NodeType.Catalogue

namespace TraversalSdk

/-- What an accessor leads to. -/
inductive Access
  | field (name : String)
  | child (type : String)
  deriving DecidableEq

structure Accessor where
  stem : String
  access : Access
  multiple : Bool
  targets : List NodeRef
  deriving DecidableEq

namespace Accessor
open Naming

/-- The names of the base navigator. -/
def reserved : List String := [
  "_at", "_child_of_type", "_child_of_type_or_raise", "_children_of_type", "_field",
  "_field_or_raise", "_fields", "_fields_or_raise", "_step", "child", "child_of_type", "children",
  "children_of_type", "named_child", "node", "node_type", "path", "text", "type", "wrap"]

/-- The methods of an accessor differ by what stands behind the stem. -/
def suffixes : Access → Bool → List String
  | .child _, true => ["", "_or_raise", "_all"]
  | _, _ => ["", "_or_raise"]

def methods (a : Accessor) : List String := (suffixes a.access a.multiple).map (a.stem ++ ·)

/-- The name itself, the name with a tag, then the name with a tag and a number. -/
def candidate (base tag : String) : Nat → String
  | 0 => base
  | 1 => base ++ "_" ++ tag
  | n + 2 => base ++ "_" ++ tag ++ "_" ++ toString (n + 2)

def isFree (taken ends : List String) (stem : String) : Bool :=
  ends.all fun e => !taken.contains (stem ++ e)

def stemFrom (taken ends : List String) (base tag : String) (n : Nat) : Nat → String
  | 0 => candidate base tag n
  | tries + 1 =>
    let stem := candidate base tag n
    if isFree taken ends stem then stem else stemFrom taken ends base tag (n + 1) tries

/-- The first free stem. A name in use blocks one candidate for each suffix at most. -/
def freeStem (taken ends : List String) (base tag : String) : String :=
  stemFrom taken ends base tag 0 (ends.length * taken.length)

/-- An accessor whose name is not chosen yet. -/
structure Wanted where
  access : Access
  multiple : Bool
  targets : List NodeRef

def Wanted.base (w : Wanted) : String :=
  match w.access with
  | .field name | .child name => accessorName name

def Wanted.tag (w : Wanted) : String :=
  match w.access with
  | .field _ => "field"
  | .child _ => "child"

def name (taken : List String) : List Wanted → List Accessor
  | [] => []
  | w :: ws =>
    let a : Accessor :=
      ⟨freeStem taken (suffixes w.access w.multiple) w.base w.tag, w.access, w.multiple, w.targets⟩
    a :: name (a.methods ++ taken) ws

def wantedField (c : Catalogue) (f : String × ChildSpec) : Wanted :=
  ⟨.field f.1, f.2.multiple, c.expandAll f.2.types⟩

def wantedChildren (c : Catalogue) (spec : ChildSpec) : List Wanted :=
  ((c.expandAll spec.types).filter NodeRef.named).map fun r => ⟨.child r.type, spec.multiple, [r]⟩

/-- One accessor for every field, and one for every named type among the positional children. Within one
navigator no two methods share a name, and none hides a method of the base. -/
def plan (c : Catalogue) (d : Descriptor) : List Accessor :=
  name reserved ((sortOn Prod.fst d.fields).map (wantedField c)
    ++ d.children.toList.flatMap (wantedChildren c))

end Accessor

end TraversalSdk
