import TraversalSdk.Order
import TraversalSdk.Number.Binary64

namespace TraversalSdk

/-- Whole numbers of any size are kept apart from double-precision ones, and the members of an object keep
their order. -/
inductive Json
  | null
  | bool (b : Bool)
  | int (n : Int)
  | real (x : Binary64)
  | str (s : String)
  | arr (items : List Json)
  | obj (members : List (String × Json))

namespace Json

def member? (key : String) : Json → Option Json
  | .obj members => lookup key members
  | _ => none

def isNull : Json → Bool
  | .null => true
  | _ => false

def ofOption {α : Type} (f : α → Json) : Option α → Json
  | some a => f a
  | none => .null

/-- An array of one thing each. -/
def list {α : Type} (f : α → Json) (l : List α) : Json := .arr (l.map f)

def texts (l : List String) : Json := list .str l

mutual

/-- How many values lie within one another, the innermost included. -/
def depth : Json → Nat
  | .arr vs => depthOfItems vs + 1
  | .obj ms => depthOfMembers ms + 1
  | _ => 1

def depthOfItems : List Json → Nat
  | [] => 0
  | v :: vs => max (depth v) (depthOfItems vs)

def depthOfMembers : List (String × Json) → Nat
  | [] => 0
  | (_, v) :: ms => max (depth v) (depthOfMembers ms)

end

mutual

/-- Puts nulls in place of infinities and of what is no number. -/
def finiteOnly : Json → Json
  | .real x => if x.isFinite then .real x else .null
  | .arr vs => .arr (finiteItems vs)
  | .obj ms => .obj (finiteMembers ms)
  | v => v

def finiteItems : List Json → List Json
  | [] => []
  | v :: vs => finiteOnly v :: finiteItems vs

def finiteMembers : List (String × Json) → List (String × Json)
  | [] => []
  | (key, v) :: ms => (key, finiteOnly v) :: finiteMembers ms

end

theorem sizeOf_lookup {key : String} {members : List (String × Json)} {value : Json}
    (h : lookup key members = some value) : sizeOf value < sizeOf (Json.obj members) := by
  have hp := List.sizeOf_lt_of_mem (mem_of_lookup h)
  simp only [Prod.mk.sizeOf_spec, obj.sizeOf_spec] at *
  omega

end Json

end TraversalSdk
