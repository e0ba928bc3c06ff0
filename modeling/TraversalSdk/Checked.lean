import TraversalSdk.Json.Basic
import TraversalSdk.Number.WholeText
import TraversalSdk.Text.Letter

namespace TraversalSdk

/-- One step into a value: a member, an item, or the alternative under which a value was read. -/
inductive Place
  | key (name : String)
  | index (i : Nat)
  | branch (label : String)
  deriving DecidableEq

def Place.text : Place → String
  | .key name => name
  | .index i => toString i
  | .branch label => label

inductive Fault
  | missing
  | notText
  | notFlag
  | unreadableFlag
  | notWhole
  | unreadableWhole
  | oversizedWhole
  | fractional
  | notFinite
  | notTuple
  | notList
  | notMapping
  | notObject
  | notRule
  | tagAbsent
  | tagUnknown (tag : String)
  | unexpected
  | unknownWord
  | notChoice
  | unknownLiteral
  deriving DecidableEq

/-- The code under which reports list a fault. -/
def Fault.code : Fault → String
  | .missing => "missing"
  | .notText => "string_type"
  | .notFlag => "bool_type"
  | .unreadableFlag => "bool_parsing"
  | .notWhole => "int_type"
  | .unreadableWhole => "int_parsing"
  | .oversizedWhole => "int_parsing_size"
  | .fractional => "int_from_float"
  | .notFinite => "finite_number"
  | .notTuple => "tuple_type"
  | .notList => "list_type"
  | .notMapping => "dict_type"
  | .notObject => "model_type"
  | .notRule => "model_attributes_type"
  | .tagAbsent => "union_tag_not_found"
  | .tagUnknown _ => "union_tag_invalid"
  | .unexpected => "extra_forbidden"
  | .unknownWord => "value_error"
  | .notChoice => "enum"
  | .unknownLiteral => "literal_error"

structure Issue where
  path : List Place
  fault : Fault
  deriving DecidableEq

def Issue.location (i : Issue) : String := "/".intercalate (i.path.map Place.text)

def Issue.under (place : Place) (i : Issue) : Issue := { i with path := place :: i.path }

/-- A value of the expected shape, or every fault that was found, at least one. -/
inductive Checked (α : Type)
  | sound (value : α)
  | faulty (first : Issue) (others : List Issue)

namespace Checked

variable {α β : Type}

def issues : Checked α → List Issue
  | sound _ => []
  | faulty i is => i :: is

def fail (fault : Fault) : Checked α := faulty ⟨[], fault⟩ []

/-- Faults of a part are faults of the whole at that place. -/
def under (place : Place) : Checked α → Checked α
  | sound a => sound a
  | faulty i is => faulty (i.under place) (is.map (·.under place))

protected def map (f : α → β) : Checked α → Checked β
  | sound a => sound (f a)
  | faulty i is => faulty i is

/-- Both sides are looked at; their faults add up. -/
protected def seq (f : Checked (α → β)) (a : Unit → Checked α) : Checked β :=
  match f, a () with
  | sound f, sound a => sound (f a)
  | sound _, faulty i is => faulty i is
  | faulty i is, sound _ => faulty i is
  | faulty i is, faulty j js => faulty i (is ++ j :: js)

instance : Functor Checked where
  map := Checked.map

instance : Applicative Checked where
  pure := sound
  seq := Checked.seq

def toExcept : Checked α → Except (List Issue) α
  | sound a => .ok a
  | faulty i is => .error (i :: is)

def cons (a : Checked α) (l : Checked (List α)) : Checked (List α) := List.cons <$> a <*> l

/-- Checks the items of a list, each at its index. -/
def eachFrom (check : Json → Checked α) (i : Nat) : List Json → Checked (List α)
  | [] => sound []
  | v :: vs => cons (under (.index i) (check v)) (eachFrom check (i + 1) vs)

def each (check : Json → Checked α) (vs : List Json) : Checked (List α) := eachFrom check 0 vs

def eachMember (check : Json → Checked α) : List (String × Json) → Checked (List (String × α))
  | [] => sound []
  | (key, v) :: ms =>
    List.cons <$> (Prod.mk key <$> under (.key key) (check v)) <*> eachMember check ms

def text : Json → Checked String
  | .str s => sound s
  | _ => fail .notText

/-- The words that stand for truth values, in any ASCII case. -/
def flagWord? (s : String) : Option Bool :=
  let w := String.ofList (s.toList.map Text.asciiLower)
  if ["1", "on", "t", "true", "y", "yes"].contains w then some true
  else if ["0", "off", "f", "false", "n", "no"].contains w then some false
  else none

/-- Words of 64 bits hold the whole numbers from the negative of this up to it, itself left out. -/
def wordBound : Int := 9223372036854775808

/-- The whole number that a floating-point one is, strictly within the bounds of a word. -/
def wholeOfReal (x : Binary64) : Except Fault Int :=
  match x.toInt? with
  | some n => if -wordBound < n && n < wordBound then .ok n else .error .oversizedWhole
  | none => .error (if x.isFinite then .fractional else .notFinite)

def flagOfWhole (n : Int) : Checked Bool :=
  if n = 0 then sound false
  else if n = 1 then sound true
  else fail .unreadableFlag

def flag : Json → Checked Bool
  | .bool b => sound b
  | .int n => if -wordBound ≤ n && n < wordBound then flagOfWhole n else fail .notFlag
  | .real x => match wholeOfReal x with
    | .ok n => flagOfWhole n
    | .error _ => fail .notFlag
  | .str s => match flagWord? s with
    | some b => sound b
    | none => fail .unreadableFlag
  | _ => fail .notFlag

def wholeFault : WholeText.Refusal → Fault
  | .malformed => .unreadableWhole
  | .oversized => .oversizedWhole

def whole : Json → Checked Int
  | .int n => sound n
  | .bool b => sound (if b then 1 else 0)
  | .real x => match wholeOfReal x with
    | .ok n => sound n
    | .error fault => fail fault
  | .str s => match WholeText.free s with
    | .ok n => sound n
    | .error r => fail (wholeFault r)
  | _ => fail .notWhole

def tuple (check : Json → Checked α) : Json → Checked (List α)
  | .arr vs => each check vs
  | _ => fail .notTuple

def mapping (check : Json → Checked α) : Json → Checked (List (String × α))
  | .obj ms => eachMember check ms
  | _ => fail .notMapping

def nullable (check : Json → Checked α) : Json → Checked (Option α)
  | .null => sound none
  | v => some <$> check v

/-- A member that has to be there. -/
def required (key : String) (check : Json → Checked α) (ms : List (String × Json)) : Checked α :=
  match lookup key ms with
  | some v => under (.key key) (check v)
  | none => faulty ⟨[.key key], .missing⟩ []

/-- A member with a default. -/
def defaulted (key : String) (default : α) (check : Json → Checked α) (ms : List (String × Json)) :
    Checked α :=
  match lookup key ms with
  | some v => under (.key key) (check v)
  | none => sound default

def object (check : List (String × Json) → Checked α) : Json → Checked α
  | .obj ms => check ms
  | _ => fail .notObject

end Checked

end TraversalSdk
