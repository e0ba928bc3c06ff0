import TraversalSdk.Grammar.Basic

namespace TraversalSdk

/-- A symbol in a sequence, with the field that holds it. -/
structure SequenceMember where
  type : String
  optional : Bool
  field : Option String
  deriving DecidableEq

namespace Rule

/-- The symbols among the members of a choice. -/
def choiceSymbols : Rule → List String
  | choice ms => ms.filterMap symbolName?
  | _ => []

/-- The symbols of a choice between two or more symbols and nothing else. -/
def grouping? : Rule → Option (List String)
  | choice ms =>
    let names := ms.filterMap symbolName?
    if 1 < names.length && names.length == ms.length then some names else none
  | _ => none

def memberOf? (optional : Bool) : Rule → Option SequenceMember
  | symbol name => some ⟨name, optional, none⟩
  | field name (symbol s) => some ⟨s, optional, some name⟩
  | _ => none

/-- A member of a sequence, if it is a symbol or a field around one. Whether it is optional is seen
before precedences are looked through. -/
def sequenceMember? (r : Rule) : Option SequenceMember :=
  match r.optionalContent? with
  | some content => memberOf? true content.unwrapped
  | none => memberOf? false r.unwrapped

/-- The symbols that a sequence lists directly. -/
def sequenceMembers : Rule → List SequenceMember
  | seq ms => ms.filterMap sequenceMember?
  | _ => []

def isTerminal : Rule → Bool
  | literal _ | pattern _ _ => true
  | _ => false

end Rule

/-- Rules that group alternatives. -/
def groupings (rules : List (String × Rule)) : List (String × List String) :=
  rules.filterMap fun r => r.2.grouping?.map (Prod.mk r.1)

/-- The child sequences of the rules that are sequences within any precedences; rules whose sequence
lists no symbol are left out. -/
def sequences (rules : List (String × Rule)) : List (String × List SequenceMember) :=
  (rules.map fun r => (r.1, r.2.unwrapped.sequenceMembers)).filter fun s => !s.2.isEmpty

def terminals (rules : List (String × Rule)) : List (String × Rule) :=
  rules.filter fun r => r.2.isTerminal

end TraversalSdk
