import TraversalSdk.Rule.Kind

namespace TraversalSdk

/-- A precedence, as a number or as a name that the grammar ranks. -/
inductive Level
  | number (n : Int)
  | name (s : String)
  deriving DecidableEq

inductive Side
  | plain
  | left
  | right
  deriving DecidableEq

/-- A grammar rule: a tree whose leaves are literals, patterns, blanks and references by name. -/
inductive Rule
  | symbol (name : String)
  | literal (text : String)
  | pattern (source : String) (flags : Option String)
  | blank
  | seq (members : List Rule)
  | choice (members : List Rule)
  | star (content : Rule)
  | plus (content : Rule)
  | field (name : String) (content : Rule)
  | aliased (content : Rule) (named : Bool) (value : String)
  | token (content : Rule)
  | immediateToken (content : Rule)
  | prec (side : Side) (level : Level) (content : Rule)
  | precDynamic (level : Int) (content : Rule)

def Side.kind : Side → RuleKind
  | .plain => .prec
  | .left => .precLeft
  | .right => .precRight

namespace Rule

def kind : Rule → RuleKind
  | symbol _ => .symbol
  | literal _ => .literal
  | pattern _ _ => .pattern
  | blank => .blank
  | seq _ => .seq
  | choice _ => .choice
  | star _ => .star
  | plus _ => .plus
  | field _ _ => .field
  | aliased _ _ _ => .aliased
  | token _ => .token
  | immediateToken _ => .immediateToken
  | prec side _ _ => side.kind
  | precDynamic _ _ => .precDynamic

/-- The rules that a rule owns directly, in order. -/
def children : Rule → List Rule
  | seq ms | choice ms => ms
  | star c | plus c | field _ c | aliased c _ _ | token c | immediateToken c | prec _ _ c
  | precDynamic _ c => [c]
  | _ => []

def isBlank : Rule → Bool
  | blank => true
  | _ => false

/-- The other member of a choice between one rule and the blank. -/
def optionalContent? : Rule → Option Rule
  | choice [a, b] =>
    if a.isBlank && !b.isBlank then some b else if !a.isBlank && b.isBlank then some a else none
  | _ => none

def isOptional (r : Rule) : Bool := r.optionalContent?.isSome

/-- The rule inside all precedence annotations around it. -/
def unwrapped : Rule → Rule
  | prec _ _ c | precDynamic _ c => unwrapped c
  | r => r

mutual

/-- How many rules a tree holds. -/
def size : Rule → Nat
  | seq ms | choice ms => sizes ms + 1
  | star c | plus c | field _ c | aliased c _ _ | token c | immediateToken c | prec _ _ c
  | precDynamic _ c => size c + 1
  | _ => 1

def sizes : List Rule → Nat
  | [] => 0
  | r :: rs => size r + sizes rs

end

theorem sizes_append (rs ss : List Rule) : sizes (rs ++ ss) = sizes rs + sizes ss := by
  induction rs with
  | nil => simp [sizes]
  | cons r rs ih => simp [sizes, ih, Nat.add_assoc]

theorem size_eq (r : Rule) : r.size = sizes r.children + 1 := by
  cases r <;> simp [size, children, sizes]

/-- Walks the trees on a stack: the top rule comes next and its children take its place. -/
def walkFrom : List Rule → List Rule
  | [] => []
  | r :: stack => r :: walkFrom (r.children ++ stack)
termination_by stack => sizes stack
decreasing_by
  rw [sizes_append, sizes, size_eq]
  omega

/-- Every rule of a tree, each before the rules that it owns. -/
def walk (r : Rule) : List Rule := walkFrom [r]

def symbolName? : Rule → Option String
  | symbol name => some name
  | _ => none

/-- The names that a tree refers to, in order, with repetitions. -/
def symbols (r : Rule) : List String := r.walk.filterMap symbolName?

end Rule

end TraversalSdk
