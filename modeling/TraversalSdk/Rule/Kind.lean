import TraversalSdk.Vocabulary

namespace TraversalSdk

inductive RuleKind
  | symbol
  | literal
  | pattern
  | blank
  | seq
  | choice
  | star
  | plus
  | field
  | aliased
  | token
  | immediateToken
  | prec
  | precLeft
  | precRight
  | precDynamic
  deriving DecidableEq

namespace RuleKind

/-- The tag under which a rule of this kind is written. -/
def tag : RuleKind → String
  | .symbol => "SYMBOL"
  | .literal => "STRING"
  | .pattern => "PATTERN"
  | .blank => "BLANK"
  | .seq => "SEQ"
  | .choice => "CHOICE"
  | .star => "REPEAT"
  | .plus => "REPEAT1"
  | .field => "FIELD"
  | .aliased => "ALIAS"
  | .token => "TOKEN"
  | .immediateToken => "IMMEDIATE_TOKEN"
  | .prec => "PREC"
  | .precLeft => "PREC_LEFT"
  | .precRight => "PREC_RIGHT"
  | .precDynamic => "PREC_DYNAMIC"

def all : List RuleKind := [
  .symbol, .literal, .pattern, .blank, .seq, .choice, .star, .plus, .field, .aliased, .token,
  .immediateToken, .prec, .precLeft, .precRight, .precDynamic]

theorem mem_all (k : RuleKind) : k ∈ all := by cases k <;> simp [all]

def ofTag? (s : String) : Option RuleKind := all.find? fun k => k.tag == s

/-- The grouping that tells how a rule holds its parts. -/
inductive Shape
  | leaf
  | content
  | members
  deriving DecidableEq

def shape : RuleKind → Shape
  | .symbol | .literal | .pattern | .blank => .leaf
  | .seq | .choice => .members
  | _ => .content

def hasContent (k : RuleKind) : Bool := k.shape = .content

def hasMembers (k : RuleKind) : Bool := k.shape = .members

def isLeaf (k : RuleKind) : Bool := k.shape = .leaf

def isPrecedence : RuleKind → Bool
  | .prec | .precLeft | .precRight | .precDynamic => true
  | _ => false

def vocabulary : Vocabulary RuleKind := ⟨"RuleKind", all, tag, fun k => .text k.tag⟩

end RuleKind

end TraversalSdk
