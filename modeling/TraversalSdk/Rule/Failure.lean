import TraversalSdk.Failure
import TraversalSdk.Rule.Decode

namespace TraversalSdk

def isRuleTag (s : String) : Bool := (RuleKind.ofTag? s).isSome

/-- A place below `base`, without the steps that spell like a tag. -/
def locate (base : String) (path : List Place) : String :=
  "/".intercalate (base :: (path.map Place.text).filter fun s => !isRuleTag s)

/-- The tag of a rule whose kind is not known; the inner option is none where a tag is absent. -/
def Fault.strangeTag? : Fault → Option (Option String)
  | .tagAbsent => some none
  | .tagUnknown tag => some (some tag)
  | _ => none

def Issue.unclassifiable? (base : String) (i : Issue) : Option Failure :=
  i.fault.strangeTag?.map fun tag => .unclassifiableRule tag (locate base i.path)

/-- The first rule of an unknown kind, or else all faults together. -/
def Failure.ofIssues (base : String) (malformed : List Issue → Failure) (issues : List Issue) :
    Failure :=
  (issues.findSome? (Issue.unclassifiable? base)).getD (malformed issues)

def Rule.ofJson? (location : String) (v : Json) : Except Failure Rule :=
  (Rule.decode v).toExcept.mapError (Failure.ofIssues location (.malformedRule location))

/-- The content of an optional rule. -/
def Rule.optionalContent (r : Rule) : Except Failure Rule :=
  match r.optionalContent? with
  | some content => .ok content
  | none => .error (.notOptional r.kind)

end TraversalSdk
