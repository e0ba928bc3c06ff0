import TraversalSdk.Text.Pieces

namespace TraversalSdk

/-- A path as the steps that it takes. Empty steps and steps in place are dropped; a step up is kept, because
whether it can be taken depends on what is stored. -/
structure Path where
  steps : List String
  deriving DecidableEq

namespace Path

def relativeSteps (s : String) : List String :=
  ((Text.pieces '/' s.toList).map String.ofList).filter fun p => p != "" && p != "."

/-- The first step of a path from the top: one slash, or two if there are exactly two. -/
def anchor (s : String) : List String :=
  match (s.toList.takeWhile (· == '/')).length with
  | 0 => []
  | 2 => ["//"]
  | _ => ["/"]

def ofText (s : String) : Path := ⟨anchor s ++ relativeSteps s⟩

def text (p : Path) : String :=
  match p.steps with
  | [] => "."
  | s :: rest => if s.toList.head? == some '/' then s ++ "/".intercalate rest
    else "/".intercalate (s :: rest)

/-- The path without its last step. -/
def parent (p : Path) : Path := ⟨p.steps.dropLast⟩

/-- The path below this one that a relative path leads to. -/
def below (p : Path) (relative : String) : Path := ⟨p.steps ++ relativeSteps relative⟩

end Path

end TraversalSdk
