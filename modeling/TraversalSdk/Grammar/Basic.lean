import TraversalSdk.Rule.Failure

namespace TraversalSdk

/-- A grammar document: its name, its rules in order, and what it says about them. Members that are not known
are kept with their values. -/
structure Grammar where
  name : String
  rules : List (String × Rule)
  extras : List Rule
  conflicts : List (List String)
  precedences : List (List Rule)
  externals : List Rule
  inlined : List String
  supertypes : List String
  word : Option String
  unknown : List (String × Json)

namespace Grammar

variable (g : Grammar)

def ruleNames : List String := g.rules.map (·.1)

/-- The first rule, from which every tree starts. -/
def startRule : Except Failure String :=
  match g.rules with
  | r :: _ => .ok r.1
  | [] => .error (.noRules g.name)

def rule (name : String) : Except Failure Rule :=
  match lookup name g.rules with
  | some r => .ok r
  | none => .error (.noSuchRule g.name name)

/-- Follows a reference by one step; any other rule stands for itself. -/
def resolve : Rule → Except Failure Rule
  | .symbol name => g.rule name
  | r => .ok r

/-- Hidden rules make no nodes, supertypes apart. -/
def isHidden (name : String) : Bool :=
  name.toList.head? == some '_' && !g.supertypes.contains name

/-- The rules that refer to a symbol. -/
def references (symbol : String) : List String :=
  (g.rules.filter fun r => r.2.symbols.contains symbol).map (·.1)

/-- The root rule: a conventional name, or else the start rule. -/
def rootRule : Except Failure String :=
  match ["source_file", "program"].find? g.ruleNames.contains with
  | some name => .ok name
  | none => g.startRule

end Grammar

/-- Every symbol within a rule, once, in the order of first occurrence. -/
def Rule.childTypes (r : Rule) : List String := distinct r.symbols

end TraversalSdk
