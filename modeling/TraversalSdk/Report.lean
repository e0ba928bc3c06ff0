import TraversalSdk.Json.Shown
import TraversalSdk.Order

namespace TraversalSdk

inductive Category
  | general
  | grammar
  | missingNodeType
  | unclassifiableRule
  | notOptional
  | namespaceConfig
  | load
  | generation
  | output
  | wrongKind
  | wrongValue
  | unwritableValue
  | system
  | absentFile
  | existingFile
  | notDirectory
  | directory
  deriving DecidableEq

/-- Whether the fault lies in the grammar or in its node types. -/
def Category.isGrammarFault : Category → Bool
  | .grammar | .missingNodeType | .unclassifiableRule | .notOptional => true
  | _ => false

/-- Whether the fault is one that this library expects of its inputs. -/
def Category.isExpected : Category → Bool
  | .wrongKind | .wrongValue | .unwritableValue | .system | .absentFile | .existingFile
  | .notDirectory | .directory => false
  | _ => true

/-- An error report: a message, details in order, and suggestions. -/
structure Report where
  category : Category
  message : String
  details : List (String × Json)
  suggestions : List String

namespace Report

/-- The details that are shown behind the message. -/
def placeKeys : List String := ["field", "rule_type", "location", "path"]

def spaced (key : String) : String :=
  String.ofList (key.toList.map fun c => if c == '_' then ' ' else c)

def place (details : List (String × Json)) : List String :=
  placeKeys.filterMap fun key => (lookup key details).map fun v => spaced key ++ ": " ++ v.plain

/-- The message and where it applies. -/
def headline (r : Report) : String :=
  match place r.details with
  | [] => r.message
  | parts => r.message ++ " (" ++ ", ".intercalate parts ++ ")"

def invitation : List String := [
  "If you think this is a bug in Treant rather than in your grammar, please open an issue",
  "and include the grammar.json and node-types.json that triggered it."]

def detailLine : List (String × Json) → String
  | [] => "- No additional details provided."
  | details => "- Details: " ++ ", ".intercalate (details.map fun d => d.1 ++ ": " ++ d.2.plain)

def suggestionLine : List String → String
  | [] => "- No suggestions provided."
  | suggestions => "- Suggestions: " ++ ", ".intercalate suggestions

/-- The report in full. -/
def full (r : Report) : String :=
  "\n".intercalate (invitation ++ ["", "- Error Message: " ++ r.message, detailLine r.details,
    suggestionLine r.suggestions])

/-- Undeclared node types, with the declarations that name each of them. -/
def missingNodeTypes (missing : List String) (users : List (String × Json)) : Report :=
  let names := textSet missing
  ⟨.missingNodeType,
    "Node type catalogue references undeclared node types: " ++ ", ".intercalate names,
    [("missing", Json.texts names), ("referenced_by", .obj users)],
    ["Regenerate node-types.json from the same grammar.json you are generating from.",
      "Check for hidden rules (leading underscore) that are referenced "
        ++ "but not declared as supertypes."]⟩

def unclassifiableRule (tag : Json) (location : String) : Report :=
  ⟨.unclassifiableRule, "Cannot classify grammar rule of type " ++ tag.shown,
    [("rule_type", tag), ("location", .str location)],
    ["Check that grammar.json was generated by a supported tree-sitter version."]⟩

/-- Without a reason the value is no identifier. -/
def invalidNamespace (field : String) (value : Json) (reason : Option String) : Report :=
  ⟨.namespaceConfig,
    "Invalid namespace " ++ field ++ " " ++ value.shown ++ ": "
      ++ reason.getD "must be a valid identifier",
    [("field", .str field), ("value", value)],
    ["Use a " ++ field ++ " that starts with a letter or underscore and contains only "
      ++ "letters, digits, and underscores."]⟩

end Report

end TraversalSdk
