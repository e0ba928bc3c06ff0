import TraversalSdk.Naming.Identifier
import TraversalSdk.Vocabulary
import TraversalSdk.Failure

namespace TraversalSdk

inductive ConcatMode
  | pascal
  | kebab
  | snake
  deriving DecidableEq

namespace ConcatMode

def all : List ConcatMode := [pascal, kebab, snake]

def word : ConcatMode → String
  | pascal => "pascal"
  | kebab => "kebab"
  | snake => "snake"

def name : ConcatMode → String
  | pascal => "PASCAL"
  | kebab => "KEBAB"
  | snake => "SNAKE"

def vocabulary : Vocabulary ConcatMode := ⟨"ConcatMode", all, name, fun m => .text m.word⟩

/-- By value, as `camel`, or by a loose spelling. -/
def ofText? (s : String) : Option ConcatMode :=
  (vocabulary.ofLabel? (.text s)).or
    (if Vocabulary.lowered s = "camel" then some pascal else vocabulary.ofLoose? s)

def ofValue? : Json → Except Vocabulary.Failure ConcatMode
  | .str s => match ofText? s with
    | some m => .ok m
    | none => .error (.noLabel (.str s) "ConcatMode")
  | v => .error (.noLabel v "ConcatMode")

end ConcatMode

/-- The namespace of an SDK: a leading part and a name, joined in one of three ways. -/
structure NamespaceConfig where
  lead : Option String
  name : Option String
  mode : ConcatMode
  deriving DecidableEq

namespace NamespaceConfig
open Checked Naming

def standard : NamespaceConfig := ⟨some "Treant", none, .pascal⟩

def decodeMode : Json → Checked ConcatMode
  | .str s => match ConcatMode.ofText? s with
    | some m => .sound m
    | none => fail .unknownWord
  | _ => fail .notChoice

def trimmedText (v : Json) : Checked (Option String) :=
  Option.map Text.trimString <$> nullable text v

/-- The mode under either of its two names; the first counts if both are there. -/
def modeValue? (ms : List (String × Json)) : Option Json :=
  (lookup "concatMode" ms).or (lookup "concat_mode" ms)

def modeMember (ms : List (String × Json)) : Checked ConcatMode :=
  match modeValue? ms with
  | some v => under (.key "concatMode") (decodeMode v)
  | none => .sound .pascal

def isKnown (ms : List (String × Json)) (key : String) : Bool :=
  ["prefix", "name", "concatMode"].contains key
    || (key == "concat_mode" && (lookup "concatMode" ms).isNone)

/-- Every member that has no meaning is a fault. -/
def onlyKnown (ms : List (String × Json)) : Checked Unit :=
  match ms.filter fun m => !isKnown ms m.1 with
  | [] => .sound ()
  | m :: rest => .faulty ⟨[.key m.1], .unexpected⟩ (rest.map fun m => ⟨[.key m.1], .unexpected⟩)

def decode : Json → Checked NamespaceConfig :=
  object fun ms =>
    (fun lead name mode _ => NamespaceConfig.mk lead name mode)
      <$> defaulted "prefix" standard.lead trimmedText ms
      <*> defaulted "name" none trimmedText ms
      <*> modeMember ms
      <*> onlyKnown ms

def reason (value : Json) : Fault → String
  | .notText => "Input should be a valid string"
  | .unexpected => "Extra inputs are not permitted"
  | .unknownWord => "Value error, " ++ value.shown ++ " is not a valid ConcatMode"
  | .notChoice => "Input should be 'pascal', 'kebab' or 'snake'"
  | _ => "Input should be a valid dictionary or instance of NamespaceConfig"

/-- The member that a fault is about, under the name that messages use, and its value. -/
def culprit (v : Json) (i : Issue) : String × Json :=
  match i.path, v with
  | .key "concatMode" :: _, .obj ms => ("concat_mode", (modeValue? ms).getD .null)
  | p :: _, .obj ms => (p.text, (lookup p.text ms).getD .null)
  | _, _ => ("namespace", v)

def failure (v : Json) (i : Issue) : Failure :=
  let c := culprit v i
  .invalidNamespace c.1 c.2 (some (reason c.2 i.fault))

/-- Only the first fault is reported. -/
def ofJson? (v : Json) : Except Failure NamespaceConfig :=
  match decode v with
  | .sound config => .ok config
  | .faulty i _ => .error (failure v i)

def checkIdentifier (field value : String) : Except Failure String :=
  if isIdentifier value then .ok value else .error (.invalidNamespace field (.str value) none)

/-- The leading part is checked before the name. -/
def checkParts (config : NamespaceConfig) (grammar : String) :
    Except Failure (Option String × String) := do
  let lead ← config.lead.mapM (checkIdentifier "prefix")
  let name ← match config.name with
    | some s => checkIdentifier "name" s
    | none => .ok (Casing.pascal grammar)
  return (lead, name)

def join : ConcatMode → String → String → String
  | .kebab, lead, name => Casing.kebab lead ++ "-" ++ Casing.kebab name
  | .snake, lead, name => Casing.snake lead ++ "_" ++ Casing.snake name
  | .pascal, lead, name => lead ++ name

/-- The namespace of a grammar. -/
def resolve (config : NamespaceConfig) (grammar : String) : Except Failure String := do
  let (lead, name) ← config.checkParts grammar
  return match lead with
    | some lead => join config.mode lead name
    | none => name

theorem resolve_standard (grammar : String) :
    standard.resolve grammar = .ok ("Treant" ++ Casing.pascal grammar) := rfl

def toJson (config : NamespaceConfig) : Json :=
  .obj [("prefix", Json.ofOption .str config.lead), ("name", Json.ofOption .str config.name),
    ("concatMode", .str config.mode.word)]

/-- A configuration as command line options give it; what is not set keeps its default. -/
def options (lead : Option String) (noLead : Bool) (name : Option String) (mode : String) : Json :=
  .obj ([("concatMode", .str mode)]
    ++ (if noLead then [("prefix", .null)] else lead.toList.map fun s => ("prefix", .str s))
    ++ name.toList.map fun s => ("name", .str s))

/-- No configuration is the standard one. -/
def ofOptional? : Option Json → Except Failure NamespaceConfig
  | none => .ok standard
  | some v => ofJson? v

end NamespaceConfig

end TraversalSdk
