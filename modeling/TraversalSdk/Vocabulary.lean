import TraversalSdk.Casing
import TraversalSdk.Order
import TraversalSdk.Text.Blank
import TraversalSdk.Json.Shown
import TraversalSdk.Number.WholeText

namespace TraversalSdk

/-- The value that a member stands for. -/
inductive Label
  | int (n : Int)
  | text (s : String)
  deriving DecidableEq

def Label.spelling : Label → String
  | .int n => toString n
  | .text s => s

def Label.isText : Label → Bool
  | .text _ => true
  | .int _ => false

/-- A closed set of named values. A member is found by a loose spelling: in any case, with dashes or
underscores, by name or by value. -/
structure Vocabulary (α : Type) where
  title : String
  members : List α
  name : α → String
  label : α → Label

namespace Vocabulary
open Text

/-- Why no member was found. -/
inductive Failure
  | mixedLabels (title : String)
  | noNumber (spelling : String)
  | oversized (digits : Nat)
  | noLabel (value : Json) (title : String)
  | noMember (spelling title : String)

def Failure.message : Failure → String
  | .mixedLabels title => "All members of " ++ title ++ " must share one value type, either str or int."
  | .noNumber spelling =>
    "invalid literal for int() with base 10: " ++ String.ofList ((quoted spelling).toList.take 200)
  | .oversized digits => "Exceeds the limit (4300 digits) for integer string conversion: value has "
      ++ toString digits ++ " digits; use sys.set_int_max_str_digits() to increase the limit"
  | .noLabel value title => value.shown ++ " is not a valid " ++ title
  | .noMember spelling title => spelling ++ " is not a valid " ++ title ++ " member"

/-- The parts of a spelling between dashes and underscores, in lower case. -/
def partsFrom (part : List Char) : List Char → List (List Char)
  | [] => Casing.closeWord part []
  | c :: rest =>
    if c == '_' || c == '-' then Casing.closeWord part (partsFrom [] rest)
    else partsFrom (c :: part) rest

def parts (spelling : String) : List String :=
  (partsFrom [] (lower (strip spelling.toList))).map String.ofList

def lowered (spelling : String) : String := String.ofList (lower (strip spelling.toList))

variable {α : Type} (v : Vocabulary α)

/-- The name in words. -/
def shownName (a : α) : String :=
  lowerString (String.ofList ((v.name a).toList.map fun c => if c == '_' then ' ' else c))

/-- Every spelling that casing makes of the name and the value of a member. -/
def spellings (a : α) : List String :=
  match v.label a with
  | .int n => [toString n]
  | .text s =>
    let sources := [v.name a, s].flatMap fun t => [t, Casing.snake t, Casing.kebab t]
    textSet ((sources.filter (!·.isEmpty)).map lowerString)

/-- Spellings and members; of two members with one spelling the first has it. -/
def aliases : List (String × α) :=
  (v.members.flatMap fun a => (v.spellings a).map fun s => (lowerString s, a)).foldl
    (fun found p => if found.any (·.1 == p.1) then found else found ++ [p]) []

def isNumeric : Bool := v.members.all fun a => !(v.label a).isText

def isTextual : Bool := v.members.all fun a => (v.label a).isText

def ofLabel? (l : Label) : Option α := v.members.find? fun a => v.label a = l

/-- By the number that the digits spell. A row of decimals that is too long is told first. -/
def ofDigits? (spelling : String) : Except Failure α :=
  let decimals := spelling.toList.takeWhile fun c => (decimalValue? c).isSome
  if WholeText.digitLimit < decimals.length then .error (.oversized decimals.length)
  else match naturalOf? spelling.toList with
    | none => .error (.noNumber spelling)
    | some n => match v.ofLabel? (.int n) with
      | some a => .ok a
      | none => .error (.noLabel (.int n) v.title)

/-- By name or value in any case, then by alias, then by the parts of the name. -/
def ofLoose? (spelling : String) : Option α :=
  let low := lowered spelling
  let byName := v.members.find? fun a =>
    lowerString (v.label a).spelling == low || lowerString (v.name a) == low
  (byName.or (lookup low v.aliases)).or (v.members.find? fun a => parts (v.name a) == parts low)

def ofString? (spelling : String) : Except Failure α :=
  if !v.isTextual && !v.isNumeric then .error (.mixedLabels v.title)
  else if !v.isTextual && !spelling.isEmpty && spelling.toList.all isDigit then v.ofDigits? spelling
  else match v.ofLoose? spelling with
    | some a => .ok a
    | none => .error (.noMember spelling v.title)

/-- Whether a loose spelling finds a member; only mixed values are an error. -/
def isMember (spelling : String) : Except Failure Bool :=
  match v.ofString? spelling with
  | .ok _ => .ok true
  | .error (.mixedLabels title) => .error (.mixedLabels title)
  | .error _ => .ok false

/-- The label that a JSON value equals; truth values count as one and zero. -/
def labelOf? : Json → Option Label
  | .str s => some (.text s)
  | .int n => some (.int n)
  | .bool b => some (.int (if b then 1 else 0))
  | .real x => x.toInt?.map .int
  | _ => none

/-- By exact value. -/
def ofValue? (value : Json) : Except Failure α :=
  match (labelOf? value).bind v.ofLabel? with
  | some a => .ok a
  | none => .error (.noLabel value v.title)

end Vocabulary

end TraversalSdk
