import TraversalSdk.Rule.Basic
import TraversalSdk.Checked
import TraversalSdk.Json.Shown

namespace TraversalSdk.Rule
open Checked

def level : Json → Checked Level
  | .str s => .sound (.name s)
  | v => match whole v with
    | .sound n => .sound (.number n)
    | .faulty i is => .faulty (i.under (.branch "int"))
      (is.map (Issue.under (.branch "int")) ++ [⟨[.branch "str"], .notText⟩])

mutual

/-- The rule that a value describes. The tag of an object decides which other members are looked at, and in
which order; faults inside a rule are reported under its tag. Rules may be nested to any depth: only the
reading of texts has a limit, `documentLimits`, and the guard against deep nesting that validators of
documents have is left out. -/
def decode : Json → Checked Rule
  | .obj ms => match lookup "type" ms with
    | none => fail .tagAbsent
    | some (.str s) => match RuleKind.ofTag? s with
      | some kind => under (.branch kind.tag) (decodeAs kind ms)
      | none => fail (.tagUnknown s)
    | some v => fail (.tagUnknown v.plain)
  | _ => fail .notRule
termination_by v => (sizeOf v, 2)

/-- The rule of a known kind that the members of an object describe. -/
def decodeAs (kind : RuleKind) (ms : List (String × Json)) : Checked Rule :=
  match kind with
  | .symbol => symbol <$> required "name" text ms
  | .literal => literal <$> required "value" text ms
  | .pattern => pattern <$> required "value" text ms <*> defaulted "flags" none (nullable text) ms
  | .blank => .sound blank
  | .seq => seq <$> decodeMembers ms
  | .choice => choice <$> decodeMembers ms
  | .star => star <$> decodeContent ms
  | .plus => plus <$> decodeContent ms
  | .field => field <$> required "name" text ms <*> decodeContent ms
  | .aliased => aliased <$> decodeContent ms <*> required "named" flag ms <*> required "value" text ms
  | .token => token <$> decodeContent ms
  | .immediateToken => immediateToken <$> decodeContent ms
  | .prec => prec .plain <$> required "value" level ms <*> decodeContent ms
  | .precLeft => prec .left <$> required "value" level ms <*> decodeContent ms
  | .precRight => prec .right <$> required "value" level ms <*> decodeContent ms
  | .precDynamic => precDynamic <$> required "value" whole ms <*> decodeContent ms
termination_by (sizeOf (Json.obj ms), 1)

def decodeContent (ms : List (String × Json)) : Checked Rule :=
  match h : lookup "content" ms with
  | some v =>
    have : sizeOf v < 1 + sizeOf ms := by simpa using Json.sizeOf_lookup h
    under (.key "content") (decode v)
  | none => .faulty ⟨[.key "content"], .missing⟩ []
termination_by (sizeOf (Json.obj ms), 0)

def decodeMembers (ms : List (String × Json)) : Checked (List Rule) :=
  match h : lookup "members" ms with
  | some (.arr vs) =>
    have : 1 + sizeOf vs < 1 + sizeOf ms := by simpa using Json.sizeOf_lookup h
    under (.key "members") (decodeEach 0 vs)
  | some _ => under (.key "members") (fail .notTuple)
  | none => .faulty ⟨[.key "members"], .missing⟩ []
termination_by (sizeOf (Json.obj ms), 0)

def decodeEach (i : Nat) : List Json → Checked (List Rule)
  | [] => .sound []
  | v :: vs => Checked.cons (under (.index i) (decode v)) (decodeEach (i + 1) vs)
termination_by vs => (sizeOf vs, 0)

end

end TraversalSdk.Rule
