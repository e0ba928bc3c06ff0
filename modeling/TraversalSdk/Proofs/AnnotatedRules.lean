import Mathlib.Data.List.Forall2
import TraversalSdk.Analysis.Shape

namespace TraversalSdk

namespace Rule

mutual

def bare : Rule → Rule
  | seq ms => seq (bares ms)
  | choice ms => choice (bares ms)
  | star c => star (bare c)
  | plus c => plus (bare c)
  | field name c => field name (bare c)
  | aliased c named value => aliased (bare c) named value
  | token c => token (bare c)
  | immediateToken c => immediateToken (bare c)
  | prec _ _ c | precDynamic _ c => bare c
  | r => r

def bares : List Rule → List Rule
  | [] => []
  | r :: rs => bare r :: bares rs

end

theorem bares_eq_map (rs : List Rule) : bares rs = rs.map bare := by
  induction rs with
  | nil => rfl
  | cons r rs ih => rw [bares, ih, List.map_cons]

/-- Trees of which one becomes the other by putting annotations around rules within it, or around all of it, and by
taking such annotations off. -/
inductive Rewrapped : Rule → Rule → Prop
  | refl (r : Rule) : Rewrapped r r
  | symm {r s : Rule} (h : Rewrapped r s) : Rewrapped s r
  | trans {r s t : Rule} (h : Rewrapped r s) (h' : Rewrapped s t) : Rewrapped r t
  | prec (side : Side) (level : Level) (r : Rule) : Rewrapped (.prec side level r) r
  | precDynamic (level : Int) (r : Rule) : Rewrapped (.precDynamic level r) r
  | seq (before after : List Rule) {r s : Rule} (h : Rewrapped r s) :
      Rewrapped (.seq (before ++ r :: after)) (.seq (before ++ s :: after))
  | choice (before after : List Rule) {r s : Rule} (h : Rewrapped r s) :
      Rewrapped (.choice (before ++ r :: after)) (.choice (before ++ s :: after))
  | star {r s : Rule} (h : Rewrapped r s) : Rewrapped (.star r) (.star s)
  | plus {r s : Rule} (h : Rewrapped r s) : Rewrapped (.plus r) (.plus s)
  | field (name : String) {r s : Rule} (h : Rewrapped r s) : Rewrapped (.field name r) (.field name s)
  | aliased (named : Bool) (value : String) {r s : Rule} (h : Rewrapped r s) :
      Rewrapped (.aliased r named value) (.aliased s named value)
  | token {r s : Rule} (h : Rewrapped r s) : Rewrapped (.token r) (.token s)
  | immediateToken {r s : Rule} (h : Rewrapped r s) : Rewrapped (.immediateToken r) (.immediateToken s)

inductive Annotates : Rule → Rule → Prop
  | prec (side : Side) (level : Level) (r : Rule) : Annotates (.prec side level r) r
  | precDynamic (level : Int) (r : Rule) : Annotates (.precDynamic level r) r

/-- Annotations are all that is put around rules or taken off. -/
theorem Rewrapped.bare_eq {r s : Rule} (h : Rewrapped r s) : r.bare = s.bare := by
  induction h with
  | refl => rfl
  | symm _ ih => exact ih.symm
  | trans _ _ ih ih' => exact ih.trans ih'
  | prec | precDynamic => rw [bare]
  | seq | choice => simp_all [bare, bares_eq_map]
  | star | plus | field | aliased | token | immediateToken => simp_all [bare]

/-- What can be done to each rule of a list can be done to all of them, one after the other. -/
theorem Rewrapped.map {f : List Rule → Rule}
    (hf : ∀ before after {r s : Rule}, Rewrapped r s → Rewrapped (f (before ++ r :: after)) (f (before ++ s :: after)))
    (before : List Rule) {rs : List Rule} (h : ∀ r ∈ rs, Rewrapped r r.bare) :
    Rewrapped (f (before ++ rs)) (f (before ++ rs.map bare)) := by
  induction rs generalizing before with
  | nil => exact .refl _
  | cons r rs ih =>
    obtain ⟨hr, hrs⟩ := List.forall_mem_cons.mp h
    have hrest := ih (before ++ [r.bare]) hrs
    rw [List.append_assoc, List.append_assoc] at hrest
    exact (hf before rs hr).trans hrest

mutual

/-- All annotations of a tree can be taken off one by one. -/
theorem rewrapped_bare (r : Rule) : Rewrapped r r.bare := by
  match r with
  | .symbol _ | .literal _ | .pattern _ _ | .blank => exact .refl _
  | .seq ms =>
    rw [bare, bares_eq_map]
    exact Rewrapped.map (fun before after _ _ => .seq before after) [] (rewrapped_bares ms)
  | .choice ms =>
    rw [bare, bares_eq_map]
    exact Rewrapped.map (fun before after _ _ => .choice before after) [] (rewrapped_bares ms)
  | .star c => exact .star (rewrapped_bare c)
  | .plus c => exact .plus (rewrapped_bare c)
  | .field name c => exact .field name (rewrapped_bare c)
  | .aliased c named value => exact .aliased named value (rewrapped_bare c)
  | .token c => exact .token (rewrapped_bare c)
  | .immediateToken c => exact .immediateToken (rewrapped_bare c)
  | .prec side level c => exact (Rewrapped.prec side level c).trans (rewrapped_bare c)
  | .precDynamic level c => exact (Rewrapped.precDynamic level c).trans (rewrapped_bare c)

theorem rewrapped_bares (rs : List Rule) : ∀ r ∈ rs, Rewrapped r r.bare := by
  match rs with
  | [] => exact nofun
  | r :: rs => exact List.forall_mem_cons.mpr ⟨rewrapped_bare r, rewrapped_bares rs⟩

end

/-- Trees differ in annotations alone just if they are the same without them. -/
theorem rewrapped_iff {r s : Rule} : Rewrapped r s ↔ r.bare = s.bare :=
  ⟨Rewrapped.bare_eq, fun h => (rewrapped_bare r).trans (h ▸ (rewrapped_bare s).symm)⟩

def core (m : Rule) : Rule := (m.optionalContent?.getD m).unwrapped

def hidesSymbol : Rule → Bool
  | field _ c => c.bare.symbolName?.isSome && c.symbolName?.isNone
  | _ => false

/-- Whether annotations keep a member of a sequence from being seen: it is optional, or has its symbol in a field,
only once they are gone. -/
def isObscured (m : Rule) : Bool :=
  m.bare.sequenceMember?.isSome && m.bare.isOptional && !m.isOptional || m.core.hidesSymbol

/-- The members of the sequence that a rule is within the annotations around it. -/
def sequenceBody (r : Rule) : List Rule :=
  match r.unwrapped with
  | seq ms => ms
  | _ => []

theorem bare_unwrapped (r : Rule) : r.unwrapped.bare = r.bare := by
  fun_induction unwrapped r with
  | case1 side level c ih => rw [ih, bare]
  | case2 level c ih => rw [ih, bare]
  | case3 => rfl

/-- Within all annotations around a rule there is none. -/
theorem kind_unwrapped (r : Rule) : r.unwrapped.kind.isPrecedence = false := by
  fun_induction unwrapped r with
  | case1 side level c ih => exact ih
  | case2 level c ih => exact ih
  | case3 r hprec hdynamic =>
    cases r with
    | prec side level c => exact absurd rfl (hprec side level c)
    | precDynamic level c => exact absurd rfl (hdynamic level c)
    | _ => rfl

theorem unwrapped_ne {r : Rule} : (∀ side level c, r.unwrapped ≠ .prec side level c) ∧
    ∀ level c, r.unwrapped ≠ .precDynamic level c := by
  have hkind := kind_unwrapped r
  constructor
  · intro side level c hr
    rw [hr] at hkind
    cases side <;> cases hkind
  · intro level c hr
    rw [hr] at hkind
    cases hkind

theorem unwrapped_bare (r : Rule) : r.bare.unwrapped = r.bare := by
  rw [← bare_unwrapped]
  cases hr : r.unwrapped with
  | prec side level c => exact absurd hr (unwrapped_ne.1 side level c)
  | precDynamic level c => exact absurd hr (unwrapped_ne.2 level c)
  | _ => rfl

/-- Annotations around a member and within it do not matter, unless they stand within a field. -/
theorem memberOf?_unwrapped (optional : Bool) (r : Rule) :
    memberOf? optional r.unwrapped = if r.unwrapped.hidesSymbol then none else memberOf? optional r.bare := by
  rw [← bare_unwrapped]
  cases hr : r.unwrapped with
  | field name c =>
    rw [bare, hidesSymbol]
    cases hc : c.symbolName? with
    | some s =>
      cases c with
      | symbol s => rfl
      | _ => cases hc
    | none =>
      have hnone : memberOf? optional (.field name c) = none := by
        cases c with
        | symbol s => cases hc
        | _ => rfl
      rw [hnone]
      cases c.bare <;> rfl
  | prec side level c => exact absurd hr (unwrapped_ne.1 side level c)
  | precDynamic level c => exact absurd hr (unwrapped_ne.2 level c)
  | _ => rfl

/-- A field that hides its symbol names it once the annotations are gone. -/
theorem memberOf?_of_hidesSymbol {r : Rule} (h : r.unwrapped.hidesSymbol = true) (optional : Bool) :
    (memberOf? optional r.bare).isSome := by
  rw [← bare_unwrapped]
  cases hr : r.unwrapped with
  | field name c =>
    rw [hr, hidesSymbol, Bool.and_eq_true] at h
    rw [bare]
    cases hc : c.bare with
    | symbol s => rfl
    | _ =>
      rw [hc] at h
      cases h.1
  | _ =>
    rw [hr] at h
    cases h

/-- An optional rule is a choice between its content and a blank. -/
theorem optionalContent?_eq_some {m c : Rule} (h : m.optionalContent? = some c) :
    m = .choice [.blank, c] ∨ m = .choice [c, .blank] := by
  have hblank {r : Rule} (hr : r.isBlank = true) : r = .blank := by
    cases r <;> first | rfl | cases hr
  unfold optionalContent? at h
  split at h
  · next a b =>
    split at h
    · next hab =>
      rw [hblank (Bool.and_eq_true_iff.mp hab).1, Option.some.inj h]
      exact .inl rfl
    · split at h
      · next hab =>
        rw [hblank (Bool.and_eq_true_iff.mp hab).2, Option.some.inj h]
        exact .inr rfl
      · cases h
  · cases h

/-- A choice is no symbol and no field. -/
theorem memberOf?_optional {optional : Bool} {m c : Rule} (h : m.optionalContent? = some c) :
    memberOf? optional m = none := by
  rcases optionalContent?_eq_some h with rfl | rfl <;> rfl

theorem optionalContent?_bare {m c : Rule} (h : m.optionalContent? = some c) :
    m.bare.optionalContent? = if c.bare.isBlank then none else some c.bare := by
  have hblank : isBlank .blank = true := rfl
  rcases optionalContent?_eq_some h with rfl | rfl <;>
    cases hc : c.bare.isBlank <;> simp [bare, bares, optionalContent?, hblank, hc]

/-- Without annotations an optional member names what its content does. -/
theorem sequenceMember?_bare {m c : Rule} (h : m.optionalContent? = some c) :
    m.bare.sequenceMember? = memberOf? true c.bare := by
  rw [sequenceMember?, optionalContent?_bare h]
  cases hc : c.bare.isBlank with
  | false =>
    rw [if_neg Bool.false_ne_true]
    exact congrArg (memberOf? true) (unwrapped_bare c)
  | true =>
    have hblank : c.bare = .blank := by
      cases hbare : c.bare with
      | blank => rfl
      | _ => rw [hbare] at hc; cases hc
    rw [if_pos rfl, hblank]
    rcases optionalContent?_eq_some h with rfl | rfl <;> rfl

/-- The symbol of a member is found unless annotations obscure it. -/
theorem sequenceMember?_eq (m : Rule) :
    m.sequenceMember? = if m.isObscured then none else m.bare.sequenceMember? := by
  unfold isObscured core isOptional
  cases hm : m.optionalContent? with
  | some c =>
    rw [sequenceMember?, hm, sequenceMember?_bare hm]
    simp [memberOf?_unwrapped]
  | none =>
    rw [sequenceMember?, hm]
    cases hbare : m.bare.optionalContent? with
    | some c =>
      -- optional only without the annotations: a choice as it stands, so nothing is found in it
      simp only [memberOf?_unwrapped, memberOf?_optional hbare]
      cases hmember : m.bare.sequenceMember? <;> simp
    | none =>
      have hsame : m.bare.sequenceMember? = memberOf? false m.bare := by
        rw [sequenceMember?, hbare, unwrapped_bare]
      simp [memberOf?_unwrapped, hsame]

/-- Annotations obscure nothing where there is no symbol to be seen. -/
theorem isObscured_eq_false {m : Rule} (h : m.bare.sequenceMember? = none) : m.isObscured = false := by
  have hcore : m.core.hidesSymbol = false := by
    rw [← Bool.not_eq_true]
    intro hhides
    have hsome : m.bare.sequenceMember?.isSome := by
      cases hm : m.optionalContent? with
      | some c =>
        rw [core, hm, Option.getD_some] at hhides
        rw [sequenceMember?_bare hm]
        exact memberOf?_of_hidesSymbol hhides true
      | none =>
        rw [core, hm, Option.getD_none] at hhides
        have hmember := memberOf?_of_hidesSymbol hhides false
        cases hopt : m.bare.optionalContent? with
        | some c =>
          rw [memberOf?_optional hopt] at hmember
          cases hmember
        | none => rwa [sequenceMember?, hopt, unwrapped_bare]
    rw [h] at hsome
    cases hsome
  rw [isObscured, h, hcore]
  rfl

/-- An optional member is obscured just if a field hides the symbol of its content. -/
theorem isObscured_of_content {m c : Rule} (h : m.optionalContent? = some c) :
    m.isObscured = c.unwrapped.hidesSymbol := by
  simp [isObscured, isOptional, core, h]

namespace Annotates

variable {r s : Rule} (h : Annotates r s)

include h

theorem bare_eq : r.bare = s.bare := by
  cases h <;> rw [bare]

theorem unwrapped_eq : r.unwrapped = s.unwrapped := by
  cases h <;> rw [unwrapped]

theorem sequenceBody_eq : r.sequenceBody = s.sequenceBody := by
  rw [sequenceBody, h.unwrapped_eq, sequenceBody]

theorem core_eq : r.core = s.unwrapped := by
  rw [← h.unwrapped_eq]
  cases h <;> rfl

/-- Around a member that is not optional. -/
theorem isObscured_eq (hs : s.bare.isOptional = false) : r.isObscured = s.isObscured := by
  have hcore : r.core.hidesSymbol = s.core.hidesSymbol := by
    rw [h.core_eq, core]
    cases hopt : s.optionalContent? with
    | none => rfl
    | some c =>
      -- a choice between two blanks, one of them annotated
      have hblank : c.unwrapped.bare.isBlank = true := by
        rw [isOptional, optionalContent?_bare hopt] at hs
        rw [bare_unwrapped]
        cases hc : c.bare.isBlank with
        | true => rfl
        | false =>
          rw [hc] at hs
          cases hs
      have hplain : s.unwrapped.hidesSymbol = false := by
        rcases optionalContent?_eq_some hopt with rfl | rfl <;> rfl
      rw [hplain, Option.getD_some]
      cases hc : c.unwrapped with
      | field =>
        rw [hc] at hblank
        cases hblank
      | _ => rfl
  rw [isObscured, isObscured, hcore, h.bare_eq, hs, Bool.and_false, Bool.false_and, Bool.false_and]

/-- Within an optional member, around its content. -/
theorem isObscured_optional_eq :
    (choice [r, .blank]).isObscured = (choice [s, .blank]).isObscured ∧
    (choice [.blank, r]).isObscured = (choice [.blank, s]).isObscured := by
  have hr : r.isBlank = false := by cases h <;> rfl
  have hblank : isBlank .blank = true := rfl
  have hleft : (choice [r, .blank]).optionalContent? = some r := by simp [optionalContent?, hr, hblank]
  have hright : (choice [.blank, r]).optionalContent? = some r := by simp [optionalContent?, hr, hblank]
  rw [isObscured_of_content hleft, isObscured_of_content hright, h.unwrapped_eq]
  cases hs : s.isBlank with
  | true =>
    cases s with
    | blank => exact ⟨rfl, rfl⟩
    | _ => cases hs
  | false =>
    have hleft : (choice [s, .blank]).optionalContent? = some s := by simp [optionalContent?, hs, hblank]
    have hright : (choice [.blank, s]).optionalContent? = some s := by simp [optionalContent?, hs, hblank]
    rw [isObscured_of_content hleft, isObscured_of_content hright]
    exact ⟨rfl, rfl⟩

end Annotates

theorem sequenceMembers_unwrapped (r : Rule) :
    r.unwrapped.sequenceMembers = r.sequenceBody.filterMap sequenceMember? := by
  unfold sequenceBody
  cases r.unwrapped <;> rfl

/-- Annotations around a sequence do not change its members. -/
theorem map_bare_sequenceBody (r : Rule) : r.sequenceBody.map bare = r.bare.sequenceBody := by
  unfold sequenceBody
  rw [unwrapped_bare, ← bare_unwrapped]
  cases hr : r.unwrapped with
  | seq ms => exact (bares_eq_map ms).symm
  | prec side level c => exact absurd hr (unwrapped_ne.1 side level c)
  | precDynamic level c => exact absurd hr (unwrapped_ne.2 level c)
  | _ => rfl

/-- Members that are the same without annotations, and of which annotations obscure the same ones, have the same
symbols. -/
theorem filterMap_sequenceMember? {ms ns : List Rule} (hbare : ms.map bare = ns.map bare)
    (h : List.Forall₂ (fun m n => m.isObscured = n.isObscured) ms ns) :
    ms.filterMap sequenceMember? = ns.filterMap sequenceMember? := by
  induction h with
  | nil => rfl
  | @cons m n ms ns hobscured _ ih =>
    obtain ⟨hhead, htail⟩ := List.cons.inj hbare
    have hmember : m.sequenceMember? = n.sequenceMember? := by
      rw [sequenceMember?_eq m, sequenceMember?_eq n, hobscured, hhead]
    rw [List.filterMap_cons, List.filterMap_cons, hmember, ih htail]

end Rule

open Rule

/-- Annotations do not change the sequences of children. For every table and every table that differs from it only in
annotations, at any places of its rules, the sequences are the same if annotations obscure the same members of the
sequences in both tables. No member is obscured by an annotation around the sequence, around a member that is not
optional, or around the content of an optional member, and no member is obscured that names no symbol without its
annotations. -/
theorem sequences_rewrapped :
    (∀ rules rules' : List (String × Rule),
      List.Forall₂ (fun p q => p.1 = q.1 ∧ Rewrapped p.2 q.2 ∧
        List.Forall₂ (fun m n => m.isObscured = n.isObscured) p.2.sequenceBody q.2.sequenceBody) rules rules' →
      sequences rules = sequences rules') ∧
    (∀ r s : Rule, Annotates r s → r.sequenceBody = s.sequenceBody ∧
      (s.bare.isOptional = false → r.isObscured = s.isObscured) ∧
      (choice [r, .blank]).isObscured = (choice [s, .blank]).isObscured ∧
      (choice [.blank, r]).isObscured = (choice [.blank, s]).isObscured) ∧
    ∀ m : Rule, m.bare.sequenceMember? = none → m.isObscured = false := by
  refine ⟨fun rules rules' h => ?_, fun r s h => ⟨h.sequenceBody_eq, h.isObscured_eq, h.isObscured_optional_eq⟩,
    fun _ => isObscured_eq_false⟩
  have hlists : rules.map (fun r => (r.1, r.2.unwrapped.sequenceMembers)) =
      rules'.map fun r => (r.1, r.2.unwrapped.sequenceMembers) := by
    induction h with
    | nil => rfl
    | @cons p q _ _ hpq _ ih =>
      obtain ⟨hname, hrule, hmembers⟩ := hpq
      have hbare : p.2.sequenceBody.map bare = q.2.sequenceBody.map bare := by
        rw [map_bare_sequenceBody, map_bare_sequenceBody, hrule.bare_eq]
      rw [List.map_cons, List.map_cons, ih, hname, sequenceMembers_unwrapped, sequenceMembers_unwrapped,
        filterMap_sequenceMember? hbare hmembers]
  rw [sequences, hlists, sequences]

/-- A sequence with an annotation around it, around its first member, around the content of its second member and
within its third one has the symbols that it has without them. The fourth member is obscured in both; an optional
text with an annotation around it is not. -/
theorem sequences_rewrapped_statement :
    sequences [("statement", .prec .left (.number 1) (.seq [.prec .plain (.name "low") (.symbol "label"),
        .choice [.precDynamic 2 (.field "value" (.symbol "expression")), .blank],
        .star (.prec .right (.number 3) (.symbol "clause")), .field "end" (.precDynamic 1 (.symbol "mark"))]))] =
      sequences [("statement", .seq [.symbol "label", .choice [.field "value" (.symbol "expression"), .blank],
        .star (.symbol "clause"), .field "end" (.precDynamic 4 (.symbol "mark"))])] ∧
    (Rule.prec .plain (.name "low") (.symbol "label")).isObscured = false ∧
    (choice [.precDynamic 2 (.symbol "expression"), .blank]).isObscured = false ∧
    (Rule.precDynamic 2 (.choice [.literal ";", .blank])).isObscured = false := by
  obtain ⟨hsequences, haround, hnone⟩ := sequences_rewrapped
  refine ⟨hsequences _ _ (.cons ⟨rfl, rewrapped_iff.mpr rfl, ?_⟩ .nil), ?_, ?_, hnone _ rfl⟩
  · exact .cons rfl (.cons rfl (.cons rfl (.cons rfl .nil)))
  · exact (haround _ _ (.prec .plain (.name "low") (.symbol "label"))).2.1 rfl
  · exact (haround _ _ (.precDynamic 2 (.symbol "expression"))).2.2.1

/-- Annotations obscure a member around the blank that makes it optional, around an optional member, and within a
field around its symbol: there the sequences differ. -/
theorem sequences_obscured :
    (Rewrapped (.seq [.choice [.symbol "a", .prec .plain (.number 1) .blank]]) (.seq [.choice [.symbol "a", .blank]]) ∧
      sequences [("s", .seq [.choice [.symbol "a", .prec .plain (.number 1) .blank]])] ≠
        sequences [("s", .seq [.choice [.symbol "a", .blank]])]) ∧
    (Rewrapped (.seq [.prec .plain (.number 1) (.choice [.symbol "a", .blank])])
        (.seq [.choice [.symbol "a", .blank]]) ∧
      sequences [("s", .seq [.prec .plain (.number 1) (.choice [.symbol "a", .blank])])] ≠
        sequences [("s", .seq [.choice [.symbol "a", .blank]])]) ∧
    (Rewrapped (.seq [.field "f" (.prec .plain (.number 1) (.symbol "a"))]) (.seq [.field "f" (.symbol "a")]) ∧
      sequences [("s", .seq [.field "f" (.prec .plain (.number 1) (.symbol "a"))])] ≠
        sequences [("s", .seq [.field "f" (.symbol "a")])]) :=
  ⟨⟨rewrapped_iff.mpr rfl, by decide⟩, ⟨rewrapped_iff.mpr rfl, by decide⟩, ⟨rewrapped_iff.mpr rfl, by decide⟩⟩

end TraversalSdk
