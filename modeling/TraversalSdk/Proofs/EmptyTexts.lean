import TraversalSdk.Analysis.Nullable
import TraversalSdk.Proofs.SortedLists

namespace TraversalSdk

namespace Rule

/-- The texts that a rule matches over a table of rules. What a pattern matches is given from outside, and
an empty text among it does not count. A symbol that the table does not list matches nothing. -/
inductive Matches (patterns : String → Option String → String → Prop) (rules : List (String × Rule)) :
    Rule → String → Prop
  | symbol {name : String} {r : Rule} {text : String} (listed : (name, r) ∈ rules)
      (body : Matches patterns rules r text) : Matches patterns rules (.symbol name) text
  | literal {text : String} : Matches patterns rules (.literal text) text
  | pattern {source : String} {flags : Option String} {text : String} (given : patterns source flags text)
      (nonempty : text ≠ "") : Matches patterns rules (.pattern source flags) text
  | blank : Matches patterns rules .blank ""
  | seqNil : Matches patterns rules (.seq []) ""
  | seqCons {m : Rule} {ms : List Rule} {text rest : String} (head : Matches patterns rules m text)
      (tail : Matches patterns rules (.seq ms) rest) : Matches patterns rules (.seq (m :: ms)) (text ++ rest)
  | choice {m : Rule} {ms : List Rule} {text : String} (listed : m ∈ ms)
      (member : Matches patterns rules m text) : Matches patterns rules (.choice ms) text
  | starNone {c : Rule} : Matches patterns rules (.star c) ""
  | starMore {c : Rule} {text rest : String} (first : Matches patterns rules c text)
      (more : Matches patterns rules (.star c) rest) : Matches patterns rules (.star c) (text ++ rest)
  | plusOne {c : Rule} {text : String} (once : Matches patterns rules c text) :
      Matches patterns rules (.plus c) text
  | plusMore {c : Rule} {text rest : String} (first : Matches patterns rules c text)
      (more : Matches patterns rules (.plus c) rest) : Matches patterns rules (.plus c) (text ++ rest)
  | field {name : String} {c : Rule} {text : String} (content : Matches patterns rules c text) :
      Matches patterns rules (.field name c) text
  | aliased {c : Rule} {named : Bool} {value text : String} (content : Matches patterns rules c text) :
      Matches patterns rules (.aliased c named value) text
  | token {c : Rule} {text : String} (content : Matches patterns rules c text) :
      Matches patterns rules (.token c) text
  | immediateToken {c : Rule} {text : String} (content : Matches patterns rules c text) :
      Matches patterns rules (.immediateToken c) text
  | prec {side : Side} {level : Level} {c : Rule} {text : String}
      (content : Matches patterns rules c text) : Matches patterns rules (.prec side level c) text
  | precDynamic {level : Int} {c : Rule} {text : String} (content : Matches patterns rules c text) :
      Matches patterns rules (.precDynamic level c) text

section

variable {patterns : String → Option String → String → Prop} {rules : List (String × Rule)}
  {known : List String}

mutual

/-- What is found from names of rules that match the empty text does so itself. -/
theorem matches_of_emptyGiven
    (h : ∀ name ∈ known, ∃ r, (name, r) ∈ rules ∧ Matches patterns rules r "") :
    (r : Rule) → r.emptyGiven known = true → Matches patterns rules r ""
  | .symbol name, he => by
    obtain ⟨r, hr, hm⟩ := h name (by simpa [emptyGiven] using he)
    exact .symbol hr hm
  | .literal text, he => by
    have htext : text = "" := String.isEmpty_iff.mp he
    rw [htext]
    exact .literal
  | .pattern _ _, he => by simp [emptyGiven] at he
  | .blank, _ => .blank
  | .seq ms, he => matches_of_allEmpty h ms he
  | .choice ms, he => by
    obtain ⟨m, hm, hmatch⟩ := matches_of_anyEmpty h ms he
    exact .choice hm hmatch
  | .star _, _ => .starNone
  | .plus c, he => .plusOne (matches_of_emptyGiven h c he)
  | .field _ c, he => .field (matches_of_emptyGiven h c he)
  | .aliased c _ _, he => .aliased (matches_of_emptyGiven h c he)
  | .token c, he => .token (matches_of_emptyGiven h c he)
  | .immediateToken c, he => .immediateToken (matches_of_emptyGiven h c he)
  | .prec _ _ c, he => .prec (matches_of_emptyGiven h c he)
  | .precDynamic _ c, he => .precDynamic (matches_of_emptyGiven h c he)

/-- A sequence of rules that match the empty text matches it. -/
theorem matches_of_allEmpty
    (h : ∀ name ∈ known, ∃ r, (name, r) ∈ rules ∧ Matches patterns rules r "") :
    (ms : List Rule) → allEmpty known ms = true → Matches patterns rules (.seq ms) ""
  | [], _ => .seqNil
  | m :: ms, he => by
    obtain ⟨hm, hms⟩ := Bool.and_eq_true_iff.mp he
    exact .seqCons (matches_of_emptyGiven h m hm) (matches_of_allEmpty h ms hms)

/-- Of a choice that is told to match the empty text some member does. -/
theorem matches_of_anyEmpty
    (h : ∀ name ∈ known, ∃ r, (name, r) ∈ rules ∧ Matches patterns rules r "") :
    (ms : List Rule) → anyEmpty known ms = true → ∃ m ∈ ms, Matches patterns rules m ""
  | [], he => by simp [anyEmpty] at he
  | m :: ms, he => by
    rcases Bool.or_eq_true_iff.mp he with hm | hms
    · exact ⟨m, List.mem_cons_self, matches_of_emptyGiven h m hm⟩
    · obtain ⟨m', hm', hmatch⟩ := matches_of_anyEmpty h ms hms
      exact ⟨m', List.mem_cons_of_mem _ hm', hmatch⟩

end

theorem anyEmpty_of_mem {m : Rule} {ms : List Rule} (hm : m ∈ ms) (he : m.emptyGiven known = true) :
    anyEmpty known ms = true := by
  induction ms with
  | nil => cases hm
  | cons m' ms ih =>
    rw [anyEmpty, Bool.or_eq_true]
    rcases List.mem_cons.mp hm with rfl | hm
    · exact .inl he
    · exact .inr (ih hm)

/-- Names that are closed under what the rules say about themselves are enough to find every rule that
matches the empty text. -/
theorem emptyGiven_of_matches (closed : ∀ p ∈ rules, p.2.emptyGiven known = true → p.1 ∈ known)
    {r : Rule} {text : String} (h : Matches patterns rules r text) (hempty : text = "") :
    r.emptyGiven known = true := by
  induction h with
  | symbol listed _ ih => simpa [emptyGiven] using closed _ listed (ih hempty)
  | literal => exact String.isEmpty_iff.mpr hempty
  | pattern _ nonempty => exact absurd hempty nonempty
  | blank => rfl
  | seqNil => rfl
  | seqCons _ _ ihHead ihTail =>
    obtain ⟨hhead, htail⟩ := String.append_eq_empty_iff.mp hempty
    exact Bool.and_eq_true_iff.mpr ⟨ihHead hhead, ihTail htail⟩
  | choice listed _ ih => exact anyEmpty_of_mem listed (ih hempty)
  | starNone => rfl
  | starMore => rfl
  | plusOne _ ih => exact ih hempty
  | plusMore _ _ ihFirst _ => exact ihFirst (String.append_eq_empty_iff.mp hempty).1
  | field _ ih => exact ih hempty
  | aliased _ ih => exact ih hempty
  | token _ ih => exact ih hempty
  | immediateToken _ ih => exact ih hempty
  | prec _ ih => exact ih hempty
  | precDynamic _ ih => exact ih hempty

end

end Rule

section

variable {known found : List String} {rules : List (String × Rule)}

/-- A pass adds only names that follow from names with the property. -/
theorem nullablePass_sound {P : String → Prop} (changed : Bool)
    (step : ∀ known, (∀ name ∈ known, P name) → ∀ r ∈ rules, r.2.emptyGiven known = true → P r.1)
    (h : ∀ name ∈ known, P name) : ∀ name ∈ (nullablePass known changed rules).1, P name := by
  induction rules generalizing known changed with
  | nil => exact h
  | cons r rules ih =>
    have hstep := fun known hknown r' hr' => step known hknown r' (List.mem_cons_of_mem _ hr')
    rw [nullablePass]
    split
    · next hr =>
      apply ih true hstep
      intro name hname
      rcases List.mem_cons.mp hname with rfl | hname
      · exact step known h r List.mem_cons_self (Bool.and_eq_true_iff.mp hr).2
      · exact h name hname
    · exact ih changed hstep h

/-- A pass that has found something says so. -/
theorem nullablePass_changed (known : List String) (rules : List (String × Rule)) :
    (nullablePass known true rules).2 = true := by
  induction rules generalizing known with
  | nil => rfl
  | cons r rules ih =>
    rw [nullablePass]
    split
    · exact ih _
    · exact ih _

/-- A pass that sets no flag has left the known names as they were, and they are closed. -/
theorem nullablePass_unchanged (h : nullablePass known false rules = (found, false)) :
    found = known ∧ ∀ r ∈ rules, r.2.emptyGiven known = true → r.1 ∈ known := by
  induction rules with
  | nil =>
    cases h
    exact ⟨rfl, nofun⟩
  | cons r rules ih =>
    rw [nullablePass] at h
    split at h
    · have hflag := nullablePass_changed (r.1 :: known) rules
      rw [h] at hflag
      cases hflag
    · next hr =>
      obtain ⟨hfound, hclosed⟩ := ih h
      refine ⟨hfound, fun s hs he => ?_⟩
      rcases List.mem_cons.mp hs with rfl | hs
      · by_contra hnew
        exact hr (by simp [hnew, he])
      · exact hclosed s hs he

/-- What holds of every rule that a pass adds holds of all that the passes find. -/
theorem nullableFrom_sound {P : String → Prop}
    (step : ∀ known, (∀ name ∈ known, P name) → ∀ r ∈ rules, r.2.emptyGiven known = true → P r.1)
    (h : ∀ name ∈ known, P name) : ∀ name ∈ nullableFrom rules known, P name := by
  fun_induction nullableFrom rules known with
  | case1 known found hpass ih =>
    have hfound := nullablePass_sound false step h
    rw [hpass] at hfound
    exact ih hfound
  | case2 known found hpass =>
    have hfound := nullablePass_sound false step h
    rw [hpass] at hfound
    exact hfound

/-- The passes stop at names that are closed. -/
theorem nullableFrom_closed :
    ∀ r ∈ rules, r.2.emptyGiven (nullableFrom rules known) = true → r.1 ∈ nullableFrom rules known := by
  fun_induction nullableFrom rules known with
  | case1 known found hpass ih => exact ih
  | case2 known found hpass =>
    obtain ⟨rfl, hclosed⟩ := nullablePass_unchanged hpass
    exact hclosed

theorem matches_of_mem_nullableRules {patterns : String → Option String → String → Prop}
    {rules' : List (String × Rule)} (h : ∀ r ∈ rules', r ∈ rules) {name : String}
    (hname : name ∈ nullableRules rules') : ∃ r, (name, r) ∈ rules ∧ r.Matches patterns rules "" := by
  rw [nullableRules, mem_textSet] at hname
  refine nullableFrom_sound (P := fun name => ∃ r, (name, r) ∈ rules ∧ r.Matches patterns rules "")
    ?_ (fun name hnone => absurd hnone List.not_mem_nil) name hname
  intro known hknown r hr he
  exact ⟨r.2, h r hr, Rule.matches_of_emptyGiven hknown r.2 he⟩

/-- The passes find the rules that match the empty text, whatever the patterns match. -/
theorem mem_nullableRules (patterns : String → Option String → String → Prop) {name : String} :
    name ∈ nullableRules rules ↔ ∃ r, (name, r) ∈ rules ∧ r.Matches patterns rules "" := by
  constructor
  · exact matches_of_mem_nullableRules fun r hr => hr
  · intro h
    obtain ⟨r, hr, hmatch⟩ := h
    exact mem_textSet.mpr (nullableFrom_closed _ hr (Rule.emptyGiven_of_matches nullableFrom_closed hmatch rfl))

/-- A table that lists fewer rules finds no more of them. -/
theorem nullableRules_subset {rules' : List (String × Rule)} (h : ∀ r ∈ rules', r ∈ rules) {name : String}
    (hname : name ∈ nullableRules rules') : name ∈ nullableRules rules :=
  (mem_nullableRules fun _ _ _ => False).mpr (matches_of_mem_nullableRules h hname)

end

/-- For every table of rules, whatever its patterns match: the rules that are found, each once, are just those
of the table that match the empty text. Another order of the table leads to the same rules. -/
theorem nullableRules_exact (patterns : String → Option String → String → Prop)
    (rules : List (String × Rule)) :
    (∀ name, name ∈ nullableRules rules ↔ ∃ r, (name, r) ∈ rules ∧ r.Matches patterns rules "") ∧
    (nullableRules rules).Nodup ∧
    ∀ rules', rules'.Perm rules → nullableRules rules' = nullableRules rules := by
  refine ⟨fun name => mem_nullableRules patterns, nodup_textSet _, fun rules' h => ?_⟩
  apply textSet_congr
  intro name
  rw [← mem_textSet, ← mem_textSet (l := nullableFrom rules [])]
  constructor
  · exact nullableRules_subset fun r hr => h.mem_iff.mp hr
  · exact nullableRules_subset fun r hr => h.mem_iff.mpr hr

def wordLists : List (String × Rule) := [
  ("list", .seq [.symbol "items", .symbol "gap"]),
  ("items", .choice [.seq [.symbol "items", .symbol "item"], .blank]),
  ("item", .choice [.field "inner" (.symbol "list"), .pattern "[a-z]+" none]),
  ("gap", .star (.literal " "))]

/-- An item is empty where it is a list without items and without a gap. -/
theorem wordLists_item {patterns : String → Option String → String → Prop} :
    (Rule.choice [.field "inner" (.symbol "list"), .pattern "[a-z]+" none]).Matches patterns wordLists "" := by
  have hitems : (Rule.symbol "items").Matches patterns wordLists "" :=
    .symbol (.tail _ (.head _)) (.choice (.tail _ (.head _)) .blank)
  have hgap : (Rule.symbol "gap").Matches patterns wordLists "" :=
    .symbol (.tail _ (.tail _ (.tail _ (.head _)))) .starNone
  have hlist : (Rule.symbol "list").Matches patterns wordLists "" :=
    .symbol (.head _) (.seqCons hitems (.seqCons hgap .seqNil))
  exact .choice (.head _) (.field hlist)

theorem nullableRules_exact_wordLists : wordLists.reverse.Perm wordLists ∧
    nullableRules wordLists.reverse = nullableRules wordLists ∧ "item" ∈ nullableRules wordLists := by
  have hperm : wordLists.reverse.Perm wordLists := List.reverse_perm wordLists
  obtain ⟨hmem, _, horder⟩ := nullableRules_exact (fun _ _ text => text = "a") wordLists
  have hitem : "item" ∈ nullableRules wordLists :=
    (hmem "item").mpr ⟨_, .tail _ (.tail _ (.head _)), wordLists_item⟩
  exact ⟨hperm, horder _ hperm, hitem⟩

end TraversalSdk
