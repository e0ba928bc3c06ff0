import TraversalSdk.Rule.Basic
import TraversalSdk.Order

namespace TraversalSdk

namespace Rule

mutual

/-- Whether a rule matches the empty text if the rules named in `known` do. -/
def emptyGiven (known : List String) : Rule → Bool
  | symbol name => known.contains name
  | literal text => text.isEmpty
  | pattern _ _ => false
  | blank | star _ => true
  | seq ms => allEmpty known ms
  | choice ms => anyEmpty known ms
  | plus c | field _ c | aliased c _ _ | token c | immediateToken c | prec _ _ c | precDynamic _ c =>
    emptyGiven known c

def allEmpty (known : List String) : List Rule → Bool
  | [] => true
  | r :: rs => emptyGiven known r && allEmpty known rs

def anyEmpty (known : List String) : List Rule → Bool
  | [] => false
  | r :: rs => emptyGiven known r || anyEmpty known rs

end

end Rule

/-- One pass over the rules, in order. A rule that is found to match the empty text counts at once, for
the rules after it; the flag tells whether any was found. -/
def nullablePass (known : List String) (changed : Bool) : List (String × Rule) → List String × Bool
  | [] => (known, changed)
  | r :: rules =>
    if !known.contains r.1 && r.2.emptyGiven known then nullablePass (r.1 :: known) true rules
    else nullablePass known changed rules

/-- A pass keeps what is known, and where it sets the flag it has added a rule. -/
theorem nullablePass_grows {known found : List String} {before after : Bool}
    {rules : List (String × Rule)} (h : nullablePass known before rules = (found, after)) :
    (∀ name ∈ known, name ∈ found) ∧
      (after = true → before = true ∨ ∃ r ∈ rules, r.1 ∉ known ∧ r.1 ∈ found) := by
  induction rules generalizing known before with
  | nil =>
    simp only [nullablePass, Prod.mk.injEq] at h
    obtain ⟨rfl, rfl⟩ := h
    exact ⟨fun name hn => hn, .inl⟩
  | cons r rules ih =>
    rw [nullablePass] at h
    split at h
    · next hr =>
      obtain ⟨hkeep, _⟩ := ih h
      have hnew : r.1 ∉ known := by simpa using (Bool.and_eq_true_iff.mp hr).1
      refine ⟨fun name hn => hkeep name (List.mem_cons_of_mem _ hn), fun _ => .inr ?_⟩
      exact ⟨r, List.mem_cons_self, hnew, hkeep r.1 List.mem_cons_self⟩
    · obtain ⟨hkeep, hadd⟩ := ih h
      refine ⟨hkeep, fun hafter => (hadd hafter).imp_right ?_⟩
      intro hex
      obtain ⟨s, hs, hsnew⟩ := hex
      exact ⟨s, List.mem_cons_of_mem _ hs, hsnew⟩

/-- Passes over the rules until one adds nothing. -/
def nullableFrom (rules : List (String × Rule)) (known : List String) : List String :=
  match _pass : nullablePass known false rules with
  | (found, true) => nullableFrom rules found
  | (found, false) => found
termination_by (rules.filter fun r => r.1 ∉ known).length
decreasing_by
  obtain ⟨hkeep, hadd⟩ := nullablePass_grows _pass
  obtain ⟨r, hr, hnew, hfound⟩ := (hadd rfl).resolve_left Bool.false_ne_true
  have hf : (rules.filter fun s => s.1 ∉ found)
      = (rules.filter fun s => s.1 ∉ known).filter fun s => s.1 ∉ found := by
    rw [List.filter_filter]
    refine List.filter_congr fun s _ => ?_
    by_cases hs : s.1 ∈ known
    · simp [hs, hkeep s.1 hs]
    · simp [hs]
  rw [hf]
  exact List.length_filter_lt_length_iff_exists.mpr
    ⟨r, List.mem_filter.mpr ⟨hr, by simpa using hnew⟩, by simpa using hfound⟩

/-- The rules that match the empty text: the least set that is closed under what rules say about themselves.
-/
def nullableRules (rules : List (String × Rule)) : List String := textSet (nullableFrom rules [])

end TraversalSdk
