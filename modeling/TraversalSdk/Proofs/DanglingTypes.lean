import TraversalSdk.Proofs.ContainmentTables
import TraversalSdk.Proofs.DeclaredTypes

namespace TraversalSdk

section

variable {α κ : Type} [DecidableEq α] [DecidableEq κ]

theorem distinct_append (l l' : List α) :
    distinct (l ++ l') = distinct l ++ (distinct l').filter (· ∉ l) := by
  induction l with
  | nil => simp [distinct]
  | cons a l ih =>
    rw [List.cons_append, distinct, ih, List.filter_append, List.filter_filter, distinct,
      List.cons_append]
    refine congrArg (fun rest => a :: (_ ++ rest)) (List.filter_congr fun b _ => ?_)
    simp

theorem distinct_replicate (n : Nat) (a : α) :
    distinct (List.replicate n a) = if n = 0 then [] else [a] := by
  cases n <;> simp [List.replicate_succ, distinct]

/-- How often a member is repeated does not show. -/
theorem distinct_flatMap_replicate {β : Type} (times : β → Nat) (f : β → α) (l : List β) :
    distinct (l.flatMap fun b => List.replicate (times b) (f b)) =
      distinct ((l.filter fun b => times b ≠ 0).map f) := by
  induction l with
  | nil => rfl
  | cons b l ih =>
    rw [List.flatMap_cons, distinct_append, distinct_replicate, ih]
    by_cases hb : times b = 0
    · simp [hb]
    · rw [if_neg hb, List.filter_cons_of_pos (by simpa using hb), List.map_cons, distinct,
        List.singleton_append]
      refine congrArg (f b :: ·) (List.filter_congr fun a _ => ?_)
      simp [hb]

/-- Groups have their keys in the order in which these first occur. -/
theorem keys_grouped (pairs : List (κ × α)) :
    (grouped pairs).map Prod.fst = distinct (pairs.map Prod.fst) := by
  rw [grouped, List.map_map]
  exact List.map_id _

/-- A group holds the values of its key, each once. -/
theorem lookup_grouped {pairs : List (κ × α)} {key : κ} (h : key ∈ pairs.map Prod.fst) :
    lookup key (grouped pairs) =
      some (distinct ((pairs.filter fun p => p.1 = key).map Prod.snd)) := by
  apply lookup_of_mem
  · rw [keys_grouped]
    exact nodup_distinct _
  · exact List.mem_map.mpr ⟨key, mem_distinct.mpr h, rfl⟩

end

/-- A declaration names a type in a field, among its children or as a subtype. -/
def Descriptor.Mentions (d : Descriptor) (r : NodeRef) : Prop :=
  (∃ f ∈ d.fields, r ∈ f.2.types) ∨ (∃ spec, d.children = some spec ∧ r ∈ spec.types) ∨
    ∃ subtypes, d.subtypes = some subtypes ∧ r ∈ subtypes

theorem Descriptor.mem_references {d : Descriptor} {r : NodeRef} :
    r ∈ d.references ↔ d.Mentions r := by
  have hentries : r ∈ d.entries.flatMap (·.spec.types) ↔
      (∃ f ∈ d.fields, r ∈ f.2.types) ∨ ∃ spec, d.children = some spec ∧ r ∈ spec.types := by
    simp [entries, List.flatMap_append, List.mem_flatMap]
  have hmembers : r ∈ d.members ↔ ∃ subtypes, d.subtypes = some subtypes ∧ r ∈ subtypes := by
    cases hs : d.subtypes <;> simp [members, hs]
  rw [references, List.mem_append, hentries, hmembers, or_assoc]
  rfl

namespace Catalogue

variable {c : Catalogue} {d : Descriptor} {t : String}

def Misses (c : Catalogue) (t : String) (d : Descriptor) : Prop :=
  ∃ r, d.Mentions r ∧ r ∉ c.refs ∧ r.type = t

def missed (c : Catalogue) (t : String) (d : Descriptor) : List NodeRef :=
  d.references.filter fun r => !c.contains r && r.type = t

theorem misses_iff : c.Misses t d ↔ (c.missed t d).length ≠ 0 := by
  rw [ne_eq, List.length_eq_zero_iff, missed, List.filter_eq_nil_iff]
  constructor
  · rintro ⟨r, hr, hnew, rfl⟩ hall
    have hkept := hall r (Descriptor.mem_references.mpr hr)
    simp [contains, hnew] at hkept
  · intro hsome
    by_contra hnone
    refine hsome fun r hr hkept => hnone ⟨r, Descriptor.mem_references.mp hr, ?_⟩
    simpa [contains] using hkept

instance : Decidable (c.Misses t d) := decidable_of_iff _ misses_iff.symm

/-- A catalogue is closed just if all that is mentioned is declared. -/
theorem closed_iff : c.Closed ↔ ∀ d ∈ c.descriptors, ∀ r, d.Mentions r → r ∈ c.refs := by
  simp only [Closed, Descriptor.mem_references]

/-- The pairs of one missing name hold the declarations that miss it, each once for every reference. -/
theorem users_dangling (c : Catalogue) (t : String) :
    (c.dangling.filter fun p => p.1 = t).map Prod.snd =
      c.descriptors.flatMap fun d => List.replicate (c.missed t d).length d.ref.type := by
  rw [dangling, List.filter_flatMap, List.map_flatMap]
  refine congrArg (List.flatMap · c.descriptors) (funext fun d => ?_)
  rw [List.filter_map, List.filter_filter, List.map_map]
  refine List.eq_replicate_iff.mpr ⟨?_, fun u hu => ?_⟩
  · rw [List.length_map, missed]
    refine congrArg List.length (List.filter_congr fun r _ => ?_)
    simp [Bool.and_comm]
  · obtain ⟨r, _, rfl⟩ := List.mem_map.mp hu
    rfl

/-- The missing names are those that some declaration misses. -/
theorem mem_missing : t ∈ c.dangling.map Prod.fst ↔ ∃ d ∈ c.descriptors, c.Misses t d := by
  rw [dangling, List.map_flatMap, List.mem_flatMap]
  refine exists_congr fun d => and_congr_right fun _ => ?_
  rw [misses_iff, missed, ne_eq, List.length_eq_zero_iff, List.filter_eq_nil_iff]
  simp [and_assoc]

/-- What a report of missing types says: their names in order, and for each of them the declarations that
name it, each once and in the order in which they are declared. -/
structure Reports (c : Catalogue) (missing : List String) (users : List (String × List String)) :
    Prop where
  sorted : missing.Pairwise (· < ·)
  missed : ∀ t, t ∈ missing ↔ ∃ d ∈ c.descriptors, c.Misses t d
  keys : (users.map Prod.fst).Perm missing
  named : ∀ t ∈ missing, lookup t users =
    some (distinct ((c.descriptors.filter fun d => c.Misses t d).map (·.ref.type)))

/-- The report tells all missing names and all that name them. -/
theorem reports_dangling (c : Catalogue) :
    c.Reports (textSet ((grouped c.dangling).map Prod.fst)) (grouped c.dangling) := by
  have hkeys (t : String) : t ∈ textSet ((grouped c.dangling).map Prod.fst) ↔
      t ∈ c.dangling.map Prod.fst := by
    rw [mem_textSet, keys_grouped, mem_distinct]
  constructor
  case sorted => exact pairwise_lt_textSet _
  case missed =>
    intro t
    rw [hkeys, mem_missing]
  case keys =>
    refine (List.perm_ext_iff_of_nodup ?_ (nodup_textSet _)).mpr fun t => mem_textSet.symm
    rw [keys_grouped]
    exact nodup_distinct _
  case named =>
    intro t ht
    rw [lookup_grouped ((hkeys t).mp ht), users_dangling, distinct_flatMap_replicate]
    simp only [misses_iff]

/-- A declared type that can stand in a tree and has names. -/
def Known (c : Catalogue) (r : NodeRef) : Prop :=
  c.Stands r ∧ ∃ names, (Registry.ofCatalogue c).get? r = some names

theorem Stands.known {r : NodeRef} (h : c.Stands r) : c.Known r := ⟨h, Registry.get?_isSome h.1⟩

/-- The landings of a graph are those of the concrete types. -/
theorem landing_known (h : c.check = .ok ()) (start : Option String) :
    ∃ g, Graph.build c start = .ok g ∧ ∀ r step l, g.landing? r step = some l →
      ∀ s ∈ l.nodes, c.Known s := by
  refine ⟨_, Graph.build_of_check h, ?_⟩
  intro r step l hl s hs
  obtain ⟨row, hrow, rfl⟩ := Option.map_eq_some_iff.mp hl
  obtain ⟨d, hd, rfl⟩ := List.mem_map.mp (List.mem_of_find?_eq_some hrow)
  exact (landing_stands (check_eq_ok_iff.mp h) start hd step s hs).known

/-- For every catalogue: the check fails just where a field, the children or the subtypes of a declaration
name an undeclared type, and then it reports all of these at once. Where it does not fail, whatever a
declared or referenced type stands for, a step lands on or an accessor leads to is declared, is no
supertype and has names. -/
theorem check_exact (c : Catalogue) :
    (c.check ≠ .ok () ↔ ∃ d ∈ c.descriptors, ∃ r, d.Mentions r ∧ r ∉ c.refs) ∧
    (∀ f, c.check = .error f → ∃ missing users, f = .missingNodeTypes users ∧
      f.report.category = .missingNodeType ∧
      f.report.details = [("missing", Json.texts missing),
        ("referenced_by", .obj (users.map fun u => (u.1, Json.texts u.2)))] ∧
      c.Reports missing users) ∧
    (c.check = .ok () →
      (∀ r, (r ∈ c.refs ∨ ∃ d ∈ c.descriptors, d.Mentions r) → ∀ s ∈ c.expand r, c.Known s) ∧
      (∀ start, ∃ g, Graph.build c start = .ok g ∧ ∀ r step l, g.landing? r step = some l →
        ∀ s ∈ l.nodes, c.Known s) ∧
      ∀ d ∈ c.descriptors, ∀ a ∈ Accessor.plan c d, ∀ s ∈ a.targets, c.Known s) := by
  refine ⟨?_, ?_, ?_⟩
  · rw [ne_eq, check_eq_ok_iff, closed_iff]
    push Not
    rfl
  · intro f hf
    unfold check at hf
    split at hf
    · cases hf
    · cases hf
      exact ⟨_, _, rfl, rfl, rfl, c.reports_dangling⟩
  · intro hok
    have hclosed := check_eq_ok_iff.mp hok
    refine ⟨?_, landing_known hok, ?_⟩
    · intro r hr s hs
      have hdeclared : r ∈ c.refs := by
        rcases hr with hr | ⟨d, hd, hr⟩
        · exact hr
        · exact hclosed d hd r (Descriptor.mem_references.mpr hr)
      exact (expand_stands hclosed hdeclared s hs).known
    · intro d hd a ha s hs
      exact (Accessor.plan_stands hclosed hd ha s hs).known

/-- Two types of one name that hold words; unless `named` is true, both also name a token that is not
declared. -/
def wordLists (named : Bool) : Catalogue where
  descriptors := [
    ⟨⟨"list", true⟩, true, false, [("item", ⟨true, false, [⟨"word", true⟩, ⟨"word", named⟩]⟩)], none,
      none⟩,
    ⟨⟨"list", false⟩, false, false, [], some ⟨true, false, [⟨"word", named⟩]⟩, none⟩,
    ⟨⟨"word", true⟩, false, false, [], none, none⟩]
  nodup := by simp

theorem check_exact_wordLists :
    (∃ users, (wordLists false).check = .error (.missingNodeTypes users) ∧
      lookup "word" users = some ["list"]) ∧
    ∀ s ∈ (wordLists true).expand ⟨"list", true⟩, (wordLists true).Known s := by
  obtain ⟨_, hfaults, _⟩ := check_exact (wordLists false)
  obtain ⟨_, _, hknown⟩ := check_exact (wordLists true)
  constructor
  · obtain ⟨f, hf⟩ : ∃ f, (wordLists false).check = .error f := ⟨_, by cbv⟩
    obtain ⟨missing, users, rfl, _, _, hreports⟩ := hfaults f hf
    have hmissing : "word" ∈ missing :=
      (hreports.missed "word").mpr ⟨_, List.mem_cons_self, ⟨"word", false⟩,
        .inl ⟨_, .head _, .tail _ (.head _)⟩, by decide, rfl⟩
    refine ⟨users, hf, ?_⟩
    rw [hreports.named "word" hmissing]
    cbv
  · have hok : (wordLists true).check = .ok () := by cbv
    exact (hknown hok).1 ⟨"list", true⟩ (.inl List.mem_cons_self)

end Catalogue

end TraversalSdk
