import TraversalSdk.Grammar.Decode
import TraversalSdk.Proofs.RuleReading
import TraversalSdk.Proofs.SortedLists

namespace TraversalSdk

def TellsStrange (is : List Issue) (p : List Place) (tag : Option String) : Prop :=
  ∃ i ∈ is, i.path = p ∧ i.fault.strangeTag? = some tag

section TellsStrange

variable {p : List Place} {tag : Option String}

theorem not_tellsStrange {is : List Issue} (h : ∀ i ∈ is, i.fault.strangeTag? = none) :
    ¬TellsStrange is p tag := by
  rintro ⟨i, hi, _, htag⟩
  exact nomatch (h i hi).symm.trans htag

theorem tellsStrange_under {is : List Issue} {s : Place} :
    TellsStrange (is.map (Issue.under s)) p tag ↔ ∃ q, p = s :: q ∧ TellsStrange is q tag := by
  constructor
  · rintro ⟨_, hmem, rfl, htag⟩
    obtain ⟨i, hi, rfl⟩ := List.mem_map.mp hmem
    exact ⟨i.path, rfl, i, hi, rfl, htag⟩
  · rintro ⟨_, rfl, i, hi, rfl, htag⟩
    exact ⟨_, List.mem_map_of_mem hi, rfl, htag⟩

theorem tellsStrange_flatMap {α : Type} {l : List α} {f : α → List Issue} :
    TellsStrange (l.flatMap f) p tag ↔ ∃ a ∈ l, TellsStrange (f a) p tag := by
  simp only [TellsStrange, List.mem_flatMap]
  constructor
  · rintro ⟨i, ⟨a, ha, hi⟩, h⟩
    exact ⟨a, ha, i, hi, h⟩
  · rintro ⟨a, ha, i, hi, h⟩
    exact ⟨i, ⟨a, ha, hi⟩, h⟩

theorem tellsStrange_memberIssues {ms : List (String × Json)} {name : String} {optional : Bool}
    {issues : Json → List Issue} : TellsStrange (Checked.memberIssues ms name optional issues) p tag ↔
      ∃ v q, lookup name ms = some v ∧ p = .key name :: q ∧ TellsStrange (issues v) q tag := by
  unfold Checked.memberIssues
  split
  · next v h => simp [h, tellsStrange_under]
  · next h => cases optional <;> simp [h, TellsStrange, Fault.strangeTag?]

variable {α : Type} {check : Json → Checked α} {v : Json}

theorem tellsStrange_tuple : TellsStrange (Checked.tuple check v).issues p tag ↔
    ∃ vs n w q, v = .arr vs ∧ vs[n]? = some w ∧ p = .index n :: q ∧
      TellsStrange (check w).issues q tag := by
  cases v with
  | arr vs =>
    simp only [TellsStrange, Checked.tuple, Checked.mem_each_issues]
    constructor
    · rintro ⟨_, ⟨n, w, hw, j, hj, rfl⟩, rfl, htag⟩
      exact ⟨vs, n, w, j.path, rfl, hw, rfl, j, hj, rfl, htag⟩
    · rintro ⟨vs, n, w, _, hvs, hw, rfl, j, hj, rfl, htag⟩
      cases hvs
      exact ⟨_, ⟨n, w, hw, j, hj, rfl⟩, rfl, htag⟩
  | _ => simp [TellsStrange, Checked.tuple, Fault.strangeTag?]

theorem tellsStrange_mapping : TellsStrange (Checked.mapping check v).issues p tag ↔
    ∃ rs m q, v = .obj rs ∧ m ∈ rs ∧ p = .key m.1 :: q ∧ TellsStrange (check m.2).issues q tag := by
  cases v with
  | obj rs =>
    simp [Checked.mapping, Checked.issues_eachMember, tellsStrange_flatMap, tellsStrange_under]
  | _ => simp [TellsStrange, Checked.mapping, Fault.strangeTag?]

theorem not_tellsStrange_text : ¬TellsStrange (Checked.text v).issues p tag :=
  not_tellsStrange fun _ => (Rule.isSimple_text v).strangeTag?

theorem not_tellsStrange_nullableText :
    ¬TellsStrange (Checked.nullable Checked.text v).issues p tag :=
  not_tellsStrange fun _ => (Rule.isSimple_nullableText v).strangeTag?

end TellsStrange

theorem Rule.inOrder_tuple {α : Type} {check : Json → Checked α}
    (h : ∀ v, Rule.InOrder (check v).issues) (v : Json) :
    Rule.InOrder (Checked.tuple check v).issues := by
  cases v with
  | arr vs => exact inOrder_each fun v _ => h v
  | _ => exact inOrder_singleton _

namespace Grammar

/-- The places of a document where a rule is looked for: its rules, and its lists of rules. -/
inductive Visits : Json → List Place → Json → Prop
  | rule {ms rs : List (String × Json)} {m : String × Json} {w : Json} {p : List Place}
      (hrs : lookup "rules" ms = some (.obj rs)) (hm : m ∈ rs) (h : Rule.Visits m.2 p w) :
      Visits (.obj ms) (.key "rules" :: .key m.1 :: p) w
  | listed {ms : List (String × Json)} {key : String} {vs : List Json} {n : Nat} {v w : Json}
      {p : List Place} (hkey : key ∈ ["extras", "externals"]) (hvs : lookup key ms = some (.arr vs))
      (hv : vs[n]? = some v) (h : Rule.Visits v p w) :
      Visits (.obj ms) (.key key :: .index n :: p) w
  | precedence {ms : List (String × Json)} {us vs : List Json} {m n : Nat} {v w : Json}
      {p : List Place} (hus : lookup "precedences" ms = some (.arr us)) (hvs : us[m]? = some (.arr vs))
      (hv : vs[n]? = some v) (h : Rule.Visits v p w) :
      Visits (.obj ms) (.key "precedences" :: .index m :: .index n :: p) w

/-- The order of places: the known members as they are read, rules as the document lists them, and
within each what comes first there. -/
inductive Before (v : Json) : List Place → List Place → Prop
  | member {x y : String} {a b : List Place} (h : [x, y].Sublist knownMembers) :
      Before v (.key x :: a) (.key y :: b)
  | rule {rs : List (String × Json)} {x y : String} {a b : List Place}
      (hrs : v.member? "rules" = some (.obj rs)) (h : [x, y].Sublist (rs.map Prod.fst)) :
      Before v (.key "rules" :: .key x :: a) (.key "rules" :: .key y :: b)
  | within {a b : List Place} (h : Rule.Before a b) : Before v a b

/-- The rules of a document have names of their own, as the keys of a mapping do. -/
def RulesApart (v : Json) : Prop :=
  ∀ rs, v.member? "rules" = some (.obj rs) → (rs.map Prod.fst).Nodup

theorem Before.asymm {v : Json} (hv : RulesApart v) {a b : List Place} (h : Before v a b) :
    ¬Before v b a := by
  have hknown : knownMembers.Nodup := by decide
  intro h'
  cases h with
  | member h =>
    have hne := hknown.sublist h
    cases h' with
    | member h' => exact sublist_pair_asymm hknown h h'
    | rule => simp at hne
    | within h' =>
      cases h'.keys
      simp at hne
  | @rule rs x y a b hrs h =>
    have hne := (hv rs hrs).sublist h
    cases h' with
    | member h' => simpa using hknown.sublist h'
    | @rule rs' _ _ _ _ hrs' h' =>
      cases hrs.symm.trans hrs'
      exact sublist_pair_asymm (hv rs hrs) h h'
    | within h' =>
      cases h'.tail.keys
      simp at hne
  | within h =>
    cases h' with
    | member h' =>
      cases h.keys
      simpa using hknown.sublist h'
    | rule hrs h' =>
      cases h.tail.keys
      simpa using (hv _ hrs).sublist h'
    | within h' => exact h.asymm h'

structure MemberCheck where
  name : String
  optional : Bool
  issues : Json → List Issue

def checks : List MemberCheck := [
  ⟨"name", false, fun v => (Checked.text v).issues⟩,
  ⟨"rules", false, fun v => (Checked.mapping Rule.decode v).issues⟩,
  ⟨"extras", true, fun v => (Checked.tuple Rule.decode v).issues⟩,
  ⟨"conflicts", true, fun v => (Checked.tuple (Checked.tuple Checked.text) v).issues⟩,
  ⟨"precedences", true, fun v => (Checked.tuple (Checked.tuple Rule.decode) v).issues⟩,
  ⟨"externals", true, fun v => (Checked.tuple Rule.decode v).issues⟩,
  ⟨"inline", true, fun v => (Checked.tuple Checked.text v).issues⟩,
  ⟨"supertypes", true, fun v => (Checked.tuple Checked.text v).issues⟩,
  ⟨"word", true, fun v => (Checked.nullable Checked.text v).issues⟩]

theorem checks_names : checks.map MemberCheck.name = knownMembers := rfl

theorem issues_decode (ms : List (String × Json)) : (decode (.obj ms)).issues =
    checks.flatMap fun c => Checked.memberIssues ms c.name c.optional c.issues := by
  simp [decode, Checked.object, checks, Checked.issues_required, Checked.issues_defaulted]

/-- A document tells of an unknown kind just where there is one. -/
theorem tellsStrange_decode {v : Json} {p : List Place} {tag : Option String} :
    TellsStrange (decode v).issues p tag ↔ ∃ w, Visits v p w ∧ Rule.Strange w tag := by
  have hrule {v : Json} {q : List Place} : TellsStrange (Rule.decode v).issues q tag ↔
      ∃ w, Rule.Visits v q w ∧ Rule.Strange w tag := Rule.mem_issues_strange_iff
  cases v with
  | obj ms =>
    simp only [issues_decode, tellsStrange_flatMap, tellsStrange_memberIssues]
    constructor
    · rintro ⟨c, hc, v, q, hv, rfl, h⟩
      simp only [checks, List.mem_cons, List.not_mem_nil, or_false] at hc
      rcases hc with rfl | rfl | rfl | rfl | rfl | rfl | rfl | rfl | rfl
      case inr.inl =>
        obtain ⟨rs, m, q, rfl, hm, rfl, hq⟩ := tellsStrange_mapping.mp h
        obtain ⟨w, hvisit, hw⟩ := hrule.mp hq
        exact ⟨w, .rule hv hm hvisit, hw⟩
      case inr.inr.inr.inr.inl =>
        obtain ⟨us, m, u, _, rfl, hu, rfl, hitem⟩ := tellsStrange_tuple.mp h
        obtain ⟨vs, n, v, q, rfl, hvn, rfl, hq⟩ := tellsStrange_tuple.mp hitem
        obtain ⟨w, hvisit, hw⟩ := hrule.mp hq
        exact ⟨w, .precedence hv hu hvn hvisit, hw⟩
      case inr.inr.inl | inr.inr.inr.inr.inr.inl =>
        obtain ⟨vs, n, v, q, rfl, hvn, rfl, hq⟩ := tellsStrange_tuple.mp h
        obtain ⟨w, hvisit, hw⟩ := hrule.mp hq
        exact ⟨w, .listed (by simp) hv hvn hvisit, hw⟩
      -- The others hold no rules.
      all_goals exact absurd h (by simp [tellsStrange_tuple, not_tellsStrange_text,
        not_tellsStrange_nullableText])
    · rintro ⟨w, hvisit, hw⟩
      cases hvisit with
      | rule hrs hm hvisit =>
        refine ⟨⟨"rules", false, fun v => (Checked.mapping Rule.decode v).issues⟩, by simp [checks],
          _, _, hrs, rfl, tellsStrange_mapping.mpr ⟨_, _, _, rfl, hm, rfl, hrule.mpr ⟨w, hvisit, hw⟩⟩⟩
      | @listed _ key _ _ _ _ _ hkey hvs hv hvisit =>
        refine ⟨⟨key, true, fun v => (Checked.tuple Rule.decode v).issues⟩, ?_, _, _, hvs, rfl,
          tellsStrange_tuple.mpr ⟨_, _, _, _, rfl, hv, rfl, hrule.mpr ⟨w, hvisit, hw⟩⟩⟩
        rcases List.mem_pair.mp hkey with rfl | rfl <;> simp [checks]
      | precedence hus hvs hv hvisit =>
        have hitem := tellsStrange_tuple.mpr ⟨_, _, _, _, rfl, hv, rfl, hrule.mpr ⟨w, hvisit, hw⟩⟩
        exact ⟨⟨"precedences", true, fun v => (Checked.tuple (Checked.tuple Rule.decode) v).issues⟩,
          by simp [checks], _, _, hus, rfl, tellsStrange_tuple.mpr ⟨_, _, _, _, rfl, hvs, rfl, hitem⟩⟩
  | _ =>
    refine iff_of_false (not_tellsStrange (by simp [decode, Checked.object, Fault.strangeTag?])) ?_
    rintro ⟨w, hvisit, -⟩
    cases hvisit

/-- Only the rules are not looked at by index. -/
theorem inOrder_check {c : MemberCheck} (hc : c ∈ checks) (hname : c.name ≠ "rules") (v : Json) :
    Rule.InOrder (c.issues v) := by
  have htext (v : Json) : Rule.InOrder (Checked.text v).issues := (Rule.isSimple_text v).inOrder
  simp only [checks, List.mem_cons, List.not_mem_nil, or_false] at hc
  rcases hc with rfl | rfl | rfl | rfl | rfl | rfl | rfl | rfl | rfl
  · exact htext v
  · exact absurd rfl hname
  · exact Rule.inOrder_tuple Rule.inOrder_issues v
  · exact Rule.inOrder_tuple (Rule.inOrder_tuple htext) v
  · exact Rule.inOrder_tuple (Rule.inOrder_tuple Rule.inOrder_issues) v
  · exact Rule.inOrder_tuple Rule.inOrder_issues v
  · exact Rule.inOrder_tuple htext v
  · exact Rule.inOrder_tuple htext v
  · exact (Rule.isSimple_nullableText v).inOrder

/-- Faults of the rules are in order: those of one rule are, and rules are read one after another. -/
theorem before_rules {v u : Json} (hu : v.member? "rules" = some u) :
    ((Checked.mapping Rule.decode u).issues.map (Issue.under (.key "rules"))).Pairwise
      fun i j => Before v i.path j.path := by
  cases u with
  | obj rs =>
    rw [List.pairwise_map, Checked.mapping, Checked.issues_eachMember, List.pairwise_flatMap]
    constructor
    · intro m _
      exact List.pairwise_map.mpr
        ((Rule.inOrder_issues m.2).imp fun h => .within (.step (.step h)))
    · refine List.pairwise_iff_forall_sublist.mpr fun {m n} hmn i hi j hj => ?_
      obtain ⟨i, _, rfl⟩ := List.mem_map.mp hi
      obtain ⟨j, _, rfl⟩ := List.mem_map.mp hj
      exact .rule hu (hmn.map Prod.fst)
  | _ => exact List.pairwise_singleton _ _

/-- The faults of a document are told in the order of their places. -/
theorem before_decode (v : Json) :
    (decode v).issues.Pairwise fun i j => Before v i.path j.path := by
  cases v with
  | obj ms =>
    rw [issues_decode, List.pairwise_flatMap]
    constructor
    · intro c hc
      unfold Checked.memberIssues
      split
      · next u hu =>
        by_cases hname : c.name = "rules"
        · simp only [checks, List.mem_cons, List.not_mem_nil, or_false] at hc
          rcases hc with rfl | rfl | rfl | rfl | rfl | rfl | rfl | rfl | rfl
          case inr.inl => exact before_rules hu
          all_goals exact absurd hname (by decide)
        · exact List.pairwise_map.mpr
            ((inOrder_check hc hname u).imp fun h => .within (.step h))
      · split
        · exact .nil
        · exact List.pairwise_singleton _ _
    · refine List.pairwise_iff_forall_sublist.mpr fun {c d} hcd i hi j hj => ?_
      obtain ⟨a, ha⟩ := Rule.path_of_mem_memberIssues hi
      obtain ⟨b, hb⟩ := Rule.path_of_mem_memberIssues hj
      rw [ha, hb]
      exact .member (checks_names ▸ hcd.map MemberCheck.name)
  | _ => exact List.pairwise_singleton _ _

end Grammar

/-- The keys and indices of a path. The labels between them are no steps into the document. -/
def trail (p : List Place) : List Place :=
  p.filter fun
    | .branch _ => false
    | _ => true

/-- What keys and indices lead to. -/
def Json.follow : List Place → Json → Option Json
  | [], v => some v
  | .key name :: p, v => (v.member? name).bind (follow p)
  | .index n :: p, .arr vs => vs[n]?.bind (follow p)
  | _, _ => none

def joined (base : String) (p : List Place) : String := "/".intercalate (base :: p.map Place.text)

@[simp]
theorem trail_key (name : String) (p : List Place) : trail (.key name :: p) = .key name :: trail p :=
  rfl

@[simp]
theorem trail_index (n : Nat) (p : List Place) : trail (.index n :: p) = .index n :: trail p := rfl

@[simp]
theorem trail_branch (label : String) (p : List Place) : trail (.branch label :: p) = trail p := rfl

/-- The keys and indices of a place lead to what is there. -/
theorem Rule.Visits.follow {v w : Json} {p : List Place} (h : Visits v p w) :
    v.follow (trail p) = some w := by
  induction h with
  | root v => rfl
  | content _ _ hv _ ih => simp [Json.follow, Json.member?, hv, ih]
  | member _ _ hvs hv _ ih => simp [Json.follow, Json.member?, hvs, hv, ih]

theorem Grammar.Visits.follow {v w : Json} {p : List Place} (h : Visits v p w) (hv : RulesApart v) :
    v.follow (trail p) = some w := by
  cases h with
  | rule hrs hm h =>
    simp [Json.follow, Json.member?, hrs, lookup_of_mem (hv _ hrs) hm, h.follow]
  | listed _ hvs hn h => simp [Json.follow, Json.member?, hvs, hn, h.follow]
  | precedence hus hvs hn h => simp [Json.follow, Json.member?, hus, hvs, hn, h.follow]

theorem isRuleTag_tag (k : RuleKind) : isRuleTag k.tag = true := by
  rw [isRuleTag, Rule.ofTag?_tag]
  rfl

/-- A number is no tag: no tag is made of digits alone. -/
theorem isRuleTag_index (n : Nat) : isRuleTag (Place.index n).text = false := by
  rw [Bool.eq_false_iff]
  intro h
  obtain ⟨k, hk⟩ := Option.isSome_iff_exists.mp h
  have hdigits : k.tag.toList.all Char.isDigit = true := by
    rw [← Rule.tag_of_ofTag? hk, List.all_eq_true]
    simpa [Place.text] using fun c => Nat.isDigit_of_mem_toDigits (by decide) (by decide)
  have hword : k.tag.toList.all Char.isDigit = false := by
    cases k <;> rfl
  exact nomatch hword.symm.trans hdigits

def LabelledByTags (p : List Place) : Prop := ∀ label, .branch label ∈ p → isRuleTag label = true

@[simp]
theorem labelledByTags_key {name : String} {p : List Place} :
    LabelledByTags (.key name :: p) ↔ LabelledByTags p := by
  simp [LabelledByTags]

@[simp]
theorem labelledByTags_index {n : Nat} {p : List Place} :
    LabelledByTags (.index n :: p) ↔ LabelledByTags p := by
  simp [LabelledByTags]

theorem LabelledByTags.branch {k : RuleKind} {p : List Place} (h : LabelledByTags p) :
    LabelledByTags (.branch k.tag :: p) := by
  intro label hlabel
  rcases List.mem_cons.mp hlabel with he | hlabel
  · rw [Place.branch.inj he]
    exact isRuleTag_tag k
  · exact h label hlabel

def untagged (p : List Place) : List Place := p.filter fun s => !isRuleTag s.text

@[simp]
theorem untagged_index (n : Nat) (p : List Place) : untagged (.index n :: p) = .index n :: untagged p := by
  simp [untagged, isRuleTag_index]

theorem untagged_key (name : String) (p : List Place) : untagged (.key name :: p) =
    if isRuleTag name then untagged p else .key name :: untagged p := by
  cases h : isRuleTag name <;> simp [untagged, Place.text, h]

theorem untagged_key_of_not {name : String} (h : isRuleTag name = false) (p : List Place) :
    untagged (.key name :: p) = .key name :: untagged p := by
  rw [untagged_key, h, if_neg Bool.false_ne_true]

/-- What is told of a path is its keys and indices without those that are spelt like a tag. -/
theorem locate_eq {p : List Place} (h : LabelledByTags p) (base : String) :
    locate base p = joined base (untagged (trail p)) := by
  rw [locate, joined, untagged, trail, List.filter_map, List.filter_filter]
  congr 3
  refine List.filter_congr fun s hs => ?_
  cases s with
  | branch label => simp [Place.text, h label hs]
  | _ => simp

/-- Within a rule, labels are tags and no step is spelt like one. -/
theorem Rule.Visits.labels {v w : Json} {p : List Place} (h : Visits v p w) :
    LabelledByTags p ∧ untagged (trail p) = trail p := by
  have hcontent : isRuleTag "content" = false := by decide
  have hmembers : isRuleTag "members" = false := by decide
  induction h with
  | root v => exact ⟨nofun, rfl⟩
  | content _ _ _ _ ih =>
    refine ⟨.branch (labelledByTags_key.mpr ih.1), ?_⟩
    rw [trail_branch, trail_key, untagged_key_of_not hcontent, ih.2]
  | member _ _ _ _ _ ih =>
    refine ⟨.branch (labelledByTags_key.mpr (labelledByTags_index.mpr ih.1)), ?_⟩
    rw [trail_branch, trail_key, trail_index, untagged_key_of_not hmembers, untagged_index, ih.2]

/-- What is told of a path into a document. Tags also stand between the keys of a path, so what is spelt like
a tag is left out, and with it the name of a rule that is spelt so. -/
def Grammar.told : List Place → List Place
  | s :: .key name :: p =>
    if s = .key "rules" ∧ isRuleTag name = true then s :: p else s :: .key name :: p
  | p => p

theorem Grammar.Visits.labels {v w : Json} {p : List Place} (h : Visits v p w) :
    LabelledByTags p ∧ untagged (trail p) = told (trail p) := by
  have hrules : isRuleTag "rules" = false := by decide
  have hprecedences : isRuleTag "precedences" = false := by decide
  cases h with
  | rule _ _ h =>
    refine ⟨by simp [h.labels.1], ?_⟩
    rw [trail_key, trail_key, untagged_key_of_not hrules, untagged_key, h.labels.2, told]
    split <;> simp [*]
  | @listed _ key _ _ _ _ _ hkey _ _ h =>
    have hkey : isRuleTag key = false := by
      rcases List.mem_pair.mp hkey with rfl | rfl <;> decide
    refine ⟨by simp [h.labels.1], ?_⟩
    rw [trail_key, trail_index, untagged_key_of_not hkey, untagged_index, h.labels.2]
    rfl
  | precedence _ _ _ h =>
    refine ⟨by simp [h.labels.1], ?_⟩
    rw [trail_key, trail_index, trail_index, untagged_key_of_not hprecedences, untagged_index,
      untagged_index, h.labels.2]
    rfl

theorem length_joined_cons (base : String) (s : Place) (p : List Place) :
    (joined base (s :: p)).length = base.length + 1 + (joined s.text p).length := by
  have hslash : "/".length = 1 := by decide
  simp [joined, String.intercalate_cons_cons, String.length_append, hslash]

/-- A path that is left out shows in the length of the whole. -/
theorem length_joined (base : String) (p : List Place) :
    (joined base p).length = base.length + (joined "" p).length := by
  cases p with
  | nil => simp [joined]
  | cons s p =>
    simp only [length_joined_cons, String.length_empty]
    omega

/-- A path is told in full unless it passes a rule with a name that is spelt like a tag. -/
theorem Grammar.joined_told_iff {base : String} {p : List Place} :
    joined base (told p) = joined base p ↔
      ∀ name rest, p = .key "rules" :: .key name :: rest → isRuleTag name = false := by
  constructor
  · rintro h name rest rfl
    by_contra htag
    have hlength := congrArg String.length h
    rw [told, if_pos ⟨rfl, by simpa using htag⟩] at hlength
    simp only [length_joined_cons, length_joined (Place.text _) rest] at hlength
    omega
  · intro h
    unfold told
    split
    · next s name rest =>
      rw [if_neg]
      rintro ⟨rfl, htag⟩
      exact nomatch htag.symm.trans (h name rest rfl)
    · rfl

/-- Where a failure is about an unknown kind, it is the first in order that is told. -/
theorem Failure.first_of_ofIssues {visits : List Place → Json → Prop}
    {before : List Place → List Place → Prop} {issues : List Issue}
    (horder : issues.Pairwise fun i j => before i.path j.path)
    (hstrange : ∀ p tag, TellsStrange issues p tag ↔ ∃ w, visits p w ∧ Rule.Strange w tag)
    {base location : String} {tag : Option String} {malformed : List Issue → Failure}
    (h : ofIssues base malformed issues = .unclassifiableRule tag location)
    (hmalformed : malformed issues ≠ .unclassifiableRule tag location) :
    ∃ p w, Rule.FirstStrange visits before p w tag ∧ location = locate base p := by
  rcases ofIssues_cases horder hstrange base malformed with ⟨p, w, tag', hfirst, he⟩ | ⟨-, he⟩
  · cases he.symm.trans h
    exact ⟨p, w, hfirst, rfl⟩
  · exact absurd (he.symm.trans h) hmalformed

/-- A failure about an unknown kind names the tag of the first object of an unknown kind, and its place.
For a rule, the place is the path of keys and indices that leads to the object. For a document it is
that path too, unless the object belongs to a rule with a name that is spelt like a tag: that name is
left out, and what is told is no longer the path. -/
theorem unclassifiable_located (v : Json) (tag : Option String) (location : String) :
    (∀ base, Rule.ofJson? base v = .error (.unclassifiableRule tag location) →
      ∃! p, ∃ w, Rule.FirstStrange (Rule.Visits v) Rule.Before p w tag ∧
        v.follow (trail p) = some w ∧ location = joined base (trail p)) ∧
    (Grammar.RulesApart v → Grammar.ofJson? v = .error (.unclassifiableRule tag location) →
      ∃! p, ∃ w, Rule.FirstStrange (Grammar.Visits v) (Grammar.Before v) p w tag ∧
        v.follow (trail p) = some w ∧ location = joined "grammar" (Grammar.told (trail p)) ∧
        (location = joined "grammar" (trail p) ↔ ∀ name rest,
          trail p = .key "rules" :: .key name :: rest → isRuleTag name = false)) := by
  constructor
  · intro base h
    obtain ⟨p, w, hfirst, rfl⟩ := Failure.first_of_ofIssues (Rule.inOrder_issues v)
      (fun p tag => Rule.mem_issues_strange_iff) (Checked.of_mapError_toExcept h) nofun
    have hvisit := hfirst.visited
    refine ⟨p, ⟨w, hfirst, hvisit.follow, ?_⟩, fun p' ⟨w', hfirst', _⟩ =>
      hfirst.unique hfirst' fun _ _ => Rule.Before.asymm⟩
    rw [locate_eq hvisit.labels.1, hvisit.labels.2]
  · intro hv h
    obtain ⟨p, w, hfirst, rfl⟩ := Failure.first_of_ofIssues (Grammar.before_decode v)
      (fun p tag => Grammar.tellsStrange_decode) (Checked.of_mapError_toExcept h) nofun
    have hvisit := hfirst.visited
    have htold : locate "grammar" p = joined "grammar" (Grammar.told (trail p)) := by
      rw [locate_eq hvisit.labels.1, hvisit.labels.2]
    exact ⟨p, ⟨w, hfirst, hvisit.follow hv, htold, htold ▸ Grammar.joined_told_iff⟩,
      fun p' ⟨w', hfirst', _⟩ => hfirst.unique hfirst' fun _ _ => Grammar.Before.asymm hv⟩

def strangeMember : Json := .obj [("type", .str "SEQ"), ("members", .arr [.obj [("type", .str "MYSTERY")]])]

def strangeNamesake : Json :=
  .obj [("name", .str "g"), ("rules", .obj [("SEQ", .obj [("type", .str "MYSTERY")])])]

theorem ofJson?_strangeNamesake : Grammar.ofJson? strangeNamesake =
    .error (.unclassifiableRule (some "MYSTERY") "grammar/rules") := by
  have htag : RuleKind.ofTag? "MYSTERY" = none := by decide
  simp [Grammar.ofJson?, strangeNamesake, Grammar.decode, Rule.decode, lookup, htag,
    Checked.object, Checked.required, Checked.defaulted, Checked.mapping, Checked.eachMember]
  rfl

/-- A member of an unknown kind is found by what is told; a rule that is named like a tag is not. -/
theorem strange_member_located_namesake_not :
    (∃! p, ∃ w, Rule.FirstStrange (Rule.Visits strangeMember) Rule.Before p w (some "MYSTERY") ∧
      strangeMember.follow (trail p) = some w ∧ "start/members/0" = joined "start" (trail p)) ∧
    ∃ p w, Rule.FirstStrange (Grammar.Visits strangeNamesake) (Grammar.Before strangeNamesake) p w
        (some "MYSTERY") ∧
      strangeNamesake.follow (trail p) = some w ∧ "grammar/rules" ≠ joined "grammar" (trail p) := by
  have hmember : Rule.ofJson? "start" strangeMember =
      .error (.unclassifiableRule (some "MYSTERY") "start/members/0") := by
    have htag : RuleKind.ofTag? "MYSTERY" = none := by decide
    have hseq : RuleKind.ofTag? "SEQ" = some .seq := by decide
    simp [Rule.ofJson?, strangeMember, Rule.decode, lookup, hseq, htag, Rule.decodeAs,
      Rule.decodeMembers_eq, Checked.required, Checked.tuple, Checked.each, Checked.eachFrom]
    rfl
  refine ⟨(unclassifiable_located _ _ _).1 _ hmember, ?_⟩
  have hapart : Grammar.RulesApart strangeNamesake := by
    intro rs hrs
    cases hrs
    decide
  obtain ⟨p, ⟨w, hfirst, hfollow, htold, hiff⟩, -⟩ :=
    (unclassifiable_located _ _ _).2 hapart ofJson?_strangeNamesake
  refine ⟨p, w, hfirst, hfollow, fun he => ?_⟩
  cases hfirst.visited with
  | rule hrs hm =>
    cases hrs
    cases List.mem_singleton.mp hm
    exact absurd (hiff.mp he _ _ rfl) (by decide)
  | listed hkey hvs =>
    rcases List.mem_pair.mp hkey with rfl | rfl <;> cases hvs
  | precedence hus => cases hus

/-- What is told leads to the table of rules, and the object of an unknown kind is one step on. -/
theorem namesake_misplaced :
    Grammar.ofJson? strangeNamesake = .error (.unclassifiableRule (some "MYSTERY") "grammar/rules") ∧
    strangeNamesake.follow [.key "rules"] = some (.obj [("SEQ", .obj [("type", .str "MYSTERY")])]) ∧
    ∃ w, strangeNamesake.follow [.key "rules", .key "SEQ"] = some w ∧ Rule.Strange w (some "MYSTERY") := by
  refine ⟨ofJson?_strangeNamesake, rfl, _, rfl, ?_⟩
  refine Rule.Strange.unknown (t := .str "MYSTERY") rfl fun k hk => ?_
  have htag : k.tag ≠ "MYSTERY" := by cases k <;> decide
  exact htag (Json.str.inj hk).symm

end TraversalSdk
