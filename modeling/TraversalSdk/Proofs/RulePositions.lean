import TraversalSdk.Rule.Failure
import TraversalSdk.Proofs.CheckedFaults
import TraversalSdk.Proofs.SortedLists

namespace TraversalSdk

inductive Expected
  | text
  | nullableText
  | level
  | whole
  | flag
  | rule
  | rules
  deriving DecidableEq

structure Property where
  name : String
  expected : Expected
  optional : Bool
  deriving DecidableEq

def RuleKind.properties : RuleKind → List Property
  | .symbol => [⟨"name", .text, false⟩]
  | .literal => [⟨"value", .text, false⟩]
  | .pattern => [⟨"value", .text, false⟩, ⟨"flags", .nullableText, true⟩]
  | .blank => []
  | .seq | .choice => [⟨"members", .rules, false⟩]
  | .star | .plus | .token | .immediateToken => [⟨"content", .rule, false⟩]
  | .field => [⟨"name", .text, false⟩, ⟨"content", .rule, false⟩]
  | .aliased => [⟨"content", .rule, false⟩, ⟨"named", .flag, false⟩, ⟨"value", .text, false⟩]
  | .prec | .precLeft | .precRight => [⟨"value", .level, false⟩, ⟨"content", .rule, false⟩]
  | .precDynamic => [⟨"value", .whole, false⟩, ⟨"content", .rule, false⟩]

namespace Expected

/-- Whether a value may stand where this is expected. The rules within it have places of their own. -/
def Accepts : Expected → Json → Prop
  | text, v => ∃ s, v = .str s
  | nullableText, v => v = .null ∨ ∃ s, v = .str s
  | level, v => (∃ s, v = .str s) ∨ ∃ n, Checked.whole v = .sound n
  | whole, v => ∃ n, Checked.whole v = .sound n
  | flag, v => ∃ b, Checked.flag v = .sound b
  | rule, _ => True
  | rules, v => ∃ vs, v = .arr vs

def faults : Expected → Json → List Issue
  | text => fun v => (Checked.text v).issues
  | nullableText => fun v => (Checked.nullable Checked.text v).issues
  | level => fun v => (Rule.level v).issues
  | whole => fun v => (Checked.whole v).issues
  | flag => fun v => (Checked.flag v).issues
  | rule => fun _ => []
  | rules => fun
    | .arr _ => []
    | _ => [⟨[], .notTuple⟩]

end Expected

namespace Rule

def HasKind (ms : List (String × Json)) (k : RuleKind) : Prop := lookup "type" ms = some (.str k.tag)

/-- The places where a rule is looked for, each with the path to it. -/
inductive Visits : Json → List Place → Json → Prop
  | root (v : Json) : Visits v [] v
  | content {ms : List (String × Json)} {k : RuleKind} {v w : Json} {p : List Place}
      (hk : HasKind ms k) (hc : k.hasContent = true) (hv : lookup "content" ms = some v)
      (h : Visits v p w) : Visits (.obj ms) (.branch k.tag :: .key "content" :: p) w
  | member {ms : List (String × Json)} {k : RuleKind} {vs : List Json} {n : Nat} {v w : Json}
      {p : List Place} (hk : HasKind ms k) (hm : k.hasMembers = true)
      (hvs : lookup "members" ms = some (.arr vs)) (hv : vs[n]? = some v) (h : Visits v p w) :
      Visits (.obj ms) (.branch k.tag :: .key "members" :: .index n :: p) w

/-- An object that says nothing, or nothing known, of its kind. -/
inductive Strange : Json → Option String → Prop
  | absent {ms : List (String × Json)} (h : lookup "type" ms = none) : Strange (.obj ms) none
  | unknown {ms : List (String × Json)} {t : Json} (h : lookup "type" ms = some t)
      (hk : ∀ k : RuleKind, t ≠ .str k.tag) : Strange (.obj ms) (some t.plain)

/-- What is wrong at a place by itself, told from that place. -/
inductive DefectAt : Json → Issue → Prop
  | notRule {v : Json} (h : ∀ ms, v ≠ .obj ms) : DefectAt v ⟨[], .notRule⟩
  | tagAbsent {v : Json} (h : Strange v none) : DefectAt v ⟨[], .tagAbsent⟩
  | tagUnknown {v : Json} {tag : String} (h : Strange v (some tag)) : DefectAt v ⟨[], .tagUnknown tag⟩
  | missing {ms : List (String × Json)} {k : RuleKind} {p : Property} (hk : HasKind ms k)
      (hp : p ∈ k.properties) (hrequired : p.optional = false) (h : lookup p.name ms = none) :
      DefectAt (.obj ms) ⟨[.branch k.tag, .key p.name], .missing⟩
  | illTyped {ms : List (String × Json)} {k : RuleKind} {p : Property} {v : Json} {i : Issue}
      (hk : HasKind ms k) (hp : p ∈ k.properties) (hv : lookup p.name ms = some v)
      (hi : i ∈ p.expected.faults v) :
      DefectAt (.obj ms) ((i.under (.key p.name)).under (.branch k.tag))

/-- What is wrong at any place of a rule, told from its root. -/
def IsDefect (v : Json) (i : Issue) : Prop :=
  ∃ p w j, Visits v p w ∧ DefectAt w j ∧ i = ⟨p ++ j.path, j.fault⟩

/-- A place is as it should be: an object of a known kind with all properties that it needs, and none
of another type. -/
def WellFormed (v : Json) : Prop :=
  ∃ ms k, v = .obj ms ∧ HasKind ms k ∧ ∀ p ∈ k.properties,
    (∀ w, lookup p.name ms = some w → p.expected.Accepts w) ∧
      (lookup p.name ms = none → p.optional = true)

def Sound (v : Json) : Prop := ∀ p w, Visits v p w → WellFormed w

/-- The order of places: properties as their kind lists them, members by index, and the whole number
before the text that a precedence could have been. -/
inductive Before : List Place → List Place → Prop
  | property {k : RuleKind} {p q : Property} {a b : List Place}
      (h : [p, q].Sublist k.properties) :
      Before (.branch k.tag :: .key p.name :: a) (.branch k.tag :: .key q.name :: b)
  | item {m n : Nat} {a b : List Place} (h : m < n) : Before (.index m :: a) (.index n :: b)
  | alternative {a b : List Place} : Before (.branch "int" :: a) (.branch "str" :: b)
  | step {s : Place} {a b : List Place} (h : Before a b) : Before (s :: a) (s :: b)

theorem ofTag?_tag (k : RuleKind) : RuleKind.ofTag? k.tag = some k := by
  cases k <;> rfl

theorem tag_of_ofTag? {s : String} {k : RuleKind} (h : RuleKind.ofTag? s = some k) : s = k.tag := by
  have hk := List.find?_some h
  exact (eq_of_beq hk).symm

/-- An object is of one kind at most. -/
theorem HasKind.unique {ms : List (String × Json)} {k k' : RuleKind} (h : HasKind ms k)
    (h' : HasKind ms k') : k = k' := by
  have htag : k.tag = k'.tag := Json.str.inj (Option.some.inj (h.symm.trans h'))
  exact Option.some.inj ((ofTag?_tag k).symm.trans (htag ▸ ofTag?_tag k'))

theorem Strange.not_hasKind {ms : List (String × Json)} {tag : Option String} {k : RuleKind}
    (h : Strange (.obj ms) tag) : ¬HasKind ms k := by
  intro hk
  cases h with
  | absent h => exact nomatch h.symm.trans hk
  | unknown h hne => exact hne k (Option.some.inj (h.symm.trans hk))

theorem Strange.unique {v : Json} {tag tag' : Option String} (h : Strange v tag)
    (h' : Strange v tag') : tag = tag' := by
  cases h with
  | absent h =>
    cases h' with
    | absent _ => rfl
    | unknown h' _ => exact nomatch h.symm.trans h'
  | unknown h _ =>
    cases h' with
    | absent h' => exact nomatch h.symm.trans h'
    | unknown h' _ => rw [Option.some.inj (h.symm.trans h')]

/-- A value is no object, or an object of an unknown kind, or one of a known kind. -/
theorem object_cases (v : Json) : (∀ ms, v ≠ .obj ms) ∨ (∃ tag, Strange v tag) ∨
    ∃ ms k, v = .obj ms ∧ HasKind ms k := by
  cases v with
  | obj ms =>
    right
    cases h : lookup "type" ms with
    | none => exact .inl ⟨_, .absent h⟩
    | some t =>
      by_cases hk : ∃ k : RuleKind, t = .str k.tag
      · obtain ⟨k, rfl⟩ := hk
        exact .inr ⟨ms, k, rfl, h⟩
      · exact .inl ⟨_, .unknown h fun k ht => hk ⟨k, ht⟩⟩
  | _ => exact .inl nofun

/-- What it means of two first steps that one path comes before another. -/
theorem Before.cons_cases {s t : Place} {a b : List Place} (h : Before (s :: a) (t :: b)) :
    (s = t ∧ Before a b) ∨ (∃ m n, s = .index m ∧ t = .index n ∧ m < n) ∨
      (s = .branch "int" ∧ t = .branch "str") ∨
      ∃ k p q a' b', s = .branch (RuleKind.tag k) ∧ t = .branch k.tag ∧ a = .key p.name :: a' ∧
        b = .key q.name :: b' ∧ [p, q].Sublist k.properties := by
  generalize hx : s :: a = x at h
  generalize hy : t :: b = y at h
  cases h with
  | property h =>
    cases hx
    cases hy
    exact .inr (.inr (.inr ⟨_, _, _, _, _, rfl, rfl, rfl, rfl, h⟩))
  | item h =>
    cases hx
    cases hy
    exact .inr (.inl ⟨_, _, rfl, rfl, h⟩)
  | alternative =>
    cases hx
    cases hy
    exact .inr (.inr (.inl ⟨rfl, rfl⟩))
  | step h =>
    cases hx
    cases hy
    exact .inl ⟨rfl, h⟩

theorem Before.keys {x y : String} {a b : List Place} (h : Before (.key x :: a) (.key y :: b)) :
    x = y := by
  rcases h.cons_cases with ⟨hs, _⟩ | ⟨m, n, hs, _⟩ | ⟨hs, _⟩ | ⟨_, _, _, _, _, hs, _⟩
  · exact Place.key.inj hs
  all_goals cases hs

theorem Before.tail {x : String} {a b : List Place} (h : Before (.key x :: a) (.key x :: b)) :
    Before a b := by
  rcases h.cons_cases with ⟨_, h⟩ | ⟨m, n, hs, _⟩ | ⟨hs, _⟩ | ⟨_, _, _, _, _, hs, _⟩
  · exact h
  all_goals cases hs

/-- The properties of a kind have different names, so their order is strict. -/
theorem properties_apart (k : RuleKind) : (k.properties.map Property.name).Nodup := by
  cases k <;> decide

theorem Before.properties {k : RuleKind} {p q : Property} (h : [p, q].Sublist k.properties) :
    p.name ≠ q.name := by
  have hnames := (properties_apart k).sublist (h.map Property.name)
  simpa using hnames

/-- No path is before another and behind it. -/
theorem Before.asymm {a b : List Place} (h : Before a b) : ¬Before b a := by
  induction a generalizing b with
  | nil => exact nomatch h
  | cons s a ih =>
    intro h'
    cases b with
    | nil => exact nomatch h
    | cons t b =>
      have hwords : Place.branch "int" ≠ Place.branch "str" := by simp
      rcases h.cons_cases with ⟨rfl, hab⟩ | ⟨m, n, rfl, rfl, hmn⟩ | ⟨rfl, rfl⟩ |
          ⟨k, p, q, a', b', rfl, rfl, rfl, rfl, hpq⟩ <;>
        rcases h'.cons_cases with ⟨hs, hba⟩ | ⟨m', n', hs, ht, hmn'⟩ | ⟨hs, ht⟩ |
          ⟨k', q', p', b'', a'', hs, ht, hb, ha, hpq'⟩
      case inl.inl => exact ih hab hba
      case inl.inr.inl =>
        cases Place.index.inj (hs.symm.trans ht)
        exact Nat.lt_irrefl _ hmn'
      case inl.inr.inr.inl | inr.inr.inr.inr.inr.inl => exact hwords (hs.symm.trans ht)
      case inl.inr.inr.inr =>
        subst ha hb
        exact properties hpq' hab.keys.symm
      case inr.inl.inl =>
        cases Place.index.inj hs
        exact Nat.lt_irrefl _ hmn
      case inr.inl.inr.inl =>
        cases Place.index.inj hs
        cases Place.index.inj ht
        exact Nat.lt_asymm hmn hmn'
      case inr.inr.inl.inl => exact hwords hs.symm
      case inr.inr.inl.inr.inr.inl => exact hwords hs.symm
      case inr.inr.inl.inr.inr.inr => exact hwords (ht.trans hs.symm)
      case inr.inr.inr.inl => exact properties hpq hba.keys.symm
      case inr.inr.inr.inr.inr.inr =>
        have hk : k = k' := by
          have htag := congrArg RuleKind.ofTag? (Place.branch.inj hs)
          simpa only [ofTag?_tag, Option.some.injEq] using htag
        subst hk
        have hp : p.name = p'.name := Place.key.inj (List.cons.inj ha).1
        have hq : q.name = q'.name := Place.key.inj (List.cons.inj hb).1
        have hnames := hpq'.map Property.name
        simp only [List.map_cons, List.map_nil, ← hp, ← hq] at hnames
        exact sublist_pair_asymm (properties_apart k) (hpq.map Property.name) hnames
      all_goals cases hs

theorem decodeEach_eq (i : Nat) (vs : List Json) :
    decodeEach i vs = Checked.eachFrom decode i vs := by
  induction vs generalizing i with
  | nil => rw [decodeEach, Checked.eachFrom]
  | cons v vs ih => rw [decodeEach, Checked.eachFrom, ih]

theorem decodeContent_eq (ms : List (String × Json)) :
    decodeContent ms = Checked.required "content" decode ms := by
  rw [decodeContent, Checked.required]
  split <;> simp only [*]

theorem decodeMembers_eq (ms : List (String × Json)) :
    decodeMembers ms = Checked.required "members" (Checked.tuple decode) ms := by
  rw [decodeMembers, Checked.required]
  split
  · next vs h => simp only [h, Checked.tuple, Checked.each, decodeEach_eq]
  · next v hne h =>
    cases v with
    | arr vs => exact absurd h (by simpa using hne vs)
    | _ => simp only [h, Checked.tuple]
  · next h => simp only [h]

def issuesOf : Expected → Json → List Issue
  | .rule => fun v => (decode v).issues
  | .rules => fun v => (Checked.tuple decode v).issues
  | e => e.faults

def propertyIssues (ms : List (String × Json)) (p : Property) : List Issue :=
  Checked.memberIssues ms p.name p.optional (issuesOf p.expected)

/-- A known kind tells what is wrong with its properties, one after another. -/
theorem issues_decodeAs (k : RuleKind) (ms : List (String × Json)) :
    (decodeAs k ms).issues = k.properties.flatMap (propertyIssues ms) := by
  cases k <;>
    simp [decodeAs, RuleKind.properties, propertyIssues, issuesOf, Expected.faults,
      decodeContent_eq, decodeMembers_eq, Checked.issues_required, Checked.issues_defaulted]

theorem issues_of_notObject {v : Json} (h : ∀ ms, v ≠ .obj ms) :
    (decode v).issues = [⟨[], .notRule⟩] := by
  cases v with
  | obj ms => exact absurd rfl (h ms)
  | _ => simp [decode]

theorem issues_of_absent {v : Json} (h : Strange v none) : (decode v).issues = [⟨[], .tagAbsent⟩] := by
  cases h with
  | absent h => simp [decode, h]

theorem issues_of_unknown {v : Json} {tag : String} (h : Strange v (some tag)) :
    (decode v).issues = [⟨[], .tagUnknown tag⟩] := by
  cases h with
  | @unknown ms t h hk =>
    cases t with
    | str s =>
      have hs : RuleKind.ofTag? s = none := by
        cases hs : RuleKind.ofTag? s with
        | none => rfl
        | some k => exact absurd (congrArg Json.str (tag_of_ofTag? hs)) (hk k)
      simp [decode, h, hs, Json.plain]
    | _ => simp [decode, h]

/-- What is wrong with an object of a known kind is told in the order of its properties, under its tag. -/
theorem issues_of_hasKind {ms : List (String × Json)} {k : RuleKind} (h : HasKind ms k) :
    (decode (.obj ms)).issues =
      (k.properties.flatMap (propertyIssues ms)).map (Issue.under (.branch k.tag)) := by
  have hk : lookup "type" ms = some (.str k.tag) := h
  rw [decode, hk]
  simp only [ofTag?_tag, Checked.issues_under, issues_decodeAs]

/-- What holds of a value if it holds of the rules that its object has holds of all values. -/
theorem induction_on_parts {P : Json → Prop}
    (step : ∀ v, (∀ ms w, v = .obj ms → lookup "content" ms = some w → P w) →
      (∀ ms vs w, v = .obj ms → lookup "members" ms = some (.arr vs) → w ∈ vs → P w) → P v)
    (v : Json) : P v := by
  refine step v (fun ms w hv hw => ?_) (fun ms vs w hv hvs hw => ?_)
  · have hlt : sizeOf w < sizeOf v := hv ▸ Json.sizeOf_lookup hw
    exact induction_on_parts step w
  · have hlt : sizeOf w < sizeOf v := by
      have hlookup := hv ▸ Json.sizeOf_lookup hvs
      have hmem := List.sizeOf_lt_of_mem hw
      simp only [Json.arr.sizeOf_spec] at hlookup
      omega
    exact induction_on_parts step w
termination_by sizeOf v

theorem content_property {k : RuleKind} (h : k.hasContent = true) :
    ⟨"content", .rule, false⟩ ∈ k.properties := by
  revert h
  cases k <;> decide

theorem members_property {k : RuleKind} (h : k.hasMembers = true) :
    ⟨"members", .rules, false⟩ ∈ k.properties := by
  revert h
  cases k <;> decide

theorem property_of_rule {k : RuleKind} : ∀ p ∈ k.properties, p.expected = .rule →
    p = ⟨"content", .rule, false⟩ ∧ k.hasContent = true := by
  cases k <;> decide

theorem property_of_rules {k : RuleKind} : ∀ p ∈ k.properties, p.expected = .rules →
    p = ⟨"members", .rules, false⟩ ∧ k.hasMembers = true := by
  cases k <;> decide

/-- What is wrong within a value is wrong with itself or with a rule in it. -/
theorem mem_issuesOf {e : Expected} {v : Json} {i : Issue} : i ∈ issuesOf e v ↔
    i ∈ e.faults v ∨ e = .rule ∧ i ∈ (decode v).issues ∨
      e = .rules ∧ ∃ vs n w, v = .arr vs ∧ vs[n]? = some w ∧
        ∃ j ∈ (decode w).issues, i = j.under (.index n) := by
  cases e with
  | rule => simp [issuesOf, Expected.faults]
  | rules =>
    cases v with
    | arr vs => simp [issuesOf, Expected.faults, Checked.tuple, Checked.mem_each_issues]
    | _ => simp [issuesOf, Expected.faults, Checked.tuple]
  | _ => simp [issuesOf]

/-- What is wrong at the root is wrong with the rule. -/
theorem isDefect_root {v : Json} {i : Issue} (h : DefectAt v i) : IsDefect v i :=
  ⟨[], v, i, .root v, h, rfl⟩

/-- A defect of an object of a known kind is its own, or one of its content, or of a member. -/
theorem isDefect_iff {ms : List (String × Json)} {k : RuleKind} (hk : HasKind ms k) {i : Issue} :
    IsDefect (.obj ms) i ↔ DefectAt (.obj ms) i ∨
      (∃ v j, k.hasContent = true ∧ lookup "content" ms = some v ∧ IsDefect v j ∧
        i = (j.under (.key "content")).under (.branch k.tag)) ∨
      ∃ vs n v j, k.hasMembers = true ∧ lookup "members" ms = some (.arr vs) ∧ vs[n]? = some v ∧
        IsDefect v j ∧ i = ((j.under (.index n)).under (.key "members")).under (.branch k.tag) := by
  constructor
  · rintro ⟨p, w, j, hvisit, hdefect, rfl⟩
    cases hvisit with
    | root => exact .inl hdefect
    | content hk' hc hv hvisit =>
      cases hk.unique hk'
      exact .inr (.inl ⟨_, _, hc, hv, ⟨_, _, _, hvisit, hdefect, rfl⟩, rfl⟩)
    | member hk' hm hvs hv hvisit =>
      cases hk.unique hk'
      exact .inr (.inr ⟨_, _, _, _, hm, hvs, hv, ⟨_, _, _, hvisit, hdefect, rfl⟩, rfl⟩)
  · rintro (h | ⟨v, j, hc, hv, ⟨p, w, j', hvisit, hdefect, rfl⟩, rfl⟩ |
      ⟨vs, n, v, j, hm, hvs, hv, ⟨p, w, j', hvisit, hdefect, rfl⟩, rfl⟩)
    · exact isDefect_root h
    · exact ⟨_, w, j', .content hk hc hv hvisit, hdefect, rfl⟩
    · exact ⟨_, w, j', .member hk hm hvs hv hvisit, hdefect, rfl⟩

/-- Where no kind is known nothing further is looked at. -/
theorem isDefect_iff_of_leaf {v : Json} (h : ∀ ms k, v = .obj ms → ¬HasKind ms k) {i : Issue} :
    IsDefect v i ↔ DefectAt v i := by
  constructor
  · rintro ⟨p, w, j, hvisit, hdefect, rfl⟩
    cases hvisit with
    | root => exact hdefect
    | content hk => exact absurd hk (h _ _ rfl)
    | member hk => exact absurd hk (h _ _ rfl)
  · exact isDefect_root

theorem defectAt_of_notObject {v : Json} (h : ∀ ms, v ≠ .obj ms) {i : Issue} :
    DefectAt v i ↔ i = ⟨[], .notRule⟩ := by
  constructor
  · intro hdefect
    cases hdefect with
    | notRule => rfl
    | tagAbsent h' | tagUnknown h' =>
      cases h'
      exact absurd rfl (h _)
    | _ => exact absurd rfl (h _)
  · rintro rfl
    exact .notRule h

def strangeFault : Option String → Fault
  | none => .tagAbsent
  | some tag => .tagUnknown tag

theorem issues_of_strange {v : Json} {tag : Option String} (h : Strange v tag) :
    (decode v).issues = [⟨[], strangeFault tag⟩] := by
  cases tag with
  | none => exact issues_of_absent h
  | some tag => exact issues_of_unknown h

theorem defectAt_of_strange {v : Json} {tag : Option String} (h : Strange v tag) {i : Issue} :
    DefectAt v i ↔ i = ⟨[], strangeFault tag⟩ := by
  constructor
  · intro hdefect
    cases hdefect with
    | notRule hv => cases h <;> exact absurd rfl (hv _)
    | tagAbsent h' | tagUnknown h' =>
      cases h.unique h'
      rfl
    | missing hk | illTyped hk => exact absurd hk h.not_hasKind
  · rintro rfl
    cases tag with
    | none => exact .tagAbsent h
    | some tag => exact .tagUnknown h

/-- The defects of an object's own properties. -/
theorem defectAt_of_hasKind {ms : List (String × Json)} {k : RuleKind} (hk : HasKind ms k)
    {i : Issue} : DefectAt (.obj ms) i ↔ ∃ p ∈ k.properties, ∃ j,
      j ∈ Checked.memberIssues ms p.name p.optional p.expected.faults ∧ i = j.under (.branch k.tag) := by
  simp only [Checked.mem_memberIssues]
  constructor
  · intro hdefect
    cases hdefect with
    | notRule hv => exact absurd rfl (hv _)
    | tagAbsent h | tagUnknown h => exact absurd hk h.not_hasKind
    | missing hk' hp hrequired h =>
      cases hk.unique hk'
      exact ⟨_, hp, _, .inr ⟨h, hrequired, rfl⟩, rfl⟩
    | illTyped hk' hp hv hi =>
      cases hk.unique hk'
      exact ⟨_, hp, _, .inl ⟨_, hv, _, hi, rfl⟩, rfl⟩
  · rintro ⟨p, hp, j, ⟨v, hv, j', hj, rfl⟩ | ⟨h, hrequired, rfl⟩, rfl⟩
    · exact .illTyped hk hp hv hj
    · exact .missing hk hp hrequired h

/-- Reading tells just what is wrong anywhere. -/
theorem mem_issues_iff (v : Json) (i : Issue) : i ∈ (decode v).issues ↔ IsDefect v i := by
  induction v using induction_on_parts generalizing i with
  | step v hcontent hmembers =>
    rcases object_cases v with h | ⟨tag, h⟩ | ⟨ms, k, rfl, hk⟩
    · rw [issues_of_notObject h, List.mem_singleton,
        isDefect_iff_of_leaf fun ms _ hv => absurd hv (h ms), defectAt_of_notObject h]
    · have hleaf (ms : List (String × Json)) (k : RuleKind) (hv : v = .obj ms) : ¬HasKind ms k :=
        Strange.not_hasKind (hv ▸ h)
      rw [issues_of_strange h, List.mem_singleton, isDefect_iff_of_leaf hleaf, defectAt_of_strange h]
    · rw [isDefect_iff hk, defectAt_of_hasKind hk, issues_of_hasKind hk]
      simp only [List.mem_map, List.mem_flatMap, propertyIssues, Checked.mem_memberIssues]
      constructor
      · rintro ⟨_, ⟨p, hp, ⟨v, hv, j, hj, rfl⟩ | hmissing⟩, rfl⟩
        · rcases mem_issuesOf.mp hj with hj | ⟨he, hj⟩ | ⟨he, vs, n, w, rfl, hw, j', hj', rfl⟩
          · exact .inl ⟨p, hp, _, .inl ⟨v, hv, j, hj, rfl⟩, rfl⟩
          · obtain ⟨rfl, hc⟩ := property_of_rule p hp he
            exact .inr (.inl ⟨v, j, hc, hv, (hcontent ms v rfl hv j).mp hj, rfl⟩)
          · obtain ⟨rfl, hm⟩ := property_of_rules p hp he
            have hmem := List.mem_of_getElem? hw
            exact .inr (.inr ⟨vs, n, w, j', hm, hv, hw, (hmembers ms vs w rfl hv hmem j').mp hj', rfl⟩)
        · exact .inl ⟨p, hp, _, .inr hmissing, rfl⟩
      · rintro (⟨p, hp, j, ⟨v, hv, j', hj, rfl⟩ | hmissing, rfl⟩ | ⟨v, j, hc, hv, hj, rfl⟩ |
          ⟨vs, n, v, j, hm, hvs, hv, hj, rfl⟩)
        · exact ⟨_, ⟨p, hp, .inl ⟨v, hv, j', mem_issuesOf.mpr (.inl hj), rfl⟩⟩, rfl⟩
        · exact ⟨_, ⟨p, hp, .inr hmissing⟩, rfl⟩
        · have hin := (hcontent ms v rfl hv j).mpr hj
          exact ⟨_, ⟨_, content_property hc, .inl ⟨v, hv, j,
            mem_issuesOf.mpr (.inr (.inl ⟨rfl, hin⟩)), rfl⟩⟩, rfl⟩
        · have hin := (hmembers ms vs v rfl hvs (List.mem_of_getElem? hv) j).mpr hj
          exact ⟨_, ⟨_, members_property hm, .inl ⟨.arr vs, hvs, _,
            mem_issuesOf.mpr (.inr (.inr ⟨rfl, vs, n, v, rfl, hv, j, hin, rfl⟩)), rfl⟩⟩, rfl⟩

def InOrder (is : List Issue) : Prop := is.Pairwise fun i j => Before i.path j.path

theorem InOrder.under {is : List Issue} (h : InOrder is) (s : Place) :
    InOrder (is.map (Issue.under s)) :=
  List.pairwise_map.mpr (h.imp .step)

/-- Faults in order are told once each. -/
theorem InOrder.nodup {is : List Issue} (h : InOrder is) : is.Nodup := by
  refine List.Pairwise.imp (fun {i j} hij he => ?_) h
  subst he
  exact hij.asymm hij

theorem inOrder_singleton (i : Issue) : InOrder [i] := List.pairwise_singleton _ _

/-- Items that are each in order are in order one after another. -/
theorem inOrder_each {α : Type} {check : Json → Checked α} {vs : List Json}
    (h : ∀ v ∈ vs, InOrder (check v).issues) : InOrder (Checked.each check vs).issues := by
  have hindices : (vs.zipIdx 0).Pairwise fun p q => p.2 < q.2 := by
    rw [← List.pairwise_map (f := Prod.snd), List.zipIdx_map_snd]
    exact List.pairwise_lt_range'
  rw [Checked.each, Checked.issues_eachFrom, InOrder, List.pairwise_flatMap]
  refine ⟨fun p hp => (h p.1 (List.fst_mem_of_mem_zipIdx hp)).under _, hindices.imp ?_⟩
  intro p q hpq i hi j hj
  obtain ⟨i, _, rfl⟩ := List.mem_map.mp hi
  obtain ⟨j, _, rfl⟩ := List.mem_map.mp hj
  exact .item hpq

theorem inOrder_memberIssues {ms : List (String × Json)} {name : String} {optional : Bool}
    {issues : Json → List Issue} (h : ∀ v, lookup name ms = some v → InOrder (issues v)) :
    InOrder (Checked.memberIssues ms name optional issues) := by
  unfold Checked.memberIssues
  split
  · next v hv => exact (h v hv).under _
  · split
    · exact .nil
    · exact inOrder_singleton _

theorem path_of_mem_memberIssues {ms : List (String × Json)} {name : String} {optional : Bool}
    {issues : Json → List Issue} {i : Issue} (h : i ∈ Checked.memberIssues ms name optional issues) :
    ∃ rest, i.path = .key name :: rest := by
  rcases Checked.mem_memberIssues.mp h with ⟨v, _, j, _, rfl⟩ | ⟨_, _, rfl⟩
  · exact ⟨j.path, rfl⟩
  · exact ⟨[], rfl⟩

def IsSimple {α : Type} (x : Checked α) : Prop :=
  (∃ a, x = .sound a) ∨ ∃ fault : Fault, x = .fail fault ∧ fault.strangeTag? = none

theorem isSimple_text (v : Json) : IsSimple (Checked.text v) := by
  cases v with
  | str s => exact .inl ⟨s, rfl⟩
  | _ => exact .inr ⟨.notText, rfl, rfl⟩

theorem isSimple_nullableText (v : Json) : IsSimple (Checked.nullable Checked.text v) := by
  cases v with
  | null => exact .inl ⟨none, rfl⟩
  | str s => exact .inl ⟨some s, rfl⟩
  | _ => exact .inr ⟨.notText, rfl, rfl⟩

theorem isSimple_flagOfWhole (n : Int) : IsSimple (Checked.flagOfWhole n) := by
  unfold Checked.flagOfWhole
  split
  · exact .inl ⟨false, rfl⟩
  · split
    · exact .inl ⟨true, rfl⟩
    · exact .inr ⟨_, rfl, rfl⟩

theorem isSimple_flag (v : Json) : IsSimple (Checked.flag v) := by
  unfold Checked.flag
  split
  · exact .inl ⟨_, rfl⟩
  · split
    · exact isSimple_flagOfWhole _
    · exact .inr ⟨_, rfl, rfl⟩
  · split
    · exact isSimple_flagOfWhole _
    · exact .inr ⟨_, rfl, rfl⟩
  · split
    · exact .inl ⟨_, rfl⟩
    · exact .inr ⟨_, rfl, rfl⟩
  · exact .inr ⟨_, rfl, rfl⟩

theorem strangeTag?_of_wholeOfReal {x : Binary64} {fault : Fault}
    (h : Checked.wholeOfReal x = .error fault) : fault.strangeTag? = none := by
  unfold Checked.wholeOfReal at h
  split at h
  · split at h
    · cases h
    · cases h
      rfl
  · cases h
    split <;> rfl

/-- A whole number has one fault at most, however it is spelled. -/
theorem isSimple_whole (v : Json) : IsSimple (Checked.whole v) := by
  unfold Checked.whole
  split
  · exact .inl ⟨_, rfl⟩
  · exact .inl ⟨_, rfl⟩
  · split
    · exact .inl ⟨_, rfl⟩
    · next h => exact .inr ⟨_, rfl, strangeTag?_of_wholeOfReal h⟩
  · split
    · exact .inl ⟨_, rfl⟩
    · next refusal _ => exact .inr ⟨_, rfl, by cases refusal <;> rfl⟩
  · exact .inr ⟨_, rfl, rfl⟩

/-- A precedence has no fault, or is neither a whole number nor a text. -/
theorem level_cases (v : Json) : ((level v).issues = [] ∧ Expected.level.Accepts v) ∨
    (¬Expected.level.Accepts v ∧ ∃ fault : Fault, fault.strangeTag? = none ∧
      (level v).issues = [⟨[.branch "int"], fault⟩, ⟨[.branch "str"], .notText⟩]) := by
  unfold level
  split
  · exact .inl ⟨rfl, .inl ⟨_, rfl⟩⟩
  · next hne =>
    rcases isSimple_whole v with ⟨n, hn⟩ | ⟨fault, hfault, hs⟩
    · rw [hn]
      exact .inl ⟨rfl, .inr ⟨n, hn⟩⟩
    · rw [hfault]
      refine .inr ⟨?_, fault, hs, rfl⟩
      rintro (⟨s, rfl⟩ | ⟨n, hn⟩)
      · exact hne s rfl
      · exact absurd (hfault.symm.trans hn) nofun

theorem IsSimple.inOrder {α : Type} {x : Checked α} (h : IsSimple x) : InOrder x.issues := by
  rcases h with ⟨a, rfl⟩ | ⟨fault, rfl, _⟩
  · exact .nil
  · exact inOrder_singleton _

/-- Only a precedence can have two faults by itself, and the whole number is tried first. -/
theorem inOrder_faults (e : Expected) (v : Json) : InOrder (e.faults v) := by
  cases e with
  | text => exact (isSimple_text v).inOrder
  | nullableText => exact (isSimple_nullableText v).inOrder
  | level =>
    rcases level_cases v with ⟨h, _⟩ | ⟨_, fault, _, h⟩ <;> simp only [Expected.faults, h]
    · exact .nil
    · exact List.pairwise_pair.mpr .alternative
  | whole => exact (isSimple_whole v).inOrder
  | flag => exact (isSimple_flag v).inOrder
  | rule => exact .nil
  | rules =>
    cases v with
    | arr vs => exact .nil
    | _ => exact inOrder_singleton _

/-- The faults of a property are in order if those of the rules within it are. -/
theorem inOrder_issuesOf {e : Expected} {v : Json} (hrule : e = .rule → InOrder (decode v).issues)
    (hrules : ∀ vs, e = .rules → v = .arr vs → ∀ w ∈ vs, InOrder (decode w).issues) :
    InOrder (issuesOf e v) := by
  cases e with
  | rule => exact hrule rfl
  | rules =>
    cases v with
    | arr vs => exact inOrder_each (hrules vs rfl rfl)
    | _ => exact inOrder_singleton _
  | _ => simpa only [issuesOf] using inOrder_faults _ v

/-- Reading tells what is wrong in the order of places. -/
theorem inOrder_issues (v : Json) : InOrder (decode v).issues := by
  induction v using induction_on_parts with
  | step v hcontent hmembers =>
    rcases object_cases v with h | ⟨tag, h⟩ | ⟨ms, k, rfl, hk⟩
    · rw [issues_of_notObject h]
      exact inOrder_singleton _
    · rw [issues_of_strange h]
      exact inOrder_singleton _
    · rw [issues_of_hasKind hk, List.map_flatMap, InOrder, List.pairwise_flatMap]
      constructor
      · intro p hp
        refine InOrder.under (inOrder_memberIssues fun w hw => inOrder_issuesOf ?_ ?_) _
        · intro he
          obtain ⟨rfl, _⟩ := property_of_rule p hp he
          exact hcontent ms w rfl hw
        · rintro vs he rfl u hu
          obtain ⟨rfl, _⟩ := property_of_rules p hp he
          exact hmembers ms vs u rfl hw hu
      · refine List.pairwise_iff_forall_sublist.mpr fun {p q} hpq i hi j hj => ?_
        obtain ⟨i', hi', rfl⟩ := List.mem_map.mp hi
        obtain ⟨j', hj', rfl⟩ := List.mem_map.mp hj
        obtain ⟨a, ha⟩ := path_of_mem_memberIssues hi'
        obtain ⟨b, hb⟩ := path_of_mem_memberIssues hj'
        simp only [Issue.under, ha, hb]
        exact .property hpq

end Rule

end TraversalSdk
