import TraversalSdk.Rule.Failure
import TraversalSdk.Proofs.RulePositions

namespace TraversalSdk

/-- A member of an object has a value of which something holds. -/
def Json.Has (v : Json) (name : String) (P : Json → Prop) : Prop := ∃ w, v.member? name = some w ∧ P w

namespace Rule

mutual

/-- A tree has the shape of a value: its kind is the tag, and each property is what the value says. -/
def Mirrors (r : Rule) (v : Json) : Prop :=
  v.Has "type" (· = .str r.kind.tag) ∧ match r with
    | symbol name => v.Has "name" (· = .str name)
    | literal text => v.Has "value" (· = .str text)
    | pattern source flags =>
      v.Has "value" (· = .str source) ∧ (v.member? "flags").getD .null = Json.ofOption .str flags
    | blank => True
    | seq rs => v.Has "members" fun w => ∃ vs, w = .arr vs ∧ MirrorEach rs vs
    | choice rs => v.Has "members" fun w => ∃ vs, w = .arr vs ∧ MirrorEach rs vs
    | star c => v.Has "content" fun w => Mirrors c w
    | plus c => v.Has "content" fun w => Mirrors c w
    | field name c => v.Has "name" (· = .str name) ∧ v.Has "content" fun w => Mirrors c w
    | aliased c named value => (v.Has "content" fun w => Mirrors c w) ∧
      v.Has "named" (Checked.flag · = .sound named) ∧ v.Has "value" (· = .str value)
    | token c => v.Has "content" fun w => Mirrors c w
    | immediateToken c => v.Has "content" fun w => Mirrors c w
    | prec _ level c =>
      v.Has "value" (Rule.level · = .sound level) ∧ v.Has "content" fun w => Mirrors c w
    | precDynamic level c =>
      v.Has "value" (Checked.whole · = .sound level) ∧ v.Has "content" fun w => Mirrors c w

def MirrorEach : List Rule → List Json → Prop
  | [], vs => vs = []
  | r :: rs, vs => ∃ w ws, vs = w :: ws ∧ Mirrors r w ∧ MirrorEach rs ws

end

theorem mirrorEach_of_forall₂ {rs : List Rule} {vs : List Json}
    (h : List.Forall₂ (fun v r => decode v = .sound r) vs rs)
    (hvs : ∀ v ∈ vs, ∀ r, decode v = .sound r → Mirrors r v) : MirrorEach rs vs := by
  induction h with
  | nil => rw [MirrorEach]
  | cons hv _ ih =>
    obtain ⟨hfirst, hrest⟩ := List.forall_mem_cons.mp hvs
    rw [MirrorEach]
    exact ⟨_, _, rfl, hfirst _ hv, ih hrest⟩

theorem text_eq_sound_iff {v : Json} {s : String} : Checked.text v = .sound s ↔ v = .str s := by
  cases v <;> simp [Checked.text]

theorem flags_eq_sound {ms : List (String × Json)} {flags : Option String}
    (h : Checked.defaulted "flags" none (Checked.nullable Checked.text) ms = .sound flags) :
    ((Json.obj ms).member? "flags").getD .null = Json.ofOption .str flags := by
  rw [Json.member?]
  rcases Checked.defaulted_eq_sound_iff.mp h with ⟨hnone, rfl⟩ | ⟨v, hv, h⟩
  · rw [hnone]
    rfl
  · rw [hv]
    rcases Checked.nullable_eq_sound_iff.mp h with ⟨rfl, rfl⟩ | ⟨_, s, hs, rfl⟩
    · rfl
    · exact text_eq_sound_iff.mp hs

/-- The tree that is read has the shape of the value. -/
theorem mirrors_of_decode (v : Json) (r : Rule) (h : decode v = .sound r) : Mirrors r v := by
  induction v using induction_on_parts generalizing r with
  | step v hcontent hmembers =>
    rcases object_cases v with hv | ⟨tag, hv⟩ | ⟨ms, k, rfl, hk⟩
    · have hissues := issues_of_notObject hv
      simp [h] at hissues
    · have hissues := issues_of_strange hv
      simp [h] at hissues
    · have htag : lookup "type" ms = some (.str k.tag) := hk
      have hdecode : decodeAs k ms = .sound r := by
        rw [decode, htag] at h
        simpa only [ofTag?_tag, Checked.under_eq_sound_iff] using h
      have hcontent (c : Rule) (h : ∃ w, lookup "content" ms = some w ∧ decode w = .sound c) :
          (Json.obj ms).Has "content" fun w => Mirrors c w := by
        obtain ⟨w, hw, hc⟩ := h
        exact ⟨w, hw, hcontent ms w rfl hw c hc⟩
      have hmembers (rs : List Rule) (h : ∃ w, lookup "members" ms = some w ∧ ∃ vs, w = .arr vs ∧
          List.Forall₂ (fun v r => decode v = .sound r) vs rs) :
          (Json.obj ms).Has "members" fun w => ∃ vs, w = .arr vs ∧ MirrorEach rs vs := by
        obtain ⟨w, hw, vs, rfl, hrs⟩ := h
        exact ⟨_, hw, vs, rfl, mirrorEach_of_forall₂ hrs fun w hin =>
          hmembers ms vs w rfl hw hin⟩
      cases k <;>
        simp only [decodeAs, decodeContent_eq, decodeMembers_eq, Checked.map_eq_sound_iff,
          Checked.seq_eq_sound_iff, Checked.required_eq_sound_iff, Checked.tuple_eq_sound_iff,
          text_eq_sound_iff, Checked.sound.injEq] at hdecode
      case symbol | literal =>
        obtain ⟨s, hs, rfl⟩ := hdecode
        rw [Mirrors]
        exact ⟨⟨_, htag, rfl⟩, hs⟩
      case pattern =>
        obtain ⟨_, flags, ⟨s, hs, rfl⟩, hflags, rfl⟩ := hdecode
        rw [Mirrors]
        exact ⟨⟨_, htag, rfl⟩, hs, flags_eq_sound hflags⟩
      case blank =>
        subst hdecode
        rw [Mirrors]
        exact ⟨⟨_, htag, rfl⟩, trivial⟩
      case seq | choice =>
        obtain ⟨rs, hrs, rfl⟩ := hdecode
        rw [Mirrors]
        exact ⟨⟨_, htag, rfl⟩, hmembers rs hrs⟩
      case star | plus | token | immediateToken =>
        obtain ⟨c, hc, rfl⟩ := hdecode
        rw [Mirrors]
        exact ⟨⟨_, htag, rfl⟩, hcontent c hc⟩
      case field | prec | precLeft | precRight | precDynamic =>
        obtain ⟨_, c, ⟨a, ha, rfl⟩, hc, rfl⟩ := hdecode
        rw [Mirrors]
        exact ⟨⟨_, htag, rfl⟩, ha, hcontent c hc⟩
      case aliased =>
        obtain ⟨_, s, ⟨_, named, ⟨c, hc, rfl⟩, hnamed, rfl⟩, hs, rfl⟩ := hdecode
        rw [Mirrors]
        exact ⟨⟨_, htag, rfl⟩, hcontent c hc, hnamed, hs⟩

theorem accepts_iff {e : Expected} {v : Json} : e.Accepts v ↔ e.faults v = [] := by
  cases e with
  | whole | flag => exact Checked.issues_eq_nil_iff.symm
  | level =>
    rcases level_cases v with ⟨h, haccepts⟩ | ⟨hrefuses, fault, _, h⟩
    · exact iff_of_true haccepts h
    · refine iff_of_false hrefuses ?_
      simp [Expected.faults, h]
  | rule => simp [Expected.Accepts, Expected.faults]
  | _ => cases v <;> simp [Expected.Accepts, Expected.faults, Checked.text, Checked.nullable]

/-- A place is well-formed just if nothing is wrong there. -/
theorem wellFormed_iff {v : Json} : WellFormed v ↔ ∀ i, ¬DefectAt v i := by
  constructor
  · rintro ⟨ms, k, rfl, hk, hproperties⟩ i hdefect
    obtain ⟨p, hp, j, hj, rfl⟩ := (defectAt_of_hasKind hk).mp hdefect
    obtain ⟨haccepts, hoptional⟩ := hproperties p hp
    rcases Checked.mem_memberIssues.mp hj with ⟨w, hw, j', hj', rfl⟩ | ⟨hnone, hrequired, rfl⟩
    · rw [accepts_iff.mp (haccepts w hw)] at hj'
      cases hj'
    · rw [hoptional hnone] at hrequired
      cases hrequired
  · intro h
    rcases object_cases v with hv | ⟨tag, hv⟩ | ⟨ms, k, rfl, hk⟩
    · exact absurd ((defectAt_of_notObject hv).mpr rfl) (h _)
    · exact absurd ((defectAt_of_strange hv).mpr rfl) (h _)
    · refine ⟨ms, k, rfl, hk, fun p hp => ⟨fun w hw => ?_, fun hnone => ?_⟩⟩
      · rw [accepts_iff, List.eq_nil_iff_forall_not_mem]
        exact fun i hi => h _ (.illTyped hk hp hw hi)
      · by_contra hrequired
        exact h _ (.missing hk hp (by simpa using hrequired) hnone)

theorem sound_iff {v : Json} : Sound v ↔ (decode v).issues = [] := by
  rw [List.eq_nil_iff_forall_not_mem]
  simp only [mem_issues_iff, Sound, wellFormed_iff]
  constructor
  · rintro h i ⟨p, w, j, hvisit, hdefect, rfl⟩
    exact h p w hvisit j hdefect
  · intro h p w hvisit j hdefect
    exact h _ ⟨p, w, j, hvisit, hdefect, rfl⟩

theorem IsSimple.strangeTag? {α : Type} {x : Checked α} (h : IsSimple x) {i : Issue}
    (hi : i ∈ x.issues) : i.fault.strangeTag? = none := by
  rcases h with ⟨a, rfl⟩ | ⟨fault, rfl, hs⟩
  · cases hi
  · rw [List.mem_singleton.mp hi]
    exact hs

/-- No value of a simple type is told to be of an unknown kind. -/
theorem strangeTag?_of_faults {e : Expected} {v : Json} {i : Issue} (h : i ∈ e.faults v) :
    i.fault.strangeTag? = none := by
  cases e with
  | text => exact (isSimple_text v).strangeTag? h
  | nullableText => exact (isSimple_nullableText v).strangeTag? h
  | whole => exact (isSimple_whole v).strangeTag? h
  | flag => exact (isSimple_flag v).strangeTag? h
  | level =>
    rcases level_cases v with ⟨he, _⟩ | ⟨_, fault, hs, he⟩ <;> simp only [Expected.faults, he] at h
    · cases h
    · rcases List.mem_pair.mp h with rfl | rfl
      · exact hs
      · rfl
  | rule => cases h
  | rules =>
    cases v with
    | arr vs => cases h
    | _ =>
      rw [List.mem_singleton.mp h]
      rfl

theorem strangeTag?_strangeFault (tag : Option String) : (strangeFault tag).strangeTag? = some tag := by
  cases tag <;> rfl

/-- The faults that tell of an unknown kind are those of strange objects. -/
theorem strange_of_defectAt {v : Json} {i : Issue} {tag : Option String} (h : DefectAt v i)
    (htag : i.fault.strangeTag? = some tag) : Strange v tag ∧ i.path = [] := by
  cases h with
  | notRule => cases htag
  | tagAbsent h =>
    cases htag
    exact ⟨h, rfl⟩
  | tagUnknown h =>
    cases htag
    exact ⟨h, rfl⟩
  | missing => cases htag
  | illTyped _ _ _ hi => exact absurd ((strangeTag?_of_faults hi).symm.trans htag) nofun

theorem mem_issues_strange_iff {v : Json} {p : List Place} {tag : Option String} :
    (∃ i ∈ (decode v).issues, i.path = p ∧ i.fault.strangeTag? = some tag) ↔
      ∃ w, Visits v p w ∧ Strange w tag := by
  simp only [mem_issues_iff]
  constructor
  · rintro ⟨_, ⟨q, w, j, hvisit, hdefect, rfl⟩, rfl, htag⟩
    obtain ⟨hstrange, hpath⟩ := strange_of_defectAt hdefect htag
    rw [hpath, List.append_nil]
    exact ⟨w, hvisit, hstrange⟩
  · rintro ⟨w, hvisit, hstrange⟩
    have hdefect := (defectAt_of_strange hstrange).mpr rfl
    refine ⟨_, ⟨p, w, _, hvisit, hdefect, rfl⟩, List.append_nil p, strangeTag?_strangeFault tag⟩

/-- The first place, in an order, with an object of an unknown kind. -/
structure FirstStrange (visits : List Place → Json → Prop) (before : List Place → List Place → Prop)
    (p : List Place) (w : Json) (tag : Option String) : Prop where
  visited : visits p w
  strange : Strange w tag
  first : ∀ p' w' tag', visits p' w' → Strange w' tag' → p' = p ∨ before p p'

theorem FirstStrange.unique {visits : List Place → Json → Prop}
    {before : List Place → List Place → Prop} {p p' : List Place} {w w' : Json}
    {tag tag' : Option String} (h : FirstStrange visits before p w tag)
    (h' : FirstStrange visits before p' w' tag') (hasymm : ∀ a b, before a b → ¬before b a) : p' = p := by
  rcases h.first _ _ _ h'.visited h'.strange with rfl | hbefore
  · rfl
  · rcases h'.first _ _ _ h.visited h.strange with rfl | hbefore'
    · rfl
    · exact absurd hbefore' (hasymm _ _ hbefore)

end Rule

/-- Where issues are told in order, the first of an unknown kind decides; without one all are told. -/
theorem Failure.ofIssues_cases {visits : List Place → Json → Prop}
    {before : List Place → List Place → Prop} {issues : List Issue}
    (horder : issues.Pairwise fun i j => before i.path j.path)
    (hstrange : ∀ p tag, (∃ i ∈ issues, i.path = p ∧ i.fault.strangeTag? = some tag) ↔
      ∃ w, visits p w ∧ Rule.Strange w tag) (base : String) (malformed : List Issue → Failure) :
    (∃ p w tag, Rule.FirstStrange visits before p w tag ∧
      ofIssues base malformed issues = .unclassifiableRule tag (locate base p)) ∨
    (¬∃ p w tag, visits p w ∧ Rule.Strange w tag) ∧ ofIssues base malformed issues = malformed issues := by
  cases hfound : issues.findSome? (Issue.unclassifiable? base) with
  | none =>
    refine .inr ⟨?_, by simp [ofIssues, hfound]⟩
    rintro ⟨p, w, tag, hvisit, hw⟩
    obtain ⟨i, hi, _, htag⟩ := (hstrange p tag).mpr ⟨w, hvisit, hw⟩
    have hnone := List.findSome?_eq_none_iff.mp hfound i hi
    simp [Issue.unclassifiable?, htag] at hnone
  | some e =>
    obtain ⟨before', i, after, rfl, hi, hnone⟩ := List.findSome?_eq_some_iff.mp hfound
    obtain ⟨tag, htag, rfl⟩ := Option.map_eq_some_iff.mp hi
    obtain ⟨w, hvisit, hw⟩ := (hstrange i.path tag).mp ⟨i, by simp, rfl, htag⟩
    refine .inl ⟨i.path, w, tag, ⟨hvisit, hw, fun p' w' tag' hvisit' hw' => ?_⟩,
      by simp [ofIssues, hfound]⟩
    obtain ⟨j, hj, rfl, htag'⟩ := (hstrange p' tag').mpr ⟨w', hvisit', hw'⟩
    rcases List.mem_append.mp hj with hj | hj
    · have hnone := hnone j hj
      simp [Issue.unclassifiable?, htag'] at hnone
    · rcases List.mem_cons.mp hj with rfl | hj
      · exact .inl rfl
      · exact .inr ((List.pairwise_cons.mp (List.pairwise_append.mp horder).2.1).1 j hj)

namespace Rule

/-- Just one of three things happens. Every place is well-formed, and a tree of that shape is read. Or
some object is of an unknown kind, and the first of these is told with its tag, whatever else is wrong.
Or else all is told that is wrong, each defect once, in the order of places. -/
theorem ofJson?_classifies (location : String) (v : Json) :
    (Sound v ∧ (¬∃ p w tag, Visits v p w ∧ Strange w tag) ∧
      ∃ r, ofJson? location v = .ok r ∧ Mirrors r v) ∨
    (¬Sound v ∧ ∃ p w tag, FirstStrange (Visits v) Before p w tag ∧
      ofJson? location v = .error (.unclassifiableRule tag (locate location p))) ∨
    (¬Sound v ∧ (¬∃ p w tag, Visits v p w ∧ Strange w tag) ∧
      ∃ issues, ofJson? location v = .error (.malformedRule location issues) ∧
        InOrder issues ∧ issues.Nodup ∧ ∀ i, i ∈ issues ↔ IsDefect v i) := by
  by_cases hsound : Sound v
  · left
    obtain ⟨r, hr⟩ := Checked.issues_eq_nil_iff.mp (sound_iff.mp hsound)
    refine ⟨hsound, ?_, r, by simp [ofJson?, hr, Checked.toExcept, Except.mapError],
      mirrors_of_decode v r hr⟩
    rintro ⟨p, w, tag, hvisit, hw⟩
    exact wellFormed_iff.mp (hsound p w hvisit) _ ((defectAt_of_strange hw).mpr rfl)
  · right
    have hfails : ofJson? location v =
        .error (.ofIssues location (.malformedRule location) (decode v).issues) := by
      have hissues := mt sound_iff.mpr hsound
      rw [ofJson?, Checked.toExcept_eq_error_iff.mpr ⟨rfl, hissues⟩]
      rfl
    rcases Failure.ofIssues_cases (inOrder_issues v) (fun p tag => mem_issues_strange_iff) location
      (.malformedRule location) with ⟨p, w, tag, hfirst, he⟩ | ⟨hnone, he⟩
    · exact .inl ⟨hsound, p, w, tag, hfirst, hfails.trans (congrArg _ he)⟩
    · exact .inr ⟨hsound, hnone, _, hfails.trans (congrArg _ he), inOrder_issues v,
        (inOrder_issues v).nodup, mem_issues_iff v⟩

end Rule

end TraversalSdk
