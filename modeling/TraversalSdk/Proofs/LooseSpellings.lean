import TraversalSdk.Proofs.LowerCase
import TraversalSdk.Rule.Kind
import TraversalSdk.Navigation
import TraversalSdk.Naming.Anonymous
import TraversalSdk.Naming.Namespace

namespace TraversalSdk.Vocabulary
open Text

variable {α : Type} {v : Vocabulary α} {s t : String} {a b : α}

theorem toList_lowered (s : String) : (lowered s).toList = lower (strip s.toList) := String.toList_ofList

@[simp]
theorem parts_lowered (s : String) : parts (lowered s) = parts s := by
  rw [parts, toList_lowered, lower_strip_again, ← parts]

/-- What is in small letters stays as it is. -/
@[simp]
theorem lowerString_lowerString (s : String) : lowerString (lowerString s) = lowerString s := by
  simp [lowerString]

variable (v) in
/-- Whether a member is matched by a spelling, at one of the stages. -/
inductive Matches (s : String) (a : α) : Prop
  | named (h : lowerString (v.label a).spelling = lowered s ∨ lowerString (v.name a) = lowered s)
  | aliased (h : ∃ key ∈ v.spellings a, lowerString key = lowered s)
  | worded (h : parts (v.name a) = parts (lowered s))

/-- Of two pairs with one key the first is kept. -/
theorem lookup_firstKept (key : String) (pairs found : List (String × α)) :
    lookup key (pairs.foldl (fun found p => if found.any (·.1 == p.1) then found else found ++ [p]) found)
      = (lookup key found).or (lookup key pairs) := by
  induction pairs generalizing found with
  | nil => simp [lookup]
  | cons p pairs ih =>
    rw [List.foldl_cons, ih]
    split
    · next hany =>
      obtain ⟨q, hq, heq⟩ := List.any_eq_true.mp hany
      by_cases hp : p.1 = key
      · have hfound : (lookup key found).isSome := by
          rw [Option.isSome_iff_ne_none, Ne, lookup_eq_none_iff, not_not, ← hp]
          exact List.mem_map.mpr ⟨q, hq, by simpa using heq⟩
        obtain ⟨a, ha⟩ := Option.isSome_iff_exists.mp hfound
        simp [ha]
      · simp [lookup, hp]
    · simp only [lookup, List.find?_append, List.find?_cons, List.find?_nil]
      by_cases hp : p.1 = key <;> cases found.find? (·.1 = key) <;> simp [hp]

/-- A spelling is found under the first member that has it. -/
theorem lookup_aliases (key : String) :
    lookup key v.aliases = lookup key (v.members.flatMap fun a => (v.spellings a).map fun s => (lowerString s, a)) := by
  rw [aliases, lookup_firstKept]
  simp [lookup]

theorem mem_of_lookup_aliases {key : String} (h : lookup key v.aliases = some a) :
    a ∈ v.members ∧ ∃ k ∈ v.spellings a, lowerString k = key := by
  rw [lookup_aliases] at h
  obtain ⟨b, hb, hpair⟩ := List.mem_flatMap.mp (mem_of_lookup h)
  obtain ⟨k, hk, heq⟩ := List.mem_map.mp hpair
  cases heq
  exact ⟨hb, k, hk, rfl⟩

theorem lowerString_ne_of_lookup_aliases {key : String} (h : lookup key v.aliases = none) (ha : a ∈ v.members) :
    ∀ k ∈ v.spellings a, lowerString k ≠ key := by
  rw [lookup_aliases, lookup_eq_none_iff] at h
  rintro k hk rfl
  exact h (List.mem_map.mpr ⟨_, List.mem_flatMap.mpr ⟨a, ha, List.mem_map.mpr ⟨k, hk, rfl⟩⟩, rfl⟩)

/-- What is found is matched by the spelling. -/
theorem matches_of_ofLoose? (h : v.ofLoose? s = some a) : a ∈ v.members ∧ v.Matches s a := by
  rcases Option.or_eq_some_iff.mp h with hfound | ⟨-, hparts⟩
  · rcases Option.or_eq_some_iff.mp hfound with hnamed | ⟨-, haliased⟩
    · exact ⟨List.mem_of_find?_eq_some hnamed, .named (by simpa using List.find?_some hnamed)⟩
    · obtain ⟨ha, hkey⟩ := mem_of_lookup_aliases haliased
      exact ⟨ha, .aliased hkey⟩
  · exact ⟨List.mem_of_find?_eq_some hparts, .worded (by simpa using List.find?_some hparts)⟩

/-- Where nothing is found no member is matched. -/
theorem not_matches_of_ofLoose? (h : v.ofLoose? s = none) (ha : a ∈ v.members) : ¬ v.Matches s a := by
  obtain ⟨hfound, hparts⟩ := Option.or_eq_none_iff.mp h
  obtain ⟨hnamed, haliased⟩ := Option.or_eq_none_iff.mp hfound
  rintro (hname | ⟨key, hkey, heq⟩ | hwords)
  · exact List.find?_eq_none.mp hnamed a ha (by simpa using hname)
  · exact lowerString_ne_of_lookup_aliases haliased ha key hkey heq
  · exact List.find?_eq_none.mp hparts a ha (by simpa using hwords)

variable (v) in
/-- No spelling is matched by two members, at one stage or at two. -/
def Unambiguous : Prop := ∀ s, ∀ a ∈ v.members, ∀ b ∈ v.members, v.Matches s a → v.Matches s b → a = b

variable (v) in
/-- Two spellings are looked up alike: both find one member, or both are refused. -/
def Agree (s t : String) : Prop :=
  (∃ a, v.ofString? s = .ok a ∧ v.ofString? t = .ok a) ∨
    (v.ofString? s = .error (.noMember s v.title) ∧ v.ofString? t = .error (.noMember t v.title))

variable (v) in
def keys (a : α) : List String :=
  (([v.name a, (v.label a).spelling].flatMap fun t => [t, Casing.snake t, Casing.kebab t]).filter
    (!·.isEmpty)).map lowerString

def letters (s : String) : String := String.join (parts s)

variable (v) in
/-- Every member has a text for its value, and no two members have the same letters. Casing keeps the letters of
name and value, and the words as well, apart from the irregular keys. -/
structure Separate (irregular : α → List String) : Prop where
  textual : v.isTextual = true
  spelled : ∀ a ∈ v.members, v.name a ≠ "" ∧ (v.label a).spelling ≠ ""
  apart : ∀ a ∈ v.members, ∀ b ∈ v.members, letters (v.name a) = letters (v.name b) → a = b
  cased : ∀ a ∈ v.members, ∀ key ∈ v.keys a,
    letters key = letters (v.name a) ∧ (parts key = parts (v.name a) ∨ key ∈ irregular a)
  cut : ∀ a ∈ v.members, ∀ key ∈ irregular a, key ∈ v.keys a ∧ parts key ≠ parts (v.name a)

instance [DecidableEq α] (irregular : α → List String) : Decidable (v.Separate irregular) :=
  decidable_of_iff (v.isTextual = true ∧ (∀ a ∈ v.members, v.name a ≠ "" ∧ (v.label a).spelling ≠ "") ∧
      (∀ a ∈ v.members, ∀ b ∈ v.members, letters (v.name a) = letters (v.name b) → a = b) ∧
      (∀ a ∈ v.members, ∀ key ∈ v.keys a,
        letters key = letters (v.name a) ∧ (parts key = parts (v.name a) ∨ key ∈ irregular a)) ∧
      ∀ a ∈ v.members, ∀ key ∈ irregular a, key ∈ v.keys a ∧ parts key ≠ parts (v.name a))
    ⟨fun ⟨textual, spelled, apart, cased, cut⟩ => ⟨textual, spelled, apart, cased, cut⟩,
      fun h => ⟨h.textual, h.spelled, h.apart, h.cased, h.cut⟩⟩

theorem mem_spellings_iff (ha : (v.label a).isText = true) {key : String} :
    key ∈ v.spellings a ↔ key ∈ v.keys a := by
  cases hlabel : v.label a with
  | int n => simp [hlabel, Label.isText] at ha
  | text value => simp only [spellings, keys, hlabel, mem_textSet, Label.spelling]

namespace Separate

variable {irregular : α → List String} (hv : v.Separate irregular)

include hv

theorem isText (ha : a ∈ v.members) : (v.label a).isText = true :=
  List.all_eq_true.mp hv.textual a ha

theorem matches_iff (ha : a ∈ v.members) :
    v.Matches s a ↔ parts (v.name a) = parts s ∨ lowered s ∈ v.keys a := by
  constructor
  · rintro (hname | ⟨key, hkey, heq⟩ | hwords)
    · obtain ⟨hne, hne'⟩ := hv.spelled a ha
      right
      rcases hname with hvalue | hname
      · rw [← hvalue]
        exact List.mem_map_of_mem (by simp [hne'])
      · rw [← hname]
        exact List.mem_map_of_mem (by simp [hne])
    · rw [mem_spellings_iff (hv.isText ha)] at hkey
      obtain ⟨form, -, rfl⟩ := List.mem_map.mp hkey
      rw [lowerString_lowerString] at heq
      exact .inr (heq ▸ hkey)
    · rw [parts_lowered] at hwords
      exact .inl hwords
  · rintro (hwords | hkey)
    · exact .worded (by rw [parts_lowered, hwords])
    · obtain ⟨form, -, heq⟩ := List.mem_map.mp hkey
      refine .aliased ⟨lowered s, (mem_spellings_iff (hv.isText ha)).mpr hkey, ?_⟩
      rw [← heq, lowerString_lowerString]

/-- However the words of a spelling are cut, it has the letters of the member that it matches. -/
theorem letters_eq (ha : a ∈ v.members) (h : v.Matches s a) : letters s = letters (v.name a) := by
  rcases (hv.matches_iff ha).mp h with hwords | hkey
  · rw [letters, letters, hwords]
  · rw [← (hv.cased a ha _ hkey).1, letters, letters, parts_lowered]

/-- A spelling is matched by one member at most, whatever the stage, since no two members have the same
letters. -/
theorem unambiguous : v.Unambiguous := fun _ a ha b hb hsa hsb =>
  hv.apart a ha b hb ((hv.letters_eq ha hsa).symm.trans (hv.letters_eq hb hsb))

/-- The lookup finds the member that is matched, at whichever stage. -/
theorem ofLoose?_eq_some_iff : v.ofLoose? s = some a ↔ a ∈ v.members ∧ v.Matches s a := by
  refine ⟨matches_of_ofLoose?, fun ⟨ha, hs⟩ => ?_⟩
  cases hfound : v.ofLoose? s with
  | none => exact absurd hs (not_matches_of_ofLoose? hfound ha)
  | some b =>
    obtain ⟨hb, hsb⟩ := matches_of_ofLoose? hfound
    rw [hv.unambiguous s b hb a ha hsb hs]

theorem ofString?_eq (s : String) :
    v.ofString? s = match v.ofLoose? s with
      | some a => .ok a
      | none => .error (.noMember s v.title) := by
  rw [ofString?, hv.textual]
  rfl

theorem agree_iff_ofLoose? : v.Agree s t ↔ v.ofLoose? s = v.ofLoose? t := by
  rw [Agree, hv.ofString?_eq, hv.ofString?_eq]
  cases v.ofLoose? s <;> cases v.ofLoose? t <;> simp [eq_comm]

/-- Spellings are looked up alike if they match the same members. -/
theorem agree_iff_matches :
    v.Agree s t ↔ ∀ a ∈ v.members, v.Matches s a ↔ v.Matches t a := by
  rw [hv.agree_iff_ofLoose?, Option.ext_iff]
  refine forall_congr' fun a => ?_
  rw [hv.ofLoose?_eq_some_iff, hv.ofLoose?_eq_some_iff, and_congr_right_iff]

/-- What a spelling matches depends on its words alone, but for keys that casing cuts into other words than
the name. -/
theorem matches_iff_irregular (ha : a ∈ v.members) :
    v.Matches s a ↔ parts (v.name a) = parts s ∨ lowered s ∈ irregular a := by
  rw [hv.matches_iff ha]
  constructor
  · rintro (hwords | hkey)
    · exact .inl hwords
    · refine (hv.cased a ha _ hkey).2.imp_left fun hwords => ?_
      rw [← hwords, parts_lowered]
  · exact Or.imp_right fun hkey => (hv.cut a ha _ hkey).1

theorem ofString?_eq_ok_iff :
    v.ofString? s = .ok a ↔ a ∈ v.members ∧ (parts (v.name a) = parts s ∨ lowered s ∈ irregular a) := by
  have hfound : v.ofString? s = .ok a ↔ v.ofLoose? s = some a := by
    rw [hv.ofString?_eq]
    cases v.ofLoose? s <;> simp
  rw [hfound, hv.ofLoose?_eq_some_iff, and_congr_right_iff]
  exact fun ha => hv.matches_iff_irregular ha

theorem ofString?_eq_error_iff :
    v.ofString? s = .error (.noMember s v.title) ↔
      ∀ a ∈ v.members, ¬ (parts (v.name a) = parts s ∨ lowered s ∈ irregular a) := by
  constructor
  · intro h a ha hfound
    rw [hv.ofString?_eq_ok_iff.mpr ⟨ha, hfound⟩] at h
    cases h
  · intro h
    rw [hv.ofString?_eq]
    cases hfound : v.ofLoose? s with
    | none => rfl
    | some a =>
      obtain ⟨ha, hs⟩ := hv.ofLoose?_eq_some_iff.mp hfound
      exact absurd ((hv.matches_iff_irregular ha).mp hs) (h a ha)

/-- Spellings with the same words are looked up alike unless an irregular key tells them apart. -/
theorem agree_iff (h : parts s = parts t) :
    v.Agree s t ↔ ∀ a ∈ v.members, lowered s ∈ irregular a ↔ lowered t ∈ irregular a := by
  rw [hv.agree_iff_matches]
  refine forall₂_congr fun a ha => ?_
  rw [hv.matches_iff_irregular ha, hv.matches_iff_irregular ha, ← h]
  by_cases hwords : parts (v.name a) = parts s
  · have hregular : ∀ s', parts s' = parts s → lowered s' ∉ irregular a := by
      intro s' hs' hkey
      exact (hv.cut a ha _ hkey).2 (by rw [parts_lowered, hs', hwords])
    simp [hwords, hregular s rfl, hregular t h.symm]
  · simp [hwords]

end Separate

/-- Four of the vocabularies are regular: the words of each key are those of the name. -/
theorem separate_entryKind : EntryKind.vocabulary.Separate fun _ => [] := by decide +kernel

theorem separate_direction : Direction.vocabulary.Separate fun _ => [] := by decide +kernel

theorem separate_tokenCategory : TokenCategory.vocabulary.Separate fun _ => [] := by decide +kernel

theorem separate_concatMode : ConcatMode.vocabulary.Separate fun _ => [] := by decide +kernel

/-- Casing cuts the digit of one name off, which looking for words does not. -/
theorem separate_ruleKind :
    RuleKind.vocabulary.Separate fun kind => if kind = .plus then ["repeat_1", "repeat-1"] else [] := by
  decide +kernel

/-- Two spellings are looked up alike in every vocabulary. Kinds of rules have one exception: casing cuts the digit off
a name, so two spellings whose words are not those of the name find its member, and other spellings with these words
are refused. -/
structure LookedUpAlike (s t : String) : Prop where
  entryKind : EntryKind.vocabulary.Agree s t
  direction : Direction.vocabulary.Agree s t
  tokenCategory : TokenCategory.vocabulary.Agree s t
  concatMode : ConcatMode.vocabulary.Agree s t
  ruleKind : RuleKind.vocabulary.Agree s t ↔
    (lowered s ∈ ["repeat_1", "repeat-1"] ↔ lowered t ∈ ["repeat_1", "repeat-1"])

/-- In no vocabulary a spelling is matched by two members. -/
structure AllUnambiguous : Prop where
  entryKind : EntryKind.vocabulary.Unambiguous
  direction : Direction.vocabulary.Unambiguous
  tokenCategory : TokenCategory.vocabulary.Unambiguous
  concatMode : ConcatMode.vocabulary.Unambiguous
  ruleKind : RuleKind.vocabulary.Unambiguous

theorem Separate.agree_of_regular {α : Type} {v : Vocabulary α} (hv : v.Separate fun _ => []) {s t : String}
    (h : parts s = parts t) : v.Agree s t :=
  (hv.agree_iff h).mpr fun _ _ => by simp

/-- Spellings with the same words are looked up alike, and no spelling is matched by two members. -/
theorem found_by_words {s t : String} (h : parts s = parts t) : LookedUpAlike s t ∧ AllUnambiguous := by
  have hruleKind : RuleKind.vocabulary.Agree s t ↔
      (lowered s ∈ ["repeat_1", "repeat-1"] ↔ lowered t ∈ ["repeat_1", "repeat-1"]) := by
    rw [separate_ruleKind.agree_iff h]
    constructor
    · intro hall
      simpa using hall .plus (RuleKind.mem_all .plus)
    · intro hplus kind _
      by_cases hkind : kind = .plus
      · simpa only [if_pos hkind] using hplus
      · simp [hkind]
  exact ⟨⟨separate_entryKind.agree_of_regular h, separate_direction.agree_of_regular h,
      separate_tokenCategory.agree_of_regular h, separate_concatMode.agree_of_regular h, hruleKind⟩,
    separate_entryKind.unambiguous, separate_direction.unambiguous, separate_tokenCategory.unambiguous,
    separate_concatMode.unambiguous, separate_ruleKind.unambiguous⟩

/-- A spelling with blanks, capitals and two underscores finds the kind that one with dashes does. -/
theorem found_by_words_precedence :
    parts " Prec__Left" = parts "PREC-LEFT" ∧ RuleKind.vocabulary.Agree " Prec__Left" "PREC-LEFT" := by
  have hparts : parts " Prec__Left" = parts "PREC-LEFT" := by decide +kernel
  exact ⟨hparts, (found_by_words hparts).1.ruleKind.mpr (by decide +kernel)⟩

/-- Two spellings with the same words, of which casing makes only the first. -/
theorem digit_cut_off :
    parts "repeat_1" = parts "repeat__1" ∧ RuleKind.vocabulary.ofString? "repeat_1" = .ok .plus ∧
      RuleKind.vocabulary.ofString? "repeat__1" = .error (.noMember "repeat__1" "RuleKind") := by
  refine ⟨by decide +kernel, ?_, ?_⟩
  · rw [separate_ruleKind.ofString?_eq_ok_iff]
    exact ⟨RuleKind.mem_all .plus, .inr (by decide +kernel)⟩
  · exact separate_ruleKind.ofString?_eq_error_iff.mpr (by decide +kernel)

end TraversalSdk.Vocabulary
