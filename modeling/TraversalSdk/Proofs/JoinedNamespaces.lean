import TraversalSdk.Naming.Namespace
import TraversalSdk.Proofs.AccessorNames
import TraversalSdk.Proofs.GeneratedPlan

namespace TraversalSdk

open Naming Text

namespace Naming

/-- A name may start with any of its characters but a digit. -/
theorem isNameStart_eq {c : Char} (h : isNameChar c = true) : isNameStart c = !isAsciiDigit c :=
  eq_of_beq (nameChar_rec (P := fun c => isNameStart c == !isAsciiDigit c) (by decide) h)

def firstLetter? (s : String) : Option Char := s.toList.find? (· != '_')

/-- Name characters make an identifier if there are some and the first is no digit. -/
theorem isIdentifierChars_iff_head {cs : List Char} (h : ∀ c ∈ cs, isNameChar c = true) :
    isIdentifierChars cs = true ↔ ∃ c, cs.head? = some c ∧ isAsciiDigit c = false := by
  rw [isIdentifierChars_iff, and_iff_left h]
  refine exists_congr fun c => and_congr_right fun hc => ?_
  rw [isNameStart_eq (h c (List.mem_of_head? hc)), Bool.not_eq_true']

/-- A spelling without underscores in front begins with a digit if the first letter is one. -/
theorem head?_of_bare {s : String} {cs : List Char} (hs : isIdentifier s = true)
    (hcs : ∀ c ∈ cs, isNameChar c = true) (hbare : bare cs = bare s.toList) (hu : cs.head? ≠ some '_') :
    cs.head?.map isAsciiDigit = (firstLetter? s).map isAsciiDigit := by
  have hdigit {o : Option Char} (h : ∀ c ∈ o, isNameChar c = true) :
      o.map isAsciiDigit = (o.map asciiLower).map isAsciiDigit := by
    rw [Option.map_map]
    exact Option.map_congr fun c hc => (isAsciiDigit_asciiLower (h c hc)).symm
  have hhead : (bare cs).head? = cs.head?.map asciiLower := by
    cases cs with
    | nil => rfl
    | cons c cs =>
      have hc : c ≠ '_' := by simpa using hu
      simp [bare, hc]
  have hfirst : ∀ c ∈ firstLetter? s, isNameChar c = true :=
    fun c hc => (isIdentifierChars_iff.mp hs).2 c (List.mem_of_find?_eq_some hc)
  rw [hdigit fun c hc => hcs c (List.mem_of_head? hc), ← hhead, hbare, head?_bare, hdigit hfirst, firstLetter?]

/-- Recasing drops underscores: a digit behind them comes to stand in front, or nothing is left. -/
theorem pascal_isIdentifier_iff {s : String} (hs : isIdentifier s = true) :
    isIdentifier (Casing.pascal s) = true ↔ ∃ c, firstLetter? s = some c ∧ isAsciiDigit c = false := by
  have hchars : ∀ c ∈ s.toList, isNameChar c = true := (isIdentifierChars_iff.mp hs).2
  have hpascal : (Casing.pascal s).toList = Casing.pascalStyle.chars s.toList := String.toList_ofList
  have hhead := head?_of_bare hs (nameStyle_pascal.chars_isNameChar hchars)
    (nameStyle_pascal.bare_chars hchars) fun h => underscore_not_mem_pascal _ (List.mem_of_head? h)
  rw [isIdentifier, hpascal, isIdentifierChars_iff_head (nameStyle_pascal.chars_isNameChar hchars),
    ← Option.map_eq_some_iff, hhead, Option.map_eq_some_iff]

/-- With an underscore behind it, a snake spelling may be empty. -/
theorem snake_isIdentifier_iff {s : String} (hs : isIdentifier s = true) {rest : List Char}
    (hrest : ∀ c ∈ rest, isNameChar c = true) :
    isIdentifierChars ((Casing.snake s).toList ++ '_' :: rest) = true ↔
      ∀ c, firstLetter? s = some c → isAsciiDigit c = false := by
  have hchars : ∀ c ∈ s.toList, isNameChar c = true := (isIdentifierChars_iff.mp hs).2
  have hsnake : (Casing.snake s).toList = Casing.snakeStyle.chars s.toList := String.toList_ofList
  have hname := nameStyle_snake.chars_isNameChar hchars
  have hhead := head?_of_bare hs hname (nameStyle_snake.bare_chars hchars) (Accessor.head?_snake hchars)
  have hall : ∀ c ∈ Casing.snakeStyle.chars s.toList ++ '_' :: rest, isNameChar c = true :=
    List.forall_mem_append.mpr ⟨hname, List.forall_mem_cons.mpr ⟨by decide, hrest⟩⟩
  rw [hsnake, isIdentifierChars_iff_head hall, List.head?_append]
  cases hc : (Casing.snakeStyle.chars s.toList).head? with
  | none =>
    rw [hc, Option.map_none, eq_comm, Option.map_eq_none_iff] at hhead
    rw [hhead]
    exact iff_of_true ⟨'_', rfl, by decide⟩ nofun
  | some d =>
    rw [hc, Option.map_some, eq_comm, Option.map_eq_some_iff] at hhead
    obtain ⟨c, hfirst, hdigit⟩ := hhead
    simp [hfirst, hdigit]

end Naming

namespace NamespaceConfig

def base (config : NamespaceConfig) (grammar : String) : String := config.name.getD (Casing.pascal grammar)

def joined (config : NamespaceConfig) (grammar : String) : String :=
  match config.lead with
  | some lead => join config.mode lead (config.base grammar)
  | none => config.base grammar

theorem checkIdentifier_eq_ok_iff {field value s : String} :
    checkIdentifier field value = .ok s ↔ isIdentifier value = true ∧ value = s := by
  unfold checkIdentifier
  split <;> simp_all

theorem mapM_checkIdentifier_eq_ok_iff {field : String} {o o' : Option String} :
    o.mapM (checkIdentifier field) = .ok o' ↔ (∀ s ∈ o, isIdentifier s = true) ∧ o = o' := by
  cases o with
  | none =>
    have hnone : (none : Option String).mapM (checkIdentifier field) = .ok none := rfl
    simp [hnone]
  | some s =>
    have hmap : (some s).mapM (checkIdentifier field) = some <$> checkIdentifier field s := rfl
    rw [hmap]
    unfold checkIdentifier
    split <;> simp_all [Functor.map, Except.map]

/-- The parts are checked before they are recased and joined. -/
theorem checkParts_eq_ok_iff {config : NamespaceConfig} {grammar : String} {parts : Option String × String} :
    config.checkParts grammar = .ok parts ↔ (∀ s ∈ config.lead, isIdentifier s = true) ∧
      (∀ s ∈ config.name, isIdentifier s = true) ∧ (config.lead, config.base grammar) = parts := by
  obtain ⟨lead, name, mode⟩ := config
  cases name <;>
    simp [checkParts, base, bind_eq_ok, mapM_checkIdentifier_eq_ok_iff, checkIdentifier_eq_ok_iff, pure,
      Except.pure, and_assoc]

/-- A configuration is accepted if its parts are identifiers, and then they are joined. -/
theorem resolve_eq_ok_iff {config : NamespaceConfig} {grammar ns : String} :
    config.resolve grammar = .ok ns ↔ (∀ s ∈ config.lead, isIdentifier s = true) ∧
      (∀ s ∈ config.name, isIdentifier s = true) ∧ config.joined grammar = ns := by
  simp only [resolve, bind_eq_ok, checkParts_eq_ok_iff]
  constructor
  · rintro ⟨_, ⟨hlead, hname, rfl⟩, h⟩
    cases h
    refine ⟨hlead, hname, ?_⟩
    unfold joined
    cases config.lead <;> rfl
  · rintro ⟨hlead, hname, rfl⟩
    refine ⟨_, ⟨hlead, hname, rfl⟩, ?_⟩
    unfold joined
    cases config.lead <;> rfl

/-- The name behind the leading part is made of name characters. -/
theorem base_chars {config : NamespaceConfig} {grammar : String} (hgrammar : isIdentifier grammar = true)
    (hname : ∀ s ∈ config.name, isIdentifier s = true) :
    ∀ c ∈ (config.base grammar).toList, isNameChar c = true := by
  unfold base
  cases hn : config.name with
  | none =>
    have hpascal : (Casing.pascal grammar).toList = Casing.pascalStyle.chars grammar.toList :=
      String.toList_ofList
    rw [Option.getD_none, hpascal]
    exact nameStyle_pascal.chars_isNameChar (isIdentifierChars_iff.mp hgrammar).2
  | some s => exact (isIdentifierChars_iff.mp (hname s hn)).2

/-- What makes the namespace of an accepted configuration an identifier. Without a leading part, the grammar's
name is all there is if no other is given, and is spelled without underscores. A leading part is recased unless
both parts are joined as they are, and a hyphen is in no identifier. -/
def YieldsIdentifier (config : NamespaceConfig) (grammar : String) : Prop :=
  match config.lead, config.mode with
  | none, _ => config.name = none → ∃ c, firstLetter? grammar = some c ∧ isAsciiDigit c = false
  | some _, .pascal => True
  | some lead, .snake => ∀ c, firstLetter? lead = some c → isAsciiDigit c = false
  | some _, .kebab => False

/-- When the parts of an accepted configuration make an identifier. -/
theorem joined_isIdentifier_iff {config : NamespaceConfig} {grammar : String}
    (hgrammar : isIdentifier grammar = true) (hlead : ∀ s ∈ config.lead, isIdentifier s = true)
    (hname : ∀ s ∈ config.name, isIdentifier s = true) :
    isIdentifier (config.joined grammar) = true ↔ config.YieldsIdentifier grammar := by
  have hbase := base_chars hgrammar hname
  unfold joined YieldsIdentifier
  cases hl : config.lead with
  | none =>
    cases hn : config.name with
    | none => simpa [base, hn] using pascal_isIdentifier_iff hgrammar
    | some s => simpa [base, hn] using hname s hn
  | some lead =>
    have hid : isIdentifier lead = true := hlead lead hl
    cases config.mode with
    | pascal =>
      refine iff_of_true ?_ trivial
      change isIdentifier (lead ++ config.base grammar) = true
      rw [isIdentifier, String.toList_append]
      exact isIdentifierChars_append hid hbase
    | snake =>
      have hsnake : (Casing.snake (config.base grammar)).toList =
          Casing.snakeStyle.chars (config.base grammar).toList := String.toList_ofList
      have hrest : ∀ c ∈ (Casing.snake (config.base grammar)).toList, isNameChar c = true := by
        rw [hsnake]
        exact nameStyle_snake.chars_isNameChar hbase
      have hjoin : (join .snake lead (config.base grammar)).toList =
          (Casing.snake lead).toList ++ '_' :: (Casing.snake (config.base grammar)).toList := by
        simp [join]
      rw [isIdentifier, hjoin]
      exact snake_isIdentifier_iff hid hrest
    | kebab =>
      refine iff_of_false (fun h => ?_) id
      have hhyphen : '-' ∈ (join .kebab lead (config.base grammar)).toList := by simp [join]
      exact absurd ((isIdentifierChars_iff.mp h).2 '-' hhyphen) (by decide)

/-- For every accepted configuration and every grammar name that is an identifier: the namespace is an
identifier, unless it is the grammar's name alone and that has no letter or has a digit first, underscores apart;
or a leading part that is so is put in front in snake case; or the parts are joined by a hyphen. -/
theorem resolve_isIdentifier_iff {config : NamespaceConfig} {grammar ns : String}
    (hgrammar : isIdentifier grammar = true) (h : config.resolve grammar = .ok ns) :
    isIdentifier ns = true ↔ config.YieldsIdentifier grammar := by
  obtain ⟨hlead, hname, rfl⟩ := resolve_eq_ok_iff.mp h
  exact joined_isIdentifier_iff hgrammar hlead hname

/-- An underscore keeps a digit from the front in the names that are given, and not in the namespaces. -/
theorem resolve_isIdentifier_iff_digits :
    (∃ ns, (NamespaceConfig.mk none none .pascal).resolve "_1" = .ok ns ∧ isIdentifier ns = false) ∧
    (∃ ns, (NamespaceConfig.mk (some "_1") none .snake).resolve "mini" = .ok ns ∧ isIdentifier ns = false) ∧
    ∃ ns, (NamespaceConfig.mk (some "_") (some "_1") .snake).resolve "mini" = .ok ns ∧ isIdentifier ns = true := by
  have hdigit : isIdentifier "_1" = true := by decide
  have hmini : isIdentifier "mini" = true := by decide
  have halone : (NamespaceConfig.mk none none .pascal).resolve "_1" = .ok "1" := by rfl
  have hlead : (NamespaceConfig.mk (some "_1") none .snake).resolve "mini" = .ok "1_mini" := by rfl
  have hempty : (NamespaceConfig.mk (some "_") (some "_1") .snake).resolve "mini" = .ok "_1" := by rfl
  refine ⟨⟨_, halone, ?_⟩, ⟨_, hlead, ?_⟩, ⟨_, hempty, ?_⟩⟩
  · refine Bool.eq_false_iff.mpr fun h => ?_
    obtain ⟨c, hc, hfalse⟩ := (resolve_isIdentifier_iff hdigit halone).mp h rfl
    obtain rfl : '1' = c := Option.some.inj hc
    exact absurd hfalse (by decide)
  · refine Bool.eq_false_iff.mpr fun h => ?_
    exact absurd ((resolve_isIdentifier_iff hmini hlead).mp h '1' rfl) (by decide)
  · exact (resolve_isIdentifier_iff hmini hempty).mpr fun c hc => nomatch hc

end NamespaceConfig

end TraversalSdk
