import Mathlib.Data.List.TakeWhile
import TraversalSdk.Proofs.DumpedDocuments
import TraversalSdk.Proofs.ReadingLimits

namespace TraversalSdk

open Checked
open Json (Fits Limits documentLimits)

namespace Json

variable {limits : Limits} {height : Nat}

/-- What fits at a height finds the height within the limits. -/
theorem Fits.room {v : Json} (h : Fits limits height v) : height ≤ limits.depth := by
  have hpos := v.one_le_depth
  have := h.depth_le
  omega

theorem Fits.item {vs : List Json} (h : Fits limits height (.arr vs)) {v : Json} (hv : v ∈ vs) :
    Fits limits (height + 1) v := by
  have hdepth := depthOfItems_le_iff.mp le_rfl v hv
  have hle := h.depth_le
  rw [depth] at hle
  exact ⟨decodedItems_iff.mp h.decoded v hv, by omega⟩

theorem Fits.member {ms : List (String × Json)} (h : Fits limits height (.obj ms)) {m : String × Json}
    (hm : m ∈ ms) : Fits limits (height + 1) m.2 := by
  have hdepth := depthOfMembers_le_iff.mp le_rfl m hm
  have hle := h.depth_le
  rw [depth] at hle
  exact ⟨decodedMembers_iff.mp h.decoded.2 m hm, by omega⟩

theorem Fits.has {v : Json} (h : Fits limits height v) {name : String} {P : Json → Prop} (hv : v.Has name P) :
    ∃ w, Fits limits (height + 1) w ∧ P w := by
  obtain ⟨w, hw, hp⟩ := hv
  cases v with
  | obj ms => exact ⟨w, h.member (mem_of_lookup hw), hp⟩
  | _ => cases hw

mutual

def IsFinite : Json → Prop
  | .real x => x.isFinite = true
  | .arr vs => AreFinite vs
  | .obj ms => MembersFinite ms
  | _ => True

def AreFinite : List Json → Prop
  | [] => True
  | v :: vs => IsFinite v ∧ AreFinite vs

def MembersFinite : List (String × Json) → Prop
  | [] => True
  | (_, v) :: ms => IsFinite v ∧ MembersFinite ms

end

mutual

/-- Taking numbers that are not finite out of a value leaves it as it is just if there are none. -/
theorem finiteOnly_eq_self_iff : (v : Json) → (v.finiteOnly = v ↔ v.IsFinite)
  | .real x => by
    rw [finiteOnly, IsFinite]
    split <;> simp_all
  | .arr vs => by
    rw [finiteOnly, IsFinite, Json.arr.injEq]
    exact finiteItems_eq_self_iff vs
  | .obj ms => by
    rw [finiteOnly, IsFinite, Json.obj.injEq]
    exact finiteMembers_eq_self_iff ms
  | .null | .bool _ | .int _ | .str _ => by simp [finiteOnly, IsFinite]

theorem finiteItems_eq_self_iff : (vs : List Json) → (finiteItems vs = vs ↔ AreFinite vs)
  | [] => by simp [finiteItems, AreFinite]
  | v :: vs => by
    rw [finiteItems, AreFinite, List.cons.injEq, finiteOnly_eq_self_iff v, finiteItems_eq_self_iff vs]

theorem finiteMembers_eq_self_iff : (ms : List (String × Json)) → (finiteMembers ms = ms ↔ MembersFinite ms)
  | [] => by simp [finiteMembers, MembersFinite]
  | (key, v) :: ms => by
    rw [finiteMembers, MembersFinite, List.cons.injEq, Prod.mk.injEq, eq_self_iff_true, true_and,
      finiteOnly_eq_self_iff v, finiteMembers_eq_self_iff ms]

end

theorem finiteMembers_eq_map (ms : List (String × Json)) :
    finiteMembers ms = ms.map fun m => (m.1, m.2.finiteOnly) := by
  induction ms with
  | nil => rfl
  | cons m ms ih => rw [finiteMembers, ih, List.map_cons]

mutual

/-- A value without the numbers that are not finite fits wherever it did with them. -/
theorem fits_finiteOnly {limits : Limits} {height : Nat} : (v : Json) → Fits limits height v →
    Fits limits height v.finiteOnly
  | .real x, h => by
    rw [finiteOnly]
    split
    · exact h
    · exact fits_scalar trivial rfl h.room
  | .arr vs, h => by
    rw [finiteOnly]
    exact .arr h.room (fits_finiteItems vs fun _ => h.item)
  | .obj ms, h => by
    rw [finiteOnly]
    refine .obj h.room ?_ (fits_finiteMembers ms fun _ => h.member)
    rw [finiteMembers_eq_map, List.map_map]
    exact h.decoded.1
  | .null, h | .bool _, h | .int _, h | .str _, h => h

theorem fits_finiteItems {limits : Limits} {height : Nat} : (vs : List Json) →
    (∀ v ∈ vs, Fits limits height v) → ∀ v ∈ finiteItems vs, Fits limits height v
  | [], _ => nofun
  | v :: vs, h => by
    obtain ⟨hv, hvs⟩ := List.forall_mem_cons.mp h
    exact List.forall_mem_cons.mpr ⟨fits_finiteOnly v hv, fits_finiteItems vs hvs⟩

theorem fits_finiteMembers {limits : Limits} {height : Nat} : (ms : List (String × Json)) →
    (∀ m ∈ ms, Fits limits height m.2) → ∀ m ∈ finiteMembers ms, Fits limits height m.2
  | [], _ => nofun
  | m :: ms, h => by
    obtain ⟨hm, hms⟩ := List.forall_mem_cons.mp h
    exact List.forall_mem_cons.mpr ⟨fits_finiteOnly m.2 hm, fits_finiteMembers ms hms⟩

end

end Json

/-- What is written of a checked value fits wherever that value fits. -/
def Contracts {α : Type} (limits : Limits) (check : Json → Checked α) (write : α → Json) : Prop :=
  ∀ height v a, Fits limits height v → check v = .sound a → Fits limits height (write a)

namespace Contracts

variable {α : Type} {limits : Limits} {check : Json → Checked α} {write : α → Json}
  {ms : List (String × Json)} {key : String} {height : Nat} {a : α}

theorem text : Contracts limits Checked.text .str := by
  intro height v s hv hs
  rw [← Rule.text_eq_sound_iff.mp hs]
  exact hv

theorem tuple (h : Contracts limits check write) : Contracts limits (Checked.tuple check) (Json.list write) := by
  intro height v as hv has
  obtain ⟨vs, rfl, hvs⟩ := tuple_eq_sound_iff.mp has
  refine .arr hv.room (List.forall_mem_map.mpr fun a ha => ?_)
  obtain ⟨w, hw, hcheck⟩ := exists_left hvs ha
  exact h _ w a (hv.item hw) hcheck

theorem mapping (h : Contracts limits check write) : Contracts limits (Checked.mapping check)
    fun as => .obj (as.map fun p => (p.1, write p.2)) := by
  intro height v as hv has
  obtain ⟨ms, rfl, hms⟩ := mapping_eq_sound_iff.mp has
  have hkeys : ms.map Prod.fst = as.map Prod.fst := forall₂_map_eq hms fun _ _ h => h.1
  refine .obj hv.room ?_ (List.forall_mem_map.mpr fun p hp => ?_)
  · rw [List.map_map]
    exact hkeys ▸ hv.decoded.1
  · obtain ⟨m, hm, _, hcheck⟩ := exists_left hms hp
    exact h _ m.2 p.2 (hv.member hm) hcheck

theorem required (h : Contracts limits check write) (hms : ∀ m ∈ ms, Fits limits height m.2)
    (ha : Checked.required key check ms = .sound a) : Fits limits height (write a) := by
  obtain ⟨v, hv, ha⟩ := required_eq_sound_iff.mp ha
  exact h height v a (hms _ (mem_of_lookup hv)) ha

/-- A list that is not given is written as an empty one. -/
theorem items (h : Contracts limits check write) (hms : ∀ m ∈ ms, Fits limits height m.2)
    (hroom : height ≤ limits.depth) {as : List α}
    (has : Checked.defaulted key [] (Checked.tuple check) ms = .sound as) :
    Fits limits height (Json.list write as) := by
  rcases defaulted_eq_sound_iff.mp has with ⟨_, rfl⟩ | ⟨v, hv, has⟩
  · exact .arr hroom nofun
  · exact h.tuple height v as (hms _ (mem_of_lookup hv)) has

end Contracts

theorem WholeText.length_of_strict {cs : List Char} {n : Int} (h : strict cs = .ok n) :
    (Nat.toDigits 10 n.natAbs).length ≤ digitLimit := by
  unfold strict at h
  dsimp only at h
  generalize (cs.head? == some '-') = negative at h
  generalize (if negative = true then cs.tail else cs) = unsigned at h
  generalize hds : unsigned.takeWhile Text.isAsciiDigit = ds at h
  have hdigits : ∀ c ∈ ds, Text.isAsciiDigit c = true := hds ▸ fun c hc => List.mem_takeWhile_imp hc
  split_ifs at h with hempty hlimit _ hnegative
  all_goals
    have hne : ds ≠ [] := by
      rintro rfl
      exact hempty rfl
    have hlength := Json.length_toDigits_naturalOfDigits hdigits hne
    cases h
  · rw [Int.natAbs_neg, Int.natAbs_natCast]
    exact hlength.trans (Nat.not_lt.mp hlimit)
  · rw [Int.natAbs_natCast]
    exact hlength.trans (Nat.not_lt.mp hlimit)

theorem WholeText.length_of_free {s : String} {n : Int} (h : free s = .ok n) :
    (Nat.toDigits 10 n.natAbs).length ≤ digitLimit := by
  unfold free at h
  split at h
  · split at h
    · exact length_of_strict h
    · cases h
  · exact length_of_strict h

theorem natAbs_of_wholeOfReal {x : Binary64} {n : Int} (h : wholeOfReal x = .ok n) : n.natAbs < 10 ^ 19 := by
  unfold wholeOfReal at h
  split at h
  · split at h
    · next hbounds =>
      cases h
      obtain ⟨hlow, hhigh⟩ := (Bool.and_eq_true_iff.mp hbounds).imp of_decide_eq_true of_decide_eq_true
      unfold wordBound at hlow hhigh
      omega
    · cases h
  · cases h

theorem Contracts.whole {limits : Limits} (hdigits : WholeText.digitLimit ≤ limits.digits) :
    Contracts limits Checked.whole .int := by
  intro height v n hv hn
  -- A number of at most nineteen digits is within every limit.
  have hshort {n : Int} (h : n.natAbs < 10 ^ 19) : Fits limits height (.int n) := by
    refine fits_scalar ?_ rfl hv.room
    have hlength : (Nat.toDigits 10 n.natAbs).length ≤ 19 := (Nat.length_toDigits_le_iff (by decide) (by decide)).mpr h
    exact hlength.trans (Nat.le_trans (by decide) hdigits)
  cases v with
  | int m =>
    cases hn
    exact hv
  | bool b =>
    cases hn
    cases b <;> exact hshort (by decide)
  | real x =>
    rw [Checked.whole] at hn
    split at hn
    · next m hm =>
      cases hn
      exact hshort (natAbs_of_wholeOfReal hm)
    · cases hn
  | str s =>
    rw [Checked.whole] at hn
    split at hn
    · next m hm =>
      cases hn
      exact fits_scalar ((WholeText.length_of_free hm).trans hdigits) rfl hv.room
    · cases hn
  | null | arr _ | obj _ => cases hn

namespace Rule

theorem level_eq_sound {v : Json} {l : Level} (h : level v = .sound l) :
    (∃ s, v = .str s ∧ l = .name s) ∨ ∃ n, Checked.whole v = .sound n ∧ l = .number n := by
  unfold level at h
  split at h
  · cases h
    exact .inl ⟨_, rfl, rfl⟩
  · split at h
    · next n hn =>
      cases h
      exact .inr ⟨n, hn, rfl⟩
    · cases h

/-- A precedence that is read from a text as a number has no longer digits than a text may have. -/
theorem contracts_level {limits : Limits} (hdigits : WholeText.digitLimit ≤ limits.digits) :
    Contracts limits level Level.toJson := by
  intro height v l hv hl
  rcases level_eq_sound hl with ⟨s, rfl, rfl⟩ | ⟨n, hn, rfl⟩
  · exact hv
  · exact Contracts.whole hdigits height v n hv hn

variable {limits : Limits}

/-- A dump is an object with its tag first, and its other members lie as deep as the tag. -/
theorem fits_tagged {height : Nat} {v : Json} (hv : Fits limits height v) {k : RuleKind}
    {ms : List (String × Json)} (hkeys : ("type" :: ms.map Prod.fst).Nodup)
    (hms : ∀ m ∈ ms, Fits limits (height + 1) m.2) (hroom : height + 1 ≤ limits.depth) :
    Fits limits height (.obj (("type", .str k.tag) :: ms)) :=
  .obj hv.room hkeys (List.forall_mem_cons.mpr ⟨fits_scalar trivial rfl hroom, hms⟩)

mutual

/-- The induction is on the rule, which has the shape of the value that it was read from. -/
theorem fits_toJson (hdigits : WholeText.digitLimit ≤ limits.digits) {height : Nat} {v : Json} : (r : Rule) →
    Mirrors r v → Fits limits height v → Fits limits height (r.toJson false)
  | .symbol name, hm, hv | .literal name, hm, hv => by
    rw [Mirrors] at hm
    obtain ⟨_, htag, _⟩ := hv.has hm.1
    rw [toJson]
    exact fits_tagged hv (by simp) (List.forall_mem_singleton.mpr (fits_scalar trivial rfl htag.room)) htag.room
  | .pattern source flags, hm, hv => by
    rw [Mirrors] at hm
    obtain ⟨_, htag, _⟩ := hv.has hm.1
    have hstr (s : String) : Fits limits (height + 1) (.str s) := fits_scalar trivial rfl htag.room
    rw [toJson]
    cases flags with
    | none => exact fits_tagged hv (by simp [flagsMember]) (List.forall_mem_singleton.mpr (hstr _)) htag.room
    | some s =>
      refine fits_tagged hv (by simp [flagsMember]) ?_ htag.room
      exact List.forall_mem_cons.mpr ⟨hstr _, List.forall_mem_singleton.mpr (hstr s)⟩
  | .blank, hm, hv => by
    rw [Mirrors] at hm
    obtain ⟨_, htag, _⟩ := hv.has hm.1
    rw [toJson]
    exact fits_tagged hv (by simp) nofun htag.room
  | .seq rs, hm, hv | .choice rs, hm, hv => by
    rw [Mirrors] at hm
    obtain ⟨_, hw, vs, rfl, hrs⟩ := hv.has hm.2
    rw [toJson]
    refine fits_tagged hv (by simp) (List.forall_mem_singleton.mpr ?_) hw.room
    exact .arr hw.room (fits_toJsons hdigits rs hrs fun _ => hw.item)
  | .star c, hm, hv | .plus c, hm, hv | .token c, hm, hv | .immediateToken c, hm, hv => by
    rw [Mirrors] at hm
    obtain ⟨_, hw, hc⟩ := hv.has hm.2
    rw [toJson]
    exact fits_tagged hv (by simp) (List.forall_mem_singleton.mpr (fits_toJson hdigits c hc hw)) hw.room
  | .field name c, hm, hv => by
    rw [Mirrors] at hm
    obtain ⟨_, hw, hc⟩ := hv.has hm.2.2
    rw [toJson]
    refine fits_tagged hv (by simp) (List.forall_mem_cons.mpr ⟨fits_scalar trivial rfl hw.room, ?_⟩) hw.room
    exact List.forall_mem_singleton.mpr (fits_toJson hdigits c hc hw)
  | .aliased c named value, hm, hv => by
    rw [Mirrors] at hm
    obtain ⟨_, hw, hc⟩ := hv.has hm.2.1
    rw [toJson]
    refine fits_tagged hv (by simp) (List.forall_mem_cons.mpr ⟨fits_toJson hdigits c hc hw, ?_⟩) hw.room
    exact List.forall_mem_cons.mpr ⟨fits_scalar trivial rfl hw.room,
      List.forall_mem_singleton.mpr (fits_scalar trivial rfl hw.room)⟩
  | .prec side l c, hm, hv => by
    rw [Mirrors] at hm
    obtain ⟨_, hw, hc⟩ := hv.has hm.2.2
    obtain ⟨u, hu, hl⟩ := hv.has hm.2.1
    rw [toJson]
    refine fits_tagged hv (by simp) (List.forall_mem_cons.mpr ⟨contracts_level hdigits _ u l hu hl, ?_⟩) hw.room
    exact List.forall_mem_singleton.mpr (fits_toJson hdigits c hc hw)
  | .precDynamic n c, hm, hv => by
    rw [Mirrors] at hm
    obtain ⟨_, hw, hc⟩ := hv.has hm.2.2
    obtain ⟨u, hu, hn⟩ := hv.has hm.2.1
    rw [toJson]
    refine fits_tagged hv (by simp) (List.forall_mem_cons.mpr ⟨Contracts.whole hdigits _ u n hu hn, ?_⟩) hw.room
    exact List.forall_mem_singleton.mpr (fits_toJson hdigits c hc hw)

/-- Rules that mirror what was read lie no deeper than that. -/
theorem fits_toJsons (hdigits : WholeText.digitLimit ≤ limits.digits) {height : Nat} {vs : List Json} :
    (rs : List Rule) → MirrorEach rs vs → (∀ v ∈ vs, Fits limits height v) →
    ∀ v ∈ toJsons false rs, Fits limits height v
  | [], _, _ => nofun
  | r :: rs, hm, hvs => by
    rw [MirrorEach] at hm
    obtain ⟨w, ws, rfl, hr, hrs⟩ := hm
    obtain ⟨hw, hws⟩ := List.forall_mem_cons.mp hvs
    exact List.forall_mem_cons.mpr ⟨fits_toJson hdigits r hr hw, fits_toJsons hdigits rs hrs hws⟩

end

theorem contracts (hdigits : WholeText.digitLimit ≤ limits.digits) : Contracts limits decode (toJson false) :=
  fun _ v r hv hr => fits_toJson hdigits r (mirrors_of_decode v r hr) hv

end Rule

namespace Grammar

theorem wordMember_eq (nulls : Bool) (word : Option String) :
    wordMember nulls word = optionalMember nulls "word" .str word := by
  cases word <;> rfl

/-- The known members of a grammar are written in a fixed order. -/
theorem keys_members (nulls : Bool) (g : Grammar) : ((g.members nulls).map Prod.fst).Sublist knownMembers := by
  unfold members
  cases g.word <;> cases nulls <;> simp [wordMember, knownMembers]

/-- Members that are known are not kept among those that are not. -/
theorem unknown_of_decode {v : Json} {g : Grammar} (h : decode v = .sound g) :
    ∀ m ∈ g.unknown, m.1 ∉ knownMembers := by
  obtain ⟨ms, rfl, _, _, _, _, _, _, _, _, _, hunknown⟩ := decode_eq_sound_iff.mp h
  rw [← hunknown]
  intro m hm
  simpa using (List.mem_filter.mp hm).2

theorem keptUnknown_eq_map (g : Grammar) : g.keptUnknown false =
    (g.unknown.filter fun m => !m.2.isNull).map fun m => (m.1, m.2.finiteOnly) :=
  Json.finiteMembers_eq_map _

theorem keys_keptUnknown (nulls : Bool) (g : Grammar) :
    ((g.keptUnknown nulls).map Prod.fst).Sublist (g.unknown.map Prod.fst) := by
  cases nulls with
  | true => exact .refl _
  | false =>
    rw [keptUnknown_eq_map, List.map_map]
    exact (List.filter_sublist).map Prod.fst

theorem keptUnknown_unknown {nulls : Bool} {g : Grammar} (h : ∀ m ∈ g.unknown, m.1 ∉ knownMembers) :
    ∀ m ∈ g.keptUnknown nulls, m.1 ∉ knownMembers := by
  intro m hm
  obtain ⟨m', hm', he⟩ := List.mem_map.mp ((keys_keptUnknown nulls g).mem (List.mem_map_of_mem hm))
  rw [← he]
  exact h m' hm'

/-- A grammar that is written has no key twice. -/
theorem nodup_keys {nulls : Bool} {g : Grammar} (h : ∀ m ∈ g.unknown, m.1 ∉ knownMembers)
    (hn : (g.unknown.map Prod.fst).Nodup) :
    ((g.members nulls ++ g.keptUnknown nulls).map Prod.fst).Nodup := by
  rw [List.map_append, List.nodup_append]
  refine ⟨(keys_members nulls g).nodup (by decide), (keys_keptUnknown nulls g).nodup hn, ?_⟩
  rintro key hkey _ hkept rfl
  obtain ⟨m, hm, rfl⟩ := List.mem_map.mp hkept
  exact keptUnknown_unknown h m hm ((keys_members nulls g).mem hkey)

section
variable {limits : Limits} {ms : List (String × Json)} {g : Grammar}

/-- Each member that is known was read from one where there is room, and lists that were not given are empty. -/
theorem fits_members (hdigits : WholeText.digitLimit ≤ limits.digits) (hms : ∀ m ∈ ms, Fits limits 1 m.2)
    (h : decode (.obj ms) = .sound g) : ∀ m ∈ g.members false, Fits limits 1 m.2 := by
  obtain ⟨_, heq, hname, hrules, hextras, hconflicts, hprecedences, hexternals, hinlined, hsupertypes, _, _⟩ :=
    decode_eq_sound_iff.mp h
  cases heq
  have htext : Contracts limits text .str := .text
  have hrule : Contracts limits Rule.decode (Rule.toJson false) := Rule.contracts hdigits
  have hname := htext.required hms hname
  simp only [members, List.forall_mem_append, List.forall_mem_cons]
  refine ⟨⟨hname, hrule.mapping.required hms hrules, hrule.items hms hname.room hextras,
    htext.tuple.items hms hname.room hconflicts, hrule.tuple.items hms hname.room hprecedences,
    hrule.items hms hname.room hexternals, htext.items hms hname.room hinlined,
    htext.items hms hname.room hsupertypes, nofun⟩, ?_⟩
  rw [wordMember_eq]
  exact fits_optionalMember fun s _ => fits_scalar trivial rfl hname.room

/-- The dump of a grammar fits wherever the grammar was read from. -/
theorem fits_toJson (hdigits : WholeText.digitLimit ≤ limits.digits) {v : Json} (hv : Fits limits 0 v)
    (h : decode v = .sound g) : Fits limits 0 (g.toJson false) := by
  have hunknown := unknown_of_decode h
  obtain ⟨ms, rfl, _, _, _, _, _, _, _, _, _, hrest⟩ := decode_eq_sound_iff.mp h
  have hms : ∀ m ∈ ms, Fits limits 1 m.2 := fun m hm => hv.member hm
  have hsub : g.unknown.Sublist ms := hrest ▸ List.filter_sublist
  have hkept : ∀ m ∈ g.keptUnknown false, Fits limits 1 m.2 :=
    Json.fits_finiteMembers _ fun m hm => hms m (hsub.mem (List.mem_filter.mp hm).1)
  refine .obj (Nat.zero_le _) ?_ (List.forall_mem_append.mpr ⟨fits_members hdigits hms h, hkept⟩)
  exact nodup_keys hunknown ((hsub.map Prod.fst).nodup hv.decoded.1)

end

end Grammar

end TraversalSdk
