import TraversalSdk.Proofs.JsonReading
import TraversalSdk.Proofs.ReorderedDocuments
import TraversalSdk.Proofs.RuleReading

namespace TraversalSdk

open Checked
open Json (Fits Limits documentLimits)

theorem lookup_optionalMember_ne {α : Type} {nulls : Bool} {key other : String} {write : α → Json}
    {o : Option α} (h : key ≠ other) : lookup other (optionalMember nulls key write o) = none := by
  cases o with
  | none => cases nulls <;> simp [optionalMember, lookup, h]
  | some a => simp [optionalMember, lookup, h]

namespace Checked

variable {α : Type} {check : Json → Checked α} {write : α → Json} {ms : List (String × Json)}
  {key : String}

theorem required_of_lookup {v : Json} {a : α} (hv : lookup key ms = some v) (ha : check v = .sound a) :
    required key check ms = .sound a :=
  required_eq_sound_iff.mpr ⟨v, hv, ha⟩

theorem defaulted_of_lookup {v : Json} {default a : α} (hv : lookup key ms = some v)
    (ha : check v = .sound a) : defaulted key default check ms = .sound a :=
  defaulted_eq_sound_iff.mpr (.inr ⟨v, hv, ha⟩)

theorem tuple_list {l : List α} (h : ∀ a ∈ l, check (write a) = .sound a) :
    tuple check (Json.list write l) = .sound l :=
  tuple_eq_sound_iff.mpr ⟨_, rfl, List.forall₂_map_left_iff.mpr (List.forall₂_same.mpr h)⟩

theorem mapping_map {l : List (String × α)} (h : ∀ p ∈ l, check (write p.2) = .sound p.2) :
    mapping check (.obj (l.map fun p => (p.1, write p.2))) = .sound l := by
  refine mapping_eq_sound_iff.mpr ⟨_, rfl, List.forall₂_map_left_iff.mpr (List.forall₂_same.mpr ?_)⟩
  exact fun p hp => ⟨rfl, h p hp⟩

/-- A member that may be null or left out is read as what it was, wherever it stands. -/
theorem defaulted_optionalMember (nulls : Bool) {o : Option α} {before after : List (String × Json)}
    (hbefore : lookup key before = none) (hafter : lookup key after = none)
    (h : ∀ a, o = some a → write a ≠ .null ∧ check (write a) = .sound a) :
    defaulted key none (nullable check) (before ++ optionalMember nulls key write o ++ after) = .sound o := by
  have hlookup : lookup key (before ++ optionalMember nulls key write o ++ after) =
      lookup key (optionalMember nulls key write o) := by
    rw [lookup_append, lookup_append, hbefore, hafter, Option.none_or, Option.or_none]
  cases o with
  | none =>
    cases nulls with
    | false => exact defaulted_eq_sound_iff.mpr (.inl ⟨by rw [hlookup]; rfl, rfl⟩)
    | true => exact defaulted_of_lookup (v := .null) (by rw [hlookup]; simp [optionalMember, lookup]) rfl
  | some a =>
    obtain ⟨hnull, ha⟩ := h a rfl
    refine defaulted_of_lookup (v := write a) (by rw [hlookup]; simp [optionalMember, lookup]) ?_
    exact nullable_eq_sound_iff.mpr (.inr ⟨hnull, a, ha, rfl⟩)

end Checked

namespace Rule

theorem decode_tagged (k : RuleKind) (ms : List (String × Json)) :
    decode (.obj (("type", .str k.tag) :: ms)) =
      under (.branch k.tag) (decodeAs k (("type", .str k.tag) :: ms)) := by
  rw [decode]
  simp [lookup, ofTag?_tag]

theorem level_toJson (l : Level) : level l.toJson = .sound l := by
  cases l <;> rfl

theorem flags_toJson (nulls : Bool) (flags : Option String) (before : List (String × Json))
    (h : lookup "flags" before = none) :
    defaulted "flags" none (nullable text) (before ++ flagsMember nulls flags) = .sound flags := by
  have hmember : flagsMember nulls flags = optionalMember nulls "flags" .str flags := by
    cases flags <;> rfl
  rw [hmember, ← List.append_nil (before ++ _)]
  exact defaulted_optionalMember nulls h rfl fun s _ => ⟨nofun, rfl⟩

mutual

/-- A rule that is written is read as itself, with the null of a pattern without flags or without it. -/
theorem decode_toJson (nulls : Bool) : (r : Rule) → decode (r.toJson nulls) = .sound r
  | .symbol name | .literal name => by
    rw [toJson, decode_tagged]
    simp [kind, decodeAs, required, lookup, text, map_eq_sound_iff]
  | .pattern source flags => by
    have hflags := flags_toJson nulls flags
      [("type", .str RuleKind.pattern.tag), ("value", .str source)] (by simp [lookup])
    rw [toJson, decode_tagged]
    simp only [kind, decodeAs, under_eq_sound_iff, seq_eq_sound_iff, map_eq_sound_iff]
    have hsource : required "value" text (("type", .str RuleKind.pattern.tag) :: ("value", .str source) ::
        flagsMember nulls flags) = .sound source :=
      required_of_lookup (v := .str source) (by simp [lookup]) rfl
    exact ⟨_, flags, ⟨source, hsource, rfl⟩, hflags, rfl⟩
  | .blank => by
    rw [toJson, decode_tagged]
    simp [kind, decodeAs]
  | .seq rs | .choice rs => by
    have hrs := decodeAll_toJsons nulls rs
    rw [toJson, decode_tagged]
    simp [kind, decodeAs, decodeMembers_eq, required, lookup, tuple_eq_sound_iff, map_eq_sound_iff, hrs]
  | .star c | .plus c | .token c | .immediateToken c => by
    have hc := decode_toJson nulls c
    rw [toJson, decode_tagged]
    simp [kind, decodeAs, decodeContent_eq, required, lookup, map_eq_sound_iff, hc]
  | .field name c => by
    have hc := decode_toJson nulls c
    rw [toJson, decode_tagged]
    simp [kind, decodeAs, decodeContent_eq, required, lookup, text, seq_eq_sound_iff, map_eq_sound_iff, hc]
  | .aliased c named value => by
    have hc := decode_toJson nulls c
    rw [toJson, decode_tagged]
    simp [kind, decodeAs, decodeContent_eq, required, lookup, text, flag, seq_eq_sound_iff, map_eq_sound_iff,
      hc]
  | .prec side l c => by
    have hc := decode_toJson nulls c
    rw [toJson, decode_tagged]
    cases side <;>
      simp [kind, Side.kind, decodeAs, decodeContent_eq, required, lookup, level_toJson, seq_eq_sound_iff,
        map_eq_sound_iff, hc]
  | .precDynamic n c => by
    have hc := decode_toJson nulls c
    rw [toJson, decode_tagged]
    simp [kind, decodeAs, decodeContent_eq, required, lookup, whole, seq_eq_sound_iff, map_eq_sound_iff, hc]

/-- So is each rule of a list. -/
theorem decodeAll_toJsons (nulls : Bool) : (rs : List Rule) →
    List.Forall₂ (fun v r => decode v = .sound r) (toJsons nulls rs) rs
  | [] => .nil
  | r :: rs => .cons (decode_toJson nulls r) (decodeAll_toJsons nulls rs)

end

theorem ofJson?_toJson (nulls : Bool) (location : String) (r : Rule) :
    ofJson? location (r.toJson nulls) = .ok r := by
  rw [ofJson?, decode_toJson, toExcept]
  rfl

end Rule

theorem NodeRef.decode_toJson (r : NodeRef) : decode r.toJson = .sound r := by
  simp [decode, toJson, members, object, required, lookup, text, flag, seq_eq_sound_iff, map_eq_sound_iff]

theorem types_toJson (l : List NodeRef) : tuple NodeRef.decode (Json.list NodeRef.toJson l) = .sound l :=
  tuple_list fun r _ => r.decode_toJson

theorem ChildSpec.decode_toJson (s : ChildSpec) : decode s.toJson = .sound s :=
  decode_eq_sound_iff.mpr ⟨_, rfl, defaulted_of_lookup (v := .bool s.multiple) (by simp [lookup]) rfl,
    defaulted_of_lookup (v := .bool s.required) (by simp [lookup]) rfl,
    defaulted_of_lookup (by simp [lookup]) (types_toJson s.types)⟩

/-- A declaration that is written is read as itself. -/
theorem Descriptor.decode_toJson (nulls : Bool) (d : Descriptor) : decode (d.toJson nulls) = .sound d := by
  have hfields : mapping ChildSpec.decode (.obj (d.fields.map fun f => (f.1, f.2.toJson))) = .sound d.fields :=
    mapping_map fun f _ => f.2.decode_toJson
  refine decode_eq_sound_iff.mpr ⟨_, rfl,
    required_of_lookup (v := .str d.ref.type) (by simp [lookup, NodeRef.members]) rfl,
    required_of_lookup (v := .bool d.ref.named) (by simp [lookup, NodeRef.members]) rfl,
    defaulted_of_lookup (v := .bool d.root) (by simp [lookup, NodeRef.members]) rfl,
    defaulted_of_lookup (v := .bool d.extra) (by simp [lookup, NodeRef.members]) rfl,
    defaulted_of_lookup (by simp [lookup, NodeRef.members]) hfields, ?_, ?_⟩
  · refine defaulted_optionalMember nulls ?_ ?_ fun spec _ => ⟨nofun, spec.decode_toJson⟩
    · simp [lookup, NodeRef.members]
    · exact lookup_optionalMember_ne (by decide)
  · rw [← List.append_nil (_ ++ optionalMember nulls "subtypes" _ _)]
    refine defaulted_optionalMember nulls ?_ rfl fun l _ => ⟨nofun, types_toJson l⟩
    rw [lookup_append, lookup_optionalMember_ne (by decide)]
    simp [lookup, NodeRef.members]

/-- A value without parts fits wherever a value may stand. -/
theorem fits_scalar {limits : Limits} {height : Nat} {v : Json} (hv : v.Decoded limits) (hone : v.depth = 1)
    (h : height ≤ limits.depth) : Fits limits height v := ⟨hv, by omega⟩

theorem fits_list {α : Type} {limits : Limits} {height : Nat} {write : α → Json} {l : List α}
    (h : height ≤ limits.depth) (hl : ∀ a ∈ l, Fits limits (height + 1) (write a)) :
    Fits limits height (Json.list write l) :=
  .arr h (List.forall_mem_map.mpr hl)

theorem NodeRef.fits (r : NodeRef) {limits : Limits} {height : Nat} (h : height + 1 ≤ limits.depth) :
    Fits limits height r.toJson := by
  refine .obj (Nat.le_of_succ_le h) (by simp [members]) ?_
  exact List.forall_mem_cons.mpr
    ⟨fits_scalar trivial rfl h, List.forall_mem_singleton.mpr (fits_scalar trivial rfl h)⟩

theorem ChildSpec.fits (s : ChildSpec) {limits : Limits} {height : Nat} (h : height + 3 ≤ limits.depth) :
    Fits limits height s.toJson := by
  have hflag (b : Bool) : Fits limits (height + 1) (.bool b) := fits_scalar trivial rfl (by omega)
  have htypes : Fits limits (height + 1) (Json.list NodeRef.toJson s.types) :=
    fits_list (by omega) fun r _ => r.fits (by omega)
  refine .obj (by omega) (by simp) ?_
  simp only [List.forall_mem_cons]
  exact ⟨hflag _, hflag _, htypes, nofun⟩

theorem fits_optionalMember {α : Type} {limits : Limits} {height : Nat} {key : String} {write : α → Json}
    {o : Option α} (h : ∀ a ∈ o, Fits limits height (write a)) :
    ∀ m ∈ optionalMember false key write o, Fits limits height m.2 := by
  cases o with
  | none => exact nofun
  | some a => exact List.forall_mem_singleton.mpr (h a rfl)

/-- A declaration lies five levels deep at most. -/
theorem Descriptor.fits {d : Descriptor} (hd : (d.fields.map Prod.fst).Nodup) {limits : Limits} {height : Nat}
    (h : height + 5 ≤ limits.depth) : Fits limits height (d.toJson false) := by
  have hstr (s : String) : Fits limits (height + 1) (.str s) := fits_scalar trivial rfl (by omega)
  have hflag (b : Bool) : Fits limits (height + 1) (.bool b) := fits_scalar trivial rfl (by omega)
  have hfields : Fits limits (height + 1) (.obj (d.fields.map fun f => (f.1, f.2.toJson))) := by
    refine .obj (by omega) (by rwa [List.map_map]) (List.forall_mem_map.mpr fun f _ => ?_)
    exact f.2.fits (by omega)
  have hsubtypes : ∀ l ∈ d.subtypes, Fits limits (height + 1) (Json.list NodeRef.toJson l) :=
    fun l _ => fits_list (by omega) fun r _ => r.fits (by omega)
  refine .obj (by omega) ?_ ?_
  · cases d.children <;> cases d.subtypes <;> simp [optionalMember, NodeRef.members]
  · simp only [NodeRef.members, List.forall_mem_append, List.forall_mem_cons]
    exact ⟨⟨⟨⟨hstr _, hflag _, nofun⟩, hflag _, hflag _, hfields, nofun⟩,
      fits_optionalMember fun s _ => s.fits (by omega)⟩, fits_optionalMember hsubtypes⟩

namespace Catalogue

variable {c : Catalogue}

/-- The text of a catalogue can be read, since none of its objects repeats a key. -/
theorem readable_toJson (hfields : ∀ d ∈ c.descriptors, (d.fields.map Prod.fst).Nodup) :
    (c.toJson false).Readable := by
  have hfits : Json.Fits documentLimits 0 (c.toJson false) :=
    fits_list (by decide) fun d hd => d.fits (hfields d hd) (by decide)
  exact ⟨hfits.decoded, hfits.depth_le⟩

/-- A closed catalogue that is written is read as itself. -/
theorem ofJson?_toJson (h : c.Closed) (nulls : Bool) : ofJson? (c.toJson nulls) = .ok c := by
  refine ofJson?_eq_ok_iff.mpr ⟨?_, h⟩
  exact List.forall₂_map_left_iff.mpr (List.forall₂_same.mpr fun d _ => d.decode_toJson nulls)

theorem ofText?_document (h : c.Closed) (hfields : ∀ d ∈ c.descriptors, (d.fields.map Prod.fst).Nodup) :
    ofText? (c.toJson false).document = .ok c := by
  rw [ofText?, (readable_toJson hfields).ofText?_document]
  exact ofJson?_toJson h false

/-- A catalogue that passed its check is closed and declares what it was made of. -/
theorem closed_of_ofClosed? {ds : List Descriptor} (h : ofClosed? ds = .ok c) :
    c.descriptors = ds ∧ c.Closed := by
  obtain ⟨c', hc', h⟩ := bind_eq_ok.mp h
  obtain ⟨_, hcheck, h⟩ := bind_eq_ok.mp h
  cases h
  exact ⟨ofDescriptors?_eq_ok_iff.mp hc', check_eq_ok_iff.mp hcheck⟩

end Catalogue

/-- The fields that are read are the members of an object, so they do not repeat where its keys do not. -/
theorem Descriptor.nodup_fields {limits : Limits} {v : Json} {d : Descriptor} (hv : v.Decoded limits)
    (hd : decode v = .sound d) : (d.fields.map Prod.fst).Nodup := by
  obtain ⟨ms, rfl, _, _, _, _, hfields, _⟩ := decode_eq_sound_iff.mp hd
  rcases defaulted_eq_sound_iff.mp hfields with ⟨_, hnone⟩ | ⟨w, hw, hmapping⟩
  · rw [← hnone]
    exact .nil
  · obtain ⟨fs, rfl, hfs⟩ := mapping_eq_sound_iff.mp hmapping
    have hkeys : fs.map Prod.fst = d.fields.map Prod.fst := forall₂_map_eq hfs fun _ _ h => h.1
    have hdecoded : (Json.obj fs).Decoded limits := Json.decodedMembers_iff.mp hv.2 _ (mem_of_lookup hw)
    exact hkeys ▸ hdecoded.1

namespace Catalogue

variable {c : Catalogue}

theorem isArray_of_ofJson? {v : Json} (h : ofJson? v = .ok c) : ∃ vs, v = .arr vs := by
  cases v with
  | arr vs => exact ⟨vs, rfl⟩
  | _ => cases h

/-- From JSON whose objects repeat no key, nothing but lists of declarations with distinct fields is read. -/
theorem nodup_fields_of_ofJson? {limits : Limits} {v : Json} (hv : v.Decoded limits) (h : ofJson? v = .ok c) :
    ∀ d ∈ c.descriptors, (d.fields.map Prod.fst).Nodup := by
  intro d hd
  obtain ⟨vs, rfl⟩ := isArray_of_ofJson? h
  obtain ⟨w, hw, hdecode⟩ := exists_left (ofJson?_eq_ok_iff.mp h).1 hd
  exact Descriptor.nodup_fields (Json.decodedItems_iff.mp hv w hw) hdecode

theorem closed_of_ofJson? {v : Json} (h : ofJson? v = .ok c) : c.Closed := by
  obtain ⟨vs, rfl⟩ := isArray_of_ofJson? h
  exact (ofJson?_eq_ok_iff.mp h).2

end Catalogue

/-- Every rule is read from its dump, with nulls kept or left out. Every list of declarations that makes a
catalogue is read from the text of that catalogue, in its order; fields are mappings, so their names differ. What
is read once is therefore in normal form: dumping it and reading it again changes nothing. The keys of an
object differ in whatever has been decoded, within any limits. -/
theorem dump_read_inverse :
    (∀ location nulls r, Rule.ofJson? location (r.toJson nulls) = .ok r) ∧
    (∀ ds c, (∀ d ∈ ds, (d.fields.map Prod.fst).Nodup) → Catalogue.ofClosed? ds = .ok c →
      ∃ text, Catalogue.ofInput? (.parsed c) = .ok (c, text) ∧
        ∃ c', Catalogue.ofText? text = .ok c' ∧ c'.descriptors = ds) ∧
    (∀ location nulls v r, Rule.ofJson? location v = .ok r →
      Rule.ofJson? location (r.toJson nulls) = .ok r) ∧
    ∀ limits v c, v.Decoded limits → Catalogue.ofJson? v = .ok c →
      (∀ nulls, Catalogue.ofJson? (c.toJson nulls) = .ok c) ∧
      ∃ text, Catalogue.ofInput? (.parsed c) = .ok (c, text) ∧ Catalogue.ofText? text = .ok c := by
  refine ⟨fun location nulls r => Rule.ofJson?_toJson nulls location r, fun ds c hfields hc => ?_,
    fun location nulls v r _ => Rule.ofJson?_toJson nulls location r, fun limits v c hv hc => ?_⟩
  · obtain ⟨hds, hclosed⟩ := Catalogue.closed_of_ofClosed? hc
    rw [← hds] at hfields
    exact ⟨_, rfl, c, Catalogue.ofText?_document hclosed hfields, hds⟩
  · have hclosed := Catalogue.closed_of_ofJson? hc
    have hfields := Catalogue.nodup_fields_of_ofJson? hv hc
    exact ⟨fun nulls => Catalogue.ofJson?_toJson hclosed nulls, _, rfl,
      Catalogue.ofText?_document hclosed hfields⟩

def looseRule : Json := .obj [("type", .str "PREC"), ("value", .str "12"), ("note", .int 1),
  ("content", .obj [("type", .str "ALIAS"), ("named", .str "Yes"), ("value", .str "word"),
    ("content", .obj [("type", .str "PATTERN"), ("value", .str "[a-z]+"), ("flags", .null)])])]

def strictRule : Rule := .prec .plain (.name "12") (.aliased (.pattern "[a-z]+" none) true "word")

def looseTypes : Json := .arr [
  .obj [("named", .bool true), ("type", .str "word"), ("children", .null), ("note", .arr [])],
  .obj [("type", .str "line"), ("named", .str "on"), ("root", .int 1), ("fields",
    .obj [("first", .obj [("types", .arr [.obj [("type", .str "word"), ("named", .int 1)]])])])],
  .obj [("type", .str "_item"), ("named", .bool true), ("subtypes",
    .arr [.obj [("type", .str "word"), ("named", .bool true)]])]]

def strictTypes : Catalogue where
  descriptors := [
    ⟨⟨"word", true⟩, false, false, [], none, none⟩,
    ⟨⟨"line", true⟩, true, false, [("first", ⟨false, false, [⟨"word", true⟩]⟩)], none, none⟩,
    ⟨⟨"_item", true⟩, false, false, [], none, some [⟨"word", true⟩]⟩]
  nodup := by decide

/-- A precedence that spells a number and words for truth values come back in their strict form: after one
pass there is nothing more to change. -/
theorem dump_read_inverse_loose :
    Rule.ofJson? "item" looseRule = .ok strictRule ∧
    Rule.ofJson? "item" (strictRule.toJson false) = .ok strictRule ∧
    Catalogue.ofJson? looseTypes = .ok strictTypes ∧
    (∃ text, Catalogue.ofInput? (.parsed strictTypes) = .ok (strictTypes, text) ∧
      Catalogue.ofText? text = .ok strictTypes) ∧
    ∃ text, Catalogue.ofInput? (.parsed strictTypes) = .ok (strictTypes, text) ∧
      ∃ c, Catalogue.ofText? text = .ok c ∧ c.descriptors = strictTypes.descriptors := by
  obtain ⟨_, hlist, hrule, hvalue⟩ := dump_read_inverse
  have hdecode : Rule.decode looseRule = .sound strictRule := by
    refine (Rule.decode_tagged .prec _).trans ?_
    simp only [Rule.decodeAs, Rule.decodeContent_eq, Rule.decode, required, defaulted, lookup, decide_true, decide_false,
      List.find?_cons_of_pos, List.find?_cons_of_neg, Option.map_some, String.reduceEq, RuleKind.ofTag?,
      RuleKind.tag, RuleKind.all, String.reduceBEq, BEq.rfl, Bool.false_eq_true, not_false_eq_true]
    rfl
  have hloose : Rule.ofJson? "item" looseRule = .ok strictRule := by
    rw [Rule.ofJson?, hdecode]
    rfl
  have hclosed : Catalogue.ofClosed? strictTypes.descriptors = .ok strictTypes := by cbv
  have htypes : Catalogue.ofJson? looseTypes = .ok strictTypes := by
    refine Catalogue.ofJson?_eq_ok_iff.mpr ⟨?_, (Catalogue.closed_of_ofClosed? hclosed).2⟩
    exact .cons rfl (.cons rfl (.cons rfl .nil))
  have hdecoded : looseTypes.Decoded documentLimits := by
    simp only [looseTypes, Json.Decoded, Json.DecodedItems, Json.DecodedMembers]
    decide
  exact ⟨hloose, hrule "item" false looseRule strictRule hloose, htypes,
    (hvalue documentLimits looseTypes strictTypes hdecoded htypes).2,
    hlist strictTypes.descriptors strictTypes (by decide) hclosed⟩

end TraversalSdk
