import TraversalSdk.Proofs.DumpedSizes
import TraversalSdk.Proofs.InputForms

namespace TraversalSdk

open Checked
open Json (documentLimits)

namespace Grammar

section
variable {nulls : Bool} {g : Grammar}

/-- A word that was not dumped is not read, as no unknown member passes for it. -/
theorem word_toJson (h : ∀ m ∈ g.keptUnknown nulls, m.1 ∉ knownMembers) :
    defaulted "word" none (nullable text) (g.members nulls ++ g.keptUnknown nulls) = .sound g.word := by
  have hafter : lookup "word" (g.keptUnknown nulls) = none := by
    refine lookup_eq_none_iff.mpr fun hword => ?_
    obtain ⟨m, hm, he⟩ := List.mem_map.mp hword
    exact h m hm (by simp [he, knownMembers])
  have hwrite (s : String) : Json.str s ≠ .null ∧ text (.str s) = .sound s := ⟨Json.noConfusion, rfl⟩
  rw [members, wordMember_eq]
  exact defaulted_optionalMember nulls (by simp [lookup]) hafter fun s _ => hwrite s

theorem unknown_toJson (h : ∀ m ∈ g.keptUnknown nulls, m.1 ∉ knownMembers) :
    (g.members nulls ++ g.keptUnknown nulls).filter (fun m => !knownMembers.contains m.1) =
      g.keptUnknown nulls := by
  have hmembers : (g.members nulls).filter (fun m => !knownMembers.contains m.1) = [] := by
    refine List.filter_eq_nil_iff.mpr fun m hm => ?_
    have hknown := (keys_members nulls g).mem (List.mem_map_of_mem hm)
    simpa using hknown
  have hkept : (g.keptUnknown nulls).filter (fun m => !knownMembers.contains m.1) = g.keptUnknown nulls :=
    List.filter_eq_self.mpr fun m hm => by simpa using h m hm
  rw [List.filter_append, hmembers, hkept, List.nil_append]

/-- A dump is read as the grammar, with those unknown members that were dumped. -/
theorem decode_toJson (nulls : Bool) (h : ∀ m ∈ g.unknown, m.1 ∉ knownMembers) :
    decode (g.toJson nulls) = .sound { g with unknown := g.keptUnknown nulls } := by
  have hrules (rs : List Rule) : tuple Rule.decode (Json.list (Rule.toJson nulls) rs) = .sound rs :=
    tuple_list fun r _ => r.decode_toJson nulls
  have htexts (l : List String) : tuple text (Json.texts l) = .sound l := tuple_list fun _ _ => rfl
  have hlookup {key : String} {v : Json} (hv : lookup key (g.members nulls) = some v) :
      lookup key (g.members nulls ++ g.keptUnknown nulls) = some v := by
    rw [lookup_append, hv, Option.some_or]
  exact decode_eq_sound_iff.mpr ⟨_, rfl,
    required_of_lookup (v := .str g.name) (hlookup (by simp [lookup, members])) rfl,
    required_of_lookup (hlookup (by simp [lookup, members])) (mapping_map fun r _ => r.2.decode_toJson nulls),
    defaulted_of_lookup (hlookup (by simp [lookup, members])) (hrules g.extras),
    defaulted_of_lookup (hlookup (by simp [lookup, members])) (tuple_list fun l _ => htexts l),
    defaulted_of_lookup (hlookup (by simp [lookup, members])) (tuple_list fun rs _ => hrules rs),
    defaulted_of_lookup (hlookup (by simp [lookup, members])) (hrules g.externals),
    defaulted_of_lookup (hlookup (by simp [lookup, members])) (htexts g.inlined),
    defaulted_of_lookup (hlookup (by simp [lookup, members])) (htexts g.supertypes),
    word_toJson (keptUnknown_unknown h), unknown_toJson (keptUnknown_unknown h)⟩

end

/-- The grammar without its unknown members that are null, and with nulls in place of the numbers within the
others that are not finite. -/
def kept (g : Grammar) : Grammar :=
  { g with unknown := (g.unknown.filter fun m => !m.2.isNull).map fun m => (m.1, m.2.finiteOnly) }

def Lasting (m : String × Json) : Prop := m.2.isNull = false ∧ m.2.IsFinite

/-- A grammar loses nothing just if all its unknown members last. -/
theorem kept_eq_self_iff {g : Grammar} : g.kept = g ↔ ∀ m ∈ g.unknown, Lasting m := by
  have hunknown : g.kept = g ↔
      (g.unknown.filter fun m => !m.2.isNull).map (fun m => (m.1, m.2.finiteOnly)) = g.unknown :=
    ⟨fun h => congrArg unknown h, fun h => by rw [kept, h]⟩
  rw [hunknown]
  constructor
  · intro h m hm
    have hlength := congrArg List.length h
    rw [List.length_map, List.length_filter_eq_length_iff] at hlength
    have hnotNull : ∀ m ∈ g.unknown, m.2.isNull = false := fun m hm => by simpa using hlength m hm
    rw [List.filter_eq_self.mpr hlength] at h
    have hsame : (m.1, m.2.finiteOnly) = m := List.map_inj_left.mp (h.trans (List.map_id _).symm) m hm
    exact ⟨hnotNull m hm, (Json.finiteOnly_eq_self_iff m.2).mp (congrArg Prod.snd hsame)⟩
  · intro h
    have hnotNull : ∀ m ∈ g.unknown, (!m.2.isNull) = true := fun m hm => by rw [(h m hm).1]; rfl
    rw [List.filter_eq_self.mpr hnotNull]
    refine (List.map_congr_left fun m hm => ?_).trans (List.map_id _)
    exact Prod.ext rfl ((Json.finiteOnly_eq_self_iff m.2).mpr (h m hm).2)

variable {v : Json} {g : Grammar} {limits : Json.Limits}

/-- A dump lies no deeper than what the grammar was read from, and its numbers are no longer than those there or
than a text's. -/
theorem decoded_toJson (hdigits : WholeText.digitLimit ≤ limits.digits) (hv : v.Decoded limits)
    (h : decode v = .sound g) : (g.toJson false).Decoded limits ∧ (g.toJson false).depth ≤ v.depth := by
  -- Just deep enough for the value, so that the dump has no more room.
  let tight : Json.Limits := { limits with depth := v.depth - 1 }
  have hsame : tight.digits = limits.digits := rfl
  have hroom : tight.depth + 1 = v.depth := Nat.sub_add_cancel v.one_le_depth
  have hfits : Json.Fits tight 0 v := ⟨Json.Decoded.mono hsame.ge v hv, by omega⟩
  have hdump : Json.Fits tight 0 (g.toJson false) := fits_toJson (hdigits.trans hsame.ge) hfits h
  have hdepth := hdump.depth_le
  exact ⟨Json.Decoded.mono hsame.le _ hdump.decoded, by omega⟩

/-- A grammar that was read from a readable document can be read again. -/
theorem readable_toJson (hv : v.Readable) (h : decode v = .sound g) : (g.toJson false).Readable := by
  obtain ⟨hdecoded, hdepth⟩ := decoded_toJson (Nat.le_refl _) hv.decoded h
  exact ⟨hdecoded, hdepth.trans hv.depth_le⟩

/-- The dump of a grammar is decoded, with room for the longest numbers of the value and of a text. -/
theorem exists_decoded_toJson (hv : v.Decoded limits) (h : decode v = .sound g) :
    ∃ limits' : Json.Limits, (g.toJson false).Decoded limits' :=
  ⟨⟨max limits.digits WholeText.digitLimit, 0⟩,
    (decoded_toJson (le_max_right _ _) (Json.Decoded.mono (le_max_left _ _) v hv) h).1⟩

theorem text?_eq_ok {text : String} (h : g.text? = .ok text) : text = (g.toJson false).document := by
  unfold text? at h
  split at h
  · unfold Json.documentText? at h
    split at h
    · exact (Except.ok.inj h).symm
    · cases h
  · cases h

theorem text?_of_readable (hv : v.Readable) (h : decode v = .sound g) :
    g.text? = .ok (g.toJson false).document := by
  have hdepth : v.depth ≤ Json.writableDepth := hv.depth_le.trans (by decide)
  have hdump : (g.toJson false).depth ≤ Json.writableDepth :=
    (readable_toJson hv h).depth_le.trans (by decide)
  obtain ⟨ms, rfl, _, _, _, _, _, _, _, _, _, hunknown⟩ := decode_eq_sound_iff.mp h
  have hall : g.unknown.all (fun m => m.2.depth ≤ Json.writableDepth) = true := by
    rw [← hunknown]
    refine List.all_eq_true.mpr fun m hm => ?_
    have hm := Json.depthOfMembers_le_iff.mp le_rfl m (List.mem_filter.mp hm).1
    rw [Json.depth] at hdepth
    exact decide_eq_true (by omega)
  rw [text?, if_pos hall, Json.documentText?_of_depth hdump]

/-- The text of a dump is read as the grammar that is kept if the dump is readable, and else it is not read. -/
theorem ofText?_document_cases (hv : v.Decoded limits) (h : decode v = .sound g) :
    (g.toJson false).Readable ∧ ofText? (g.toJson false).document = .ok g.kept ∨
      ¬(g.toJson false).Readable ∧ ofText? (g.toJson false).document = .error (.notJson .grammar) := by
  have hread : ofJson? (g.toJson false) = .ok g.kept := by
    rw [ofJson?_eq_ok_iff, decode_toJson false (unknown_of_decode h), keptUnknown_eq_map]
    rfl
  obtain ⟨_, hdump⟩ := exists_decoded_toJson hv h
  unfold ofText?
  rcases Json.ofText?_document_cases hdump with ⟨hreadable, htext⟩ | ⟨hunreadable, htext⟩
  · rw [htext]
    exact .inl ⟨hreadable, hread⟩
  · rw [htext]
    exact .inr ⟨hunreadable, rfl⟩

/-- For every grammar that is read from a JSON value in which keys differ: if the value is readable, a grammar is
built from the parsed one, and its source is read again as the grammar that is kept. This has every declared part
as it was, the rules in their order, and the unknown members in theirs, but for nulls and for numbers that are not
finite. Of any other value, the source that there may be is read so as well, or its numbers are too long or it is
too deep to be read. Nothing is lost in what is kept just if every unknown member lasts. -/
theorem built_reread (hv : v.Decoded limits) (h : ofJson? v = .ok g) {nodeTypes : Input Catalogue}
    {c : Catalogue} {source : String} (hc : Catalogue.ofInput? nodeTypes = .ok (c, source))
    (parser : Option ByteArray) :
    (v.Readable → ∃ b, Built.ofInputs? (.parsed g) nodeTypes parser = .ok b ∧ b.grammar = g ∧
      ofText? b.grammarSource = .ok g.kept) ∧
    (∀ b, Built.ofInputs? (.parsed g) nodeTypes parser = .ok b → b.grammar = g ∧
      ((g.toJson false).Readable ∧ ofText? b.grammarSource = .ok g.kept ∨
        ¬(g.toJson false).Readable ∧ ofText? b.grammarSource = .error (.notJson .grammar))) ∧
    (g.kept = g ↔ ∀ m ∈ g.unknown, Lasting m) := by
  have hdecode := ofJson?_eq_ok_iff.mp h
  refine ⟨fun hreadable => ?_, fun b hb => ?_, kept_eq_self_iff⟩
  · have htext := text?_of_readable hreadable hdecode
    refine ⟨⟨g, c, (g.toJson false).document, source, parser⟩, ?_, rfl, ?_⟩
    · exact bind_eq_ok.mpr ⟨_, bind_eq_ok.mpr ⟨_, htext, rfl⟩, bind_eq_ok.mpr ⟨_, hc, rfl⟩⟩
    · rcases ofText?_document_cases hv hdecode with ⟨_, hread⟩ | ⟨hunreadable, _⟩
      · exact hread
      · exact absurd (readable_toJson hreadable hdecode) hunreadable
  · obtain ⟨_, hg, hb⟩ := bind_eq_ok.mp hb
    obtain ⟨text, htext, hg⟩ := bind_eq_ok.mp hg
    obtain ⟨_, _, hb⟩ := bind_eq_ok.mp hb
    cases hg
    cases hb
    refine ⟨rfl, ?_⟩
    rw [text?_eq_ok htext]
    exact ofText?_document_cases hv hdecode

def laterDocument : Json := .obj [("name", .str "later"), ("rules", .obj [("start", .obj [("type", .str "PREC"),
    ("value", .int 1), ("content", .obj [("type", .str "PATTERN"), ("value", .str "[a-z]+"), ("flags", .null)])])]),
  ("word", .null), ("reserved", .obj [("global", .null)]), ("future", .null)]

def later : Grammar where
  name := "later"
  rules := [("start", .prec .plain (.number 1) (.pattern "[a-z]+" none))]
  extras := []
  conflicts := []
  precedences := []
  externals := []
  inlined := []
  supertypes := []
  word := none
  unknown := [("reserved", .obj [("global", .null)]), ("future", .null)]

/-- The rules and the null inside come back, and the null member does not. -/
theorem built_reread_later : ∃ b, Built.ofInputs? (.parsed later) (.value (.arr [])) none = .ok b ∧
    b.grammar = later ∧
    ofText? b.grammarSource = .ok { later with unknown := [("reserved", .obj [("global", .null)])] } ∧
    later.kept ≠ later := by
  have hdecoded : laterDocument.Decoded documentLimits := by
    simp only [laterDocument, Json.Decoded, Json.DecodedMembers]
    decide
  have hlater : ofJson? laterDocument = .ok later := by cbv
  have hempty : Catalogue.ofInput? (.value (.arr [])) = .ok (⟨[], by simp⟩, "[]") := by rfl
  obtain ⟨hbuilt, _, hkept⟩ := built_reread hdecoded hlater hempty none
  obtain ⟨b, hb, hgrammar, hread⟩ := hbuilt ⟨hdecoded, by decide⟩
  refine ⟨b, hb, hgrammar, hread, fun h => ?_⟩
  have hlasting := hkept.mp h ("future", .null) (by simp [later])
  cases hlasting.1

end Grammar

end TraversalSdk
