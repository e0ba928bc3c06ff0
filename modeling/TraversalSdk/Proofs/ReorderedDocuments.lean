import TraversalSdk.Proofs.CheckedShapes
import TraversalSdk.Proofs.ReorderedJson
import TraversalSdk.Proofs.ReorderedPlan

namespace TraversalSdk

open Json (KeyByKey)
open Json.Reordered

namespace Checked

variable {α : Type}

/-- A check that passes on related values with related results. -/
def Transfers (check : Json → Checked α) (R : Json → Json → Prop) (S : α → α → Prop) : Prop :=
  ∀ v v' a, R v v' → check v = .sound a → ∃ a', check v' = .sound a' ∧ S a a'

theorem transfers_eq (check : Json → Checked α) : Transfers check Eq Eq := by
  rintro v _ a rfl ha
  exact ⟨a, ha, rfl⟩

theorem transfers_types (check : Json → Checked α) : Transfers (tuple check) types List.Perm := by
  intro v v' as hv has
  obtain ⟨vs, rfl, hvs⟩ := tuple_eq_sound_iff.mp has
  obtain ⟨vs', rfl, hperm⟩ := hv.arr
  obtain ⟨as', has', hperm'⟩ := List.perm_comp_forall₂ hperm.symm hvs
  exact ⟨as', tuple_eq_sound_iff.mpr ⟨vs', rfl, has'⟩, hperm'.symm⟩

variable {check : Json → Checked α} {R : String → Json → Json → Prop} {S : α → α → Prop}
  {ms ms' : List (String × Json)} {key : String} {default a : α}

theorem Transfers.nullable {R : Json → Json → Prop} (h : Transfers check R S)
    (hnull : ∀ v v', R v v' → (v = .null ↔ v' = .null)) :
    Transfers (Checked.nullable check) R (Option.Rel S) := by
  intro v v' o hv ho
  rcases nullable_eq_sound_iff.mp ho with ⟨hn, rfl⟩ | ⟨hn, a, ha, rfl⟩
  · exact ⟨none, nullable_eq_sound_iff.mpr (.inl ⟨(hnull v v' hv).mp hn, rfl⟩), .none⟩
  · obtain ⟨a', ha', hs⟩ := h v v' a hv ha
    exact ⟨some a', nullable_eq_sound_iff.mpr
      (.inr ⟨fun hn' => hn ((hnull v v' hv).mpr hn'), a', ha', rfl⟩), .some hs⟩

/-- A required member passes on if its check does. -/
theorem Transfers.required (h : Transfers check (R key) S) (hms : KeyByKey R ms ms')
    (ha : required key check ms = .sound a) :
    ∃ a', Checked.required key check ms' = .sound a' ∧ S a a' := by
  obtain ⟨v, hv, ha⟩ := required_eq_sound_iff.mp ha
  rcases optionRel_iff.mp (hms.lookup key) with ⟨hn, _⟩ | ⟨u, v', hu, hv', hr⟩
  · rw [hn] at hv
    cases hv
  · rw [hu] at hv
    cases hv
    obtain ⟨a', ha', hs⟩ := h _ _ a hr ha
    exact ⟨a', required_eq_sound_iff.mpr ⟨v', hv', ha'⟩, hs⟩

/-- So does one with a default. -/
theorem Transfers.defaulted (h : Transfers check (R key) S) (hdefault : S default default)
    (hms : KeyByKey R ms ms') (ha : defaulted key default check ms = .sound a) :
    ∃ a', Checked.defaulted key default check ms' = .sound a' ∧ S a a' := by
  rcases optionRel_iff.mp (hms.lookup key) with ⟨hn, hn'⟩ | ⟨u, v', hu, hv', hr⟩
  · rcases defaulted_eq_sound_iff.mp ha with ⟨_, rfl⟩ | ⟨v, hv, _⟩
    · exact ⟨default, defaulted_eq_sound_iff.mpr (.inl ⟨hn', rfl⟩), hdefault⟩
    · rw [hn] at hv
      cases hv
  · rcases defaulted_eq_sound_iff.mp ha with ⟨hn, _⟩ | ⟨v, hv, ha⟩
    · rw [hn] at hu
      cases hu
    · rw [hu] at hv
      cases hv
      obtain ⟨a', ha', hs⟩ := h _ _ a hr ha
      exact ⟨a', defaulted_eq_sound_iff.mpr (.inr ⟨v', hv', ha'⟩), hs⟩

end Checked

open Checked

theorem ChildSpec.decode_eq_sound_iff {v : Json} {s : ChildSpec} : decode v = .sound s ↔
    ∃ ms, v = .obj ms ∧ defaulted "multiple" false flag ms = .sound s.multiple ∧
      defaulted "required" false flag ms = .sound s.required ∧
      defaulted "types" [] (tuple NodeRef.decode) ms = .sound s.types := by
  simp only [decode, object_eq_sound_iff, seq_eq_sound_iff, map_eq_sound_iff]
  constructor
  · rintro ⟨ms, rfl, _, types, ⟨_, required, ⟨multiple, hm, rfl⟩, hr, rfl⟩, ht, rfl⟩
    exact ⟨ms, rfl, hm, hr, ht⟩
  · rintro ⟨ms, rfl, hm, hr, ht⟩
    exact ⟨ms, rfl, _, _, ⟨_, _, ⟨_, hm, rfl⟩, hr, rfl⟩, ht, rfl⟩

/-- An entry is read alike in any order of its types. -/
theorem ChildSpec.transfers : Transfers ChildSpec.decode entry ChildSpec.Similar := by
  intro v v' s hv hs
  obtain ⟨ms, rfl, hm, hr, ht⟩ := ChildSpec.decode_eq_sound_iff.mp hs
  obtain ⟨ms', rfl, hms⟩ := hv.obj
  obtain ⟨m, hm', hmultiple⟩ := (transfers_eq flag).defaulted rfl hms hm
  obtain ⟨r, hr', hrequired⟩ := (transfers_eq flag).defaulted rfl hms hr
  obtain ⟨t, ht', htypes⟩ := (transfers_types NodeRef.decode).defaulted (.refl _) hms ht
  exact ⟨⟨m, r, t⟩, ChildSpec.decode_eq_sound_iff.mpr ⟨ms', rfl, hm', hr', ht'⟩,
    hmultiple, hrequired, htypes⟩

structure SameFields (fs fs' : List (String × ChildSpec)) : Prop where
  matched : Matched (fun f f' => f.1 = f'.1 ∧ f.2.Similar f'.2) fs fs'
  nodup : (fs.map Prod.fst).Nodup

theorem fields_transfers : Transfers (mapping ChildSpec.decode) fields SameFields := by
  intro v v' fs hv hfs
  obtain ⟨ms, rfl, hms⟩ := mapping_eq_sound_iff.mp hfs
  obtain ⟨ms', rfl, hn, hmatched⟩ := hv.obj
  have hkeys : ms.map Prod.fst = fs.map Prod.fst := forall₂_map_eq hms fun _ _ h => h.1
  obtain ⟨fs', hfs', hsame⟩ := hmatched.transfer
    (E := fun m (f : String × ChildSpec) => m.1 = f.1 ∧ ChildSpec.decode m.2 = .sound f.2)
    (S := fun f f' => f.1 = f'.1 ∧ f.2.Similar f'.2) hms fun m m' f hm hf => by
      obtain ⟨s', hs', hsim⟩ := ChildSpec.transfers _ _ _ hm.2 hf.2
      exact ⟨(m'.1, s'), ⟨rfl, hs'⟩, hf.1.symm.trans hm.1, hsim⟩
  exact ⟨fs', mapping_eq_sound_iff.mpr ⟨ms', rfl, hfs'⟩, hsame, hkeys ▸ hn⟩

theorem null_iff_of_onMembers {R : List (String × Json) → List (String × Json) → Prop} {v v' : Json}
    (h : Json.OnMembers R v v') : v = .null ↔ v' = .null := by
  cases v with
  | obj ms =>
    obtain ⟨ms', rfl, _⟩ := h.obj
    constructor <;> exact nofun
  | _ =>
    cases v' with
    | obj _ => cases h
    | _ => rw [show _ = _ from h]

theorem null_iff_of_onItems {R : List Json → List Json → Prop} {v v' : Json}
    (h : Json.OnItems R v v') : v = .null ↔ v' = .null := by
  cases v with
  | arr vs =>
    obtain ⟨vs', rfl, _⟩ := h.arr
    constructor <;> exact nofun
  | _ =>
    cases v' with
    | arr _ => cases h
    | _ => rw [show _ = _ from h]

namespace Descriptor

theorem decode_eq_sound_iff {v : Json} {d : Descriptor} : decode v = .sound d ↔
    ∃ ms, v = .obj ms ∧ required "type" text ms = .sound d.ref.type ∧
      required "named" flag ms = .sound d.ref.named ∧
      defaulted "root" false flag ms = .sound d.root ∧
      defaulted "extra" false flag ms = .sound d.extra ∧
      defaulted "fields" [] (mapping ChildSpec.decode) ms = .sound d.fields ∧
      defaulted "children" none (nullable ChildSpec.decode) ms = .sound d.children ∧
      defaulted "subtypes" none (nullable (tuple NodeRef.decode)) ms = .sound d.subtypes := by
  simp only [decode, object_eq_sound_iff, seq_eq_sound_iff, map_eq_sound_iff]
  constructor
  · rintro ⟨ms, rfl, _, _, ⟨_, _, ⟨_, _, ⟨_, _, ⟨_, _, ⟨_, _, ⟨_, ht, rfl⟩, hn, rfl⟩, hr, rfl⟩, he,
      rfl⟩, hf, rfl⟩, hc, rfl⟩, hs, rfl⟩
    exact ⟨ms, rfl, ht, hn, hr, he, hf, hc, hs⟩
  · rintro ⟨ms, rfl, ht, hn, hr, he, hf, hc, hs⟩
    exact ⟨ms, rfl, _, _, ⟨_, _, ⟨_, _, ⟨_, _, ⟨_, _, ⟨_, _, ⟨_, ht, rfl⟩, hn, rfl⟩, hr, rfl⟩, he,
      rfl⟩, hf, rfl⟩, hc, rfl⟩, hs, rfl⟩

/-- A declaration is read alike in any order of its parts. -/
theorem transfers : Transfers Descriptor.decode descriptor Descriptor.Similar := by
  intro v v' d hv hd
  obtain ⟨ms, rfl, ht, hn, hr, he, hf, hc, hs⟩ := decode_eq_sound_iff.mp hd
  obtain ⟨ms', rfl, hms⟩ := hv.obj
  obtain ⟨type, ht', htype⟩ := (transfers_eq text).required hms ht
  obtain ⟨named, hn', hnamed⟩ := (transfers_eq flag).required hms hn
  obtain ⟨root, hr', hroot⟩ := (transfers_eq flag).defaulted rfl hms hr
  obtain ⟨extra, he', hextra⟩ := (transfers_eq flag).defaulted rfl hms he
  have hnone : SameFields [] [] := ⟨.of_forall₂ .nil, by simp⟩
  obtain ⟨fs, hf', hfields⟩ := fields_transfers.defaulted hnone hms hf
  obtain ⟨children, hc', hchildren⟩ := (ChildSpec.transfers.nullable fun _ _ =>
    null_iff_of_onMembers).defaulted .none hms hc
  obtain ⟨subtypes, hs', hsubtypes⟩ := ((transfers_types NodeRef.decode).nullable fun _ _ =>
    null_iff_of_onItems).defaulted .none hms hs
  refine ⟨⟨⟨type, named⟩, root, extra, fs, children, subtypes⟩,
    decode_eq_sound_iff.mpr ⟨ms', rfl, ht', hn', hr', he', hf', hc', hs'⟩, ?_, hroot, hextra,
    hfields.matched, hfields.nodup, hchildren, hsubtypes⟩
  change NodeRef.mk _ _ = NodeRef.mk _ _
  rw [htype, hnamed]

end Descriptor

namespace Catalogue

theorem descriptorsOf?_eq_ok_iff {vs : List Json} {ds : List Descriptor} :
    descriptorsOf? (.arr vs) = .ok ds ↔
      List.Forall₂ (fun v d => Descriptor.decode v = .sound d) vs ds := by
  rw [← each_eq_sound_iff, ← toExcept_eq_ok_iff, descriptorsOf?, Descriptor.decodeAll]
  cases (each Descriptor.decode vs).toExcept <;> simp [Except.mapError]

theorem ofDescriptors?_eq_ok_iff {ds : List Descriptor} {c : Catalogue} :
    ofDescriptors? ds = .ok c ↔ c.descriptors = ds := by
  unfold ofDescriptors?
  split
  · next r hr =>
    have hrepeats : ¬(ds.map Descriptor.ref).Nodup := by
      rw [← firstRepeated?_eq_none_iff, hr]
      nofun
    constructor
    · nofun
    · rintro rfl
      exact absurd c.nodup hrepeats
  · constructor
    · intro h
      cases h
      rfl
    · rintro rfl
      rfl

theorem ofJson?_eq_ok_iff {vs : List Json} {c : Catalogue} : ofJson? (.arr vs) = .ok c ↔
    List.Forall₂ (fun v d => Descriptor.decode v = .sound d) vs c.descriptors ∧ c.Closed := by
  simp only [ofJson?, ofClosed?, bind_eq_ok, descriptorsOf?_eq_ok_iff, ofDescriptors?_eq_ok_iff]
  constructor
  · rintro ⟨ds, hds, c', rfl, _, hc, h⟩
    cases h
    exact ⟨hds, check_eq_ok_iff.mp hc⟩
  · rintro ⟨hds, hc⟩
    exact ⟨_, hds, c, rfl, (), check_eq_ok_iff.mpr hc, rfl⟩

theorem ofJson?_similar {vs vs' : List Json} {c : Catalogue} (h : Matched descriptor vs vs')
    (hc : ofJson? (.arr vs) = .ok c) : ∃ c', ofJson? (.arr vs') = .ok c' ∧ c.Similar c' := by
  obtain ⟨hds, hclosed⟩ := ofJson?_eq_ok_iff.mp hc
  obtain ⟨ds', hds', hmatched⟩ := h.transfer hds Descriptor.transfers
  have hnodup : (ds'.map Descriptor.ref).Nodup :=
    (hmatched.map_perm fun _ _ hd => hd.ref).nodup_iff.mp c.nodup
  have hsimilar : c.Similar ⟨ds', hnodup⟩ := hmatched
  exact ⟨⟨ds', hnodup⟩, ofJson?_eq_ok_iff.mpr ⟨hds', hsimilar.closed hclosed⟩, hsimilar⟩

end Catalogue

namespace Grammar

structure SameRules (rs rs' : List (String × Rule)) : Prop where
  head : rs.head? = rs'.head?
  perm : rs.Perm rs'
  nodup : (rs.map Prod.fst).Nodup

theorem rules_transfers : Transfers (mapping Rule.decode) Json.Reordered.rules SameRules := by
  intro v v' rs hv hrs
  obtain ⟨ms, rfl, hms⟩ := mapping_eq_sound_iff.mp hrs
  obtain ⟨ms', rfl, hn, hhead, hperm⟩ := hv.obj
  have hkeys : ms.map Prod.fst = rs.map Prod.fst := forall₂_map_eq hms fun _ _ h => h.1
  obtain ⟨rs', hms', hperm'⟩ := List.perm_comp_forall₂ hperm.symm hms
  refine ⟨rs', mapping_eq_sound_iff.mpr ⟨ms', rfl, hms'⟩, ?_, hperm'.symm, hkeys ▸ hn⟩
  cases hms with
  | nil =>
    cases hperm'.eq_nil
    rfl
  | cons hm _ =>
    cases hms' with
    | nil => cases hhead
    | cons hm' _ =>
      cases hhead
      simp only [List.head?_cons, Option.some.injEq]
      exact Prod.ext (hm.1.symm.trans hm'.1) (Checked.sound.inj (hm.2.symm.trans hm'.2))

theorem decode_eq_sound_iff {v : Json} {g : Grammar} : decode v = .sound g ↔
    ∃ ms, v = .obj ms ∧ required "name" text ms = .sound g.name ∧
      required "rules" (mapping Rule.decode) ms = .sound g.rules ∧
      defaulted "extras" [] (tuple Rule.decode) ms = .sound g.extras ∧
      defaulted "conflicts" [] (tuple (tuple text)) ms = .sound g.conflicts ∧
      defaulted "precedences" [] (tuple (tuple Rule.decode)) ms = .sound g.precedences ∧
      defaulted "externals" [] (tuple Rule.decode) ms = .sound g.externals ∧
      defaulted "inline" [] (tuple text) ms = .sound g.inlined ∧
      defaulted "supertypes" [] (tuple text) ms = .sound g.supertypes ∧
      defaulted "word" none (nullable text) ms = .sound g.word ∧
      (ms.filter fun m => !knownMembers.contains m.1) = g.unknown := by
  simp only [decode, object_eq_sound_iff, seq_eq_sound_iff, map_eq_sound_iff, Checked.sound.injEq]
  constructor
  · rintro ⟨ms, rfl, _, _, ⟨_, _, ⟨_, _, ⟨_, _, ⟨_, _, ⟨_, _, ⟨_, _, ⟨_, _, ⟨_, _, ⟨_, hn, rfl⟩, hr, rfl⟩,
      he, rfl⟩, hc, rfl⟩, hp, rfl⟩, hx, rfl⟩, hi, rfl⟩, hs, rfl⟩, hw, rfl⟩, hu, rfl⟩
    exact ⟨ms, rfl, hn, hr, he, hc, hp, hx, hi, hs, hw, hu⟩
  · rintro ⟨ms, rfl, hn, hr, he, hc, hp, hx, hi, hs, hw, hu⟩
    exact ⟨ms, rfl, _, _, ⟨_, _, ⟨_, _, ⟨_, _, ⟨_, _, ⟨_, _, ⟨_, _, ⟨_, _, ⟨_, _, ⟨_, hn, rfl⟩, hr, rfl⟩,
      he, rfl⟩, hc, rfl⟩, hp, rfl⟩, hx, rfl⟩, hi, rfl⟩, hs, rfl⟩, hw, rfl⟩, hu, rfl⟩

/-- Grammars with one name, and the same rules in another order. -/
structure Similar (g g' : Grammar) : Prop where
  name : g.name = g'.name
  rules : SameRules g.rules g'.rules

theorem transfers : Transfers Grammar.decode grammar Grammar.Similar := by
  intro v v' g hv hg
  obtain ⟨ms, rfl, hn, hr, he, hc, hp, hx, hi, hs, hw, _⟩ := decode_eq_sound_iff.mp hg
  obtain ⟨ms', rfl, hms⟩ := hv.obj
  obtain ⟨name, hn', hname⟩ := (transfers_eq text).required hms hn
  obtain ⟨rs, hr', hrules⟩ := rules_transfers.required hms hr
  obtain ⟨extras, he', _⟩ := (transfers_eq _).defaulted rfl hms he
  obtain ⟨conflicts, hc', _⟩ := (transfers_eq _).defaulted rfl hms hc
  obtain ⟨precedences, hp', _⟩ := (transfers_eq _).defaulted rfl hms hp
  obtain ⟨externals, hx', _⟩ := (transfers_eq _).defaulted rfl hms hx
  obtain ⟨inlined, hi', _⟩ := (transfers_eq _).defaulted rfl hms hi
  obtain ⟨supertypes, hs', _⟩ := (transfers_eq _).defaulted rfl hms hs
  obtain ⟨word, hw', _⟩ := (transfers_eq _).defaulted rfl hms hw
  exact ⟨⟨name, rs, extras, conflicts, precedences, externals, inlined, supertypes, word, _⟩,
    decode_eq_sound_iff.mpr ⟨ms', rfl, hn', hr', he', hc', hp', hx', hi', hs', hw', rfl⟩,
    hname, hrules⟩

theorem Similar.start {g g' : Grammar} (h : g.Similar g') : g.startRule = g'.startRule := by
  have hhead := h.rules.head
  unfold startRule
  cases hr : g.rules with
  | nil =>
    rw [hr] at hhead
    rw [List.head?_eq_none_iff.mp hhead.symm, h.name]
  | cons r rs =>
    rw [hr] at hhead
    obtain ⟨rs', hr'⟩ := List.head?_eq_some_iff.mp hhead.symm
    rw [hr']

theorem ofJson?_eq_ok_iff {v : Json} {g : Grammar} : ofJson? v = .ok g ↔ decode v = .sound g := by
  rw [← toExcept_eq_ok_iff, ofJson?]
  cases (decode v).toExcept <;> simp [Except.mapError]

end Grammar

theorem Json.documentText?_eq_ok {v : Json} {s : String} (h : v.documentText? = .ok s) :
    v.depth ≤ Json.writableDepth := by
  unfold Json.documentText? at h
  split at h
  · assumption
  · cases h

theorem Json.documentText?_of_depth {v : Json} (h : v.depth ≤ Json.writableDepth) :
    v.documentText? = .ok v.document := if_pos h

theorem Catalogue.ofInput?_similar {vs vs' : List Json} {c : Catalogue} {source : String}
    (h : Matched descriptor vs vs')
    (hc : Catalogue.ofInput? (.value (.arr vs)) = .ok (c, source)) :
    ∃ c' source', Catalogue.ofInput? (.value (.arr vs')) = .ok (c', source') ∧ c.Similar c' := by
  have hdepth : (Json.arr vs).depth = (Json.arr vs').depth := by
    rw [Json.depth, Json.depth, Json.depthOfItems_matched (h.imp fun _ _ => descriptor_depth)]
  cases vs with
  | nil =>
    obtain ⟨c₁, hc₁, hc⟩ := bind_eq_ok.mp hc
    cases hc
    obtain ⟨c', hc', hsimilar⟩ := ofJson?_similar h hc₁
    obtain rfl : vs' = [] := by
      obtain ⟨us, hperm, hus⟩ := h
      cases hperm.symm.eq_nil
      cases hus
      rfl
    exact ⟨c', _, bind_eq_ok.mpr ⟨c', hc', rfl⟩, hsimilar⟩
  | cons v vs =>
    obtain ⟨c₁, hc₁, hc⟩ := bind_eq_ok.mp hc
    obtain ⟨s, hs, hc⟩ := bind_eq_ok.mp hc
    cases hc
    obtain ⟨c', hc', hsimilar⟩ := ofJson?_similar h hc₁
    have hwritable : (Json.arr vs').depth ≤ Json.writableDepth :=
      hdepth ▸ Json.documentText?_eq_ok hs
    obtain ⟨v', us', rfl⟩ : ∃ v' us', vs' = v' :: us' := by
      obtain ⟨v', hv', _⟩ := h.exists_right List.mem_cons_self
      exact List.exists_cons_of_ne_nil (List.ne_nil_of_mem hv')
    exact ⟨c', _, bind_eq_ok.mpr ⟨c', hc', bind_eq_ok.mpr
      ⟨_, Json.documentText?_of_depth hwritable, rfl⟩⟩, hsimilar⟩

/-- Documents in another order make a similar grammar, with texts of their own. -/
theorem Built.ofInputs?_similar {g g' : Json} {ds ds' : List Json} (hg : Json.Reordered.grammar g g')
    (hds : Matched descriptor ds ds') {parser : Option ByteArray} {b : Built}
    (hb : ofInputs? (.value g) (.value (.arr ds)) parser = .ok b) :
    ∃ b', ofInputs? (.value g') (.value (.arr ds')) parser = .ok b' ∧ b.Similar b' := by
  obtain ⟨⟨gr, gs⟩, hgr, hb⟩ := bind_eq_ok.mp hb
  obtain ⟨⟨c, cs⟩, hc, hb⟩ := bind_eq_ok.mp hb
  cases hb
  obtain ⟨gr₁, hjson, hgr⟩ := bind_eq_ok.mp hgr
  obtain ⟨s, hs, hgr⟩ := bind_eq_ok.mp hgr
  cases hgr
  obtain ⟨gr', hgr', hsimilar⟩ := Grammar.transfers _ _ _ hg (Grammar.ofJson?_eq_ok_iff.mp hjson)
  have hwritable : g'.depth ≤ Json.writableDepth :=
    grammar_depth hg ▸ Json.documentText?_eq_ok hs
  obtain ⟨c', cs', hc', hcs⟩ := Catalogue.ofInput?_similar hds hc
  refine ⟨⟨gr', c', g'.document, cs', parser⟩, bind_eq_ok.mpr ⟨(gr', g'.document), ?_,
    bind_eq_ok.mpr ⟨(c', cs'), hc', rfl⟩⟩, hsimilar.name, hsimilar.start, hsimilar.rules.perm,
    hsimilar.rules.nodup, hcs, rfl⟩
  exact bind_eq_ok.mpr ⟨gr', Grammar.ofJson?_eq_ok_iff.mpr hgr', bind_eq_ok.mpr
    ⟨_, Json.documentText?_of_depth hwritable, rfl⟩⟩

namespace Sdk

/-- So they lead to the same SDK. -/
theorem generateFrom_similar {g g' : Json} {ds ds' : List Json} (hg : Json.Reordered.grammar g g')
    (hds : Matched descriptor ds ds') {parser : Option ByteArray} {config : Option Json} {o : Output}
    (ho : generateFrom (.value g) (.value (.arr ds)) parser config = .ok o) :
    ∃ o', generateFrom (.value g') (.value (.arr ds')) parser config = .ok o' ∧ o.paths = o'.paths ∧
      ∀ path, path ≠ "__artifacts__/grammar.json" → path ≠ "__artifacts__/node-types.json" →
        o.get? path = o'.get? path := by
  obtain ⟨b, hb, ho⟩ := bind_eq_ok.mp ho
  obtain ⟨b', hb', hsimilar⟩ := Built.ofInputs?_similar hg hds hb
  obtain ⟨o', ho', hsame⟩ := generate_similar hsimilar ho
  exact ⟨o', bind_eq_ok.mpr ⟨b', hb', ho'⟩, hsame⟩

/-- The order of declarations does not show. If the node types, their fields, the types of their
entries, their subtypes, and the rules behind the first one are permuted, generation succeeds for both or
for none, and all files but the two documents are the same. -/
theorem generate_any_order {g g' : Json} {ds ds' : List Json} (hg : Json.Reordered.grammar g g')
    (hds : Matched descriptor ds ds') (parser : Option ByteArray) (config : Option Json) :
    ((∃ o, generateFrom (.value g) (.value (.arr ds)) parser config = .ok o) ↔
      ∃ o', generateFrom (.value g') (.value (.arr ds')) parser config = .ok o') ∧
    ∀ o o', generateFrom (.value g) (.value (.arr ds)) parser config = .ok o →
      generateFrom (.value g') (.value (.arr ds')) parser config = .ok o' →
      o.paths = o'.paths ∧
      ∀ path, path ≠ "__artifacts__/grammar.json" → path ≠ "__artifacts__/node-types.json" →
        o.get? path = o'.get? path := by
  refine ⟨⟨?_, ?_⟩, ?_⟩
  · rintro ⟨o, ho⟩
    obtain ⟨o', ho', _⟩ := generateFrom_similar hg hds ho
    exact ⟨o', ho'⟩
  · rintro ⟨o', ho'⟩
    obtain ⟨o, ho, _⟩ := generateFrom_similar (grammar_symm hg)
      (hds.flip.imp fun _ _ => descriptor_symm) ho'
    exact ⟨o, ho⟩
  · intro o o' ho ho'
    obtain ⟨o₁, ho₁, hsame⟩ := generateFrom_similar hg hds ho
    cases ho₁.symm.trans ho'
    exact hsame

def blankRule : Json := .obj [("type", .str "BLANK")]

def leafType (name : String) : Json := .obj [("type", .str name), ("named", .bool true)]

def fieldOf (types : List Json) : Json := .obj [("types", .arr types)]

def pairType (fields : List (String × Json)) : Json :=
  .obj [("type", .str "pair"), ("named", .bool true), ("fields", .obj fields)]

def pairGrammar (rules : List (String × Json)) : Json :=
  .obj [("name", .str "pairs"), ("rules", .obj (("pair", blankRule) :: rules))]

def oneGrammar : Json := pairGrammar [("key", blankRule), ("word", blankRule)]

def otherGrammar : Json := pairGrammar [("word", blankRule), ("key", blankRule)]

def oneOrder : List Json := [
  pairType [("left", fieldOf [leafType "key", leafType "word"]), ("right", fieldOf [leafType "word"])],
  leafType "key", leafType "word"]

def otherOrder : List Json := [
  leafType "word",
  pairType [("right", fieldOf [leafType "word"]), ("left", fieldOf [leafType "word", leafType "key"])],
  leafType "key"]

theorem reordered_pairGrammar : Json.Reordered.grammar oneGrammar otherGrammar := by
  refine .cons ⟨rfl, rfl⟩ (.cons ⟨rfl, ?_⟩ .nil)
  exact ⟨by decide, rfl, (List.Perm.swap _ _ _).cons _⟩

theorem leafType_self (name : String) : descriptor (leafType name) (leafType name) :=
  .cons ⟨rfl, rfl⟩ (.cons ⟨rfl, rfl⟩ .nil)

theorem reordered_pairTypes : Matched descriptor oneOrder otherOrder := by
  have hleft : entry (fieldOf [leafType "key", leafType "word"])
      (fieldOf [leafType "word", leafType "key"]) := .cons ⟨rfl, List.Perm.swap _ _ _⟩ .nil
  have hright : entry (fieldOf [leafType "word"]) (fieldOf [leafType "word"]) :=
    .cons ⟨rfl, List.Perm.refl _⟩ .nil
  have hpair : descriptor
      (pairType [("left", fieldOf [leafType "key", leafType "word"]), ("right", fieldOf [leafType "word"])])
      (pairType [("right", fieldOf [leafType "word"]),
        ("left", fieldOf [leafType "word", leafType "key"])]) := by
    refine .cons ⟨rfl, rfl⟩ (.cons ⟨rfl, rfl⟩ (.cons ⟨rfl, by decide, ?_⟩ .nil))
    exact ⟨_, List.Perm.swap _ _ _, .cons ⟨rfl, hright⟩ (.cons ⟨rfl, hleft⟩ .nil)⟩
  have hperm : (oneOrder.take 2 ++ [leafType "word"]).Perm ([leafType "word"] ++ oneOrder.take 2) :=
    List.perm_append_comm
  exact ⟨_, hperm, .cons (leafType_self _) (.cons hpair (.cons (leafType_self _) .nil))⟩

def pairRules : Grammar :=
  ⟨"pairs", [("pair", .blank), ("key", .blank), ("word", .blank)], [], [], [], [], [], [], none, []⟩

def pairCatalogue : Catalogue where
  descriptors := [
    ⟨⟨"pair", true⟩, false, false, [("left", ⟨false, false, [⟨"key", true⟩, ⟨"word", true⟩]⟩),
      ("right", ⟨false, false, [⟨"word", true⟩]⟩)], none, none⟩,
    ⟨⟨"key", true⟩, false, false, [], none, none⟩,
    ⟨⟨"word", true⟩, false, false, [], none, none⟩]
  nodup := by decide

def pairs : Built where
  grammar := pairRules
  catalogue := pairCatalogue
  grammarSource := oneGrammar.document
  nodeTypesSource := (Json.arr oneOrder).document
  parser := none

theorem catalogue_oneOrder :
    Catalogue.ofInput? (.value (.arr oneOrder)) = .ok (pairCatalogue, (Json.arr oneOrder).document) := by
  have hcatalogue : Catalogue.ofJson? (.arr oneOrder) = .ok pairCatalogue := by cbv
  exact bind_eq_ok.mpr ⟨_, hcatalogue, bind_eq_ok.mpr
    ⟨_, Json.documentText?_of_depth (by decide), rfl⟩⟩

theorem ofInputs?_pairs :
    Built.ofInputs? (.value oneGrammar) (.value (.arr oneOrder)) none = .ok pairs := by
  have hgrammar : Grammar.ofJson? oneGrammar = .ok pairRules := by cbv
  refine bind_eq_ok.mpr ⟨(pairRules, oneGrammar.document), ?_, bind_eq_ok.mpr
    ⟨_, catalogue_oneOrder, rfl⟩⟩
  exact bind_eq_ok.mpr ⟨_, hgrammar, bind_eq_ok.mpr
    ⟨_, Json.documentText?_of_depth (by decide), rfl⟩⟩

/-- Every grammar for pairs leads to an SDK. -/
theorem generate_pairs {b : Built} (hcatalogue : b.catalogue = pairCatalogue)
    (hstart : b.grammar.startRule = .ok "pair") : ∃ o, generate b none = .ok o := by
  have hapart : ¬pairCatalogue.SharesModule := Catalogue.not_sharesModule (by decide)
  have hcheck : pairCatalogue.check = .ok () := by cbv
  rw [← hcatalogue] at hapart hcheck
  obtain ⟨o, ho, _⟩ := generate_standard hcheck hstart hapart
  exact ⟨o, ho⟩

/-- The first of two orders of everything has an SDK. -/
theorem generateFrom_one : ∃ o,
    generateFrom (.value oneGrammar) (.value (.arr oneOrder)) none none = .ok o := by
  obtain ⟨o, ho⟩ := generate_pairs (b := pairs) rfl rfl
  exact ⟨o, bind_eq_ok.mpr ⟨pairs, ofInputs?_pairs, ho⟩⟩

/-- The second one has the same. -/
theorem generate_any_order_pairs : ∃ o o',
    generateFrom (.value oneGrammar) (.value (.arr oneOrder)) none none = .ok o ∧
    generateFrom (.value otherGrammar) (.value (.arr otherOrder)) none none = .ok o' ∧
    o.paths = o'.paths ∧ o.get? "navigator.py" = o'.get? "navigator.py" := by
  obtain ⟨hboth, hsame⟩ := generate_any_order reordered_pairGrammar reordered_pairTypes none none
  obtain ⟨o, ho⟩ := generateFrom_one
  obtain ⟨o', ho'⟩ := hboth.mp ⟨o, ho⟩
  obtain ⟨hpaths, hfiles⟩ := hsame o o' ho ho'
  exact ⟨o, o', ho, ho', hpaths, hfiles "navigator.py" (by decide) (by decide)⟩

end Sdk

end TraversalSdk
