import TraversalSdk.Proofs.JsonReading
import TraversalSdk.Proofs.ReorderedDocuments

namespace TraversalSdk

open Json (Readable documentLimits)

theorem Json.Readable.documentText? {v : Json} (h : v.Readable) : v.documentText? = .ok v.document :=
  Json.documentText?_of_depth (h.depth_le.trans (by decide))

/-- A grammar is read alike from a value and from the text of this value. -/
theorem Grammar.ofInput?_text {ms : List (String × Json)} (h : (Json.obj ms).Readable) :
    ofInput? (.value (.obj ms)) = ofInput? (.text (Json.obj ms).document) := by
  simp only [ofInput?, ofText?, h.ofText?_document, h.documentText?]
  cases ofJson? (.obj ms) <;> rfl

/-- Node types are, too. -/
theorem Catalogue.ofInput?_text {vs : List Json} (h : (Json.arr vs).Readable) :
    ofInput? (.value (.arr vs)) = ofInput? (.text (Json.arr vs).document) := by
  cases vs with
  | nil =>
    have hempty : (Json.arr []).document = "[]" := rfl
    simp only [ofInput?, ofText?, h.ofText?_document]
    cases hc : ofJson? (.arr []) with
    | error e => rfl
    | ok c =>
      have hnone : c.descriptors = [] := List.forall₂_nil_left_iff.mp (ofJson?_eq_ok_iff.mp hc).1
      have htext : (c.toJson false).document = "[]" := by rw [toJson, hnone]; rfl
      change Except.ok (c, (c.toJson false).document) = Except.ok (c, _)
      rw [htext, hempty]
  | cons v vs =>
    simp only [ofInput?, ofText?, h.ofText?_document, h.documentText?]
    cases ofJson? (.arr (v :: vs)) <;> rfl

namespace Sdk

/-- So an SDK does not depend on the form of the documents. -/
theorem generateFrom_text {ms : List (String × Json)} {vs : List Json} (hg : (Json.obj ms).Readable)
    (hn : (Json.arr vs).Readable) (parser : Option ByteArray) (config : Option Json) :
    generateFrom (.value (.obj ms)) (.value (.arr vs)) parser config =
      generateFrom (.text (Json.obj ms).document) (.text (Json.arr vs).document) parser config := by
  simp only [generateFrom, Built.ofInputs?, Grammar.ofInput?_text hg, Catalogue.ofInput?_text hn]

/-- An SDK carries the texts of its documents. -/
theorem get?_documents {b : Built} {config : Option Json} {o : Output} (h : generate b config = .ok o) :
    o.get? "__artifacts__/grammar.json" = some (.text b.grammarSource) ∧
      o.get? "__artifacts__/node-types.json" = some (.text b.nodeTypesSource) := by
  obtain ⟨_, plan, _, hfiles⟩ := generate_ok h
  have hmem {a : Artifact} (ha : a ∈ documents b) : a ∈ artifacts b plan := List.mem_append_right _ ha
  exact ⟨hfiles ⟨"__artifacts__/grammar.json", _⟩ (hmem List.mem_cons_self),
    hfiles ⟨"__artifacts__/node-types.json", _⟩ (hmem (List.mem_cons_of_mem _ List.mem_cons_self))⟩

/-- An SDK from texts carries just these texts. -/
theorem get?_texts {gs ns : String} {parser : Option ByteArray} {config : Option Json} {o : Output}
    (h : generateFrom (.text gs) (.text ns) parser config = .ok o) :
    o.get? "__artifacts__/grammar.json" = some (.text gs) ∧
      o.get? "__artifacts__/node-types.json" = some (.text ns) := by
  obtain ⟨b, hb, ho⟩ := bind_eq_ok.mp h
  obtain ⟨⟨g, gs'⟩, hg, hb⟩ := bind_eq_ok.mp hb
  obtain ⟨⟨c, ns'⟩, hc, hb⟩ := bind_eq_ok.mp hb
  obtain ⟨_, _, hg⟩ := bind_eq_ok.mp hg
  obtain ⟨_, _, hc⟩ := bind_eq_ok.mp hc
  cases hg
  cases hc
  cases hb
  exact get?_documents ho

/-- For readable documents, an object and an array, it does not matter whether they are given as JSON or as the
texts of that JSON: both lead to the same SDK, or both to the same failure. From the documents that the SDK
carries, the same configuration and the same parser, the SDK is generated again. -/
theorem generate_any_form {ms : List (String × Json)} {vs : List Json} (hg : (Json.obj ms).Readable)
    (hn : (Json.arr vs).Readable) (parser : Option ByteArray) (config : Option Json) :
    generateFrom (.value (.obj ms)) (.value (.arr vs)) parser config =
      generateFrom (.text (Json.obj ms).document) (.text (Json.arr vs).document) parser config ∧
    ∀ o, generateFrom (.value (.obj ms)) (.value (.arr vs)) parser config = .ok o →
      ∃ gs ns, o.get? "__artifacts__/grammar.json" = some (.text gs) ∧
        o.get? "__artifacts__/node-types.json" = some (.text ns) ∧
        generateFrom (.text gs) (.text ns) parser config = .ok o := by
  have hsame := generateFrom_text hg hn parser config
  refine ⟨hsame, fun o ho => ?_⟩
  rw [hsame] at ho
  obtain ⟨hgrammar, hnodeTypes⟩ := get?_texts ho
  exact ⟨_, _, hgrammar, hnodeTypes, ho⟩

theorem readable_oneGrammar : oneGrammar.Readable :=
  ⟨⟨by decide, trivial, ⟨by decide, ⟨by decide, trivial, trivial⟩, ⟨by decide, trivial, trivial⟩,
    ⟨by decide, trivial, trivial⟩, trivial⟩, trivial⟩, by decide⟩

theorem readable_oneOrder : (Json.arr oneOrder).Readable := by
  refine ⟨?_, by decide⟩
  simp [Json.Decoded, Json.DecodedItems, Json.DecodedMembers, oneOrder, pairType, leafType, fieldOf]

/-- The SDK for pairs carries its documents, and they lead to it again. -/
theorem generate_any_form_pairs : ∃ o gs ns,
    generateFrom (.text oneGrammar.document) (.text (Json.arr oneOrder).document) none none = .ok o ∧
    o.get? "__artifacts__/grammar.json" = some (.text gs) ∧
    generateFrom (.text gs) (.text ns) none none = .ok o := by
  obtain ⟨o, ho⟩ := generateFrom_one
  obtain ⟨hsame, hagain⟩ := generate_any_form readable_oneGrammar readable_oneOrder none none
  obtain ⟨gs, ns, hgs, _, hgenerated⟩ := hagain o ho
  exact ⟨o, gs, ns, hsame ▸ ho, hgs, hgenerated⟩

def nested : Nat → Json
  | 0 => .arr []
  | n + 1 => .arr [nested n]

theorem depth_nested (n : Nat) : (nested n).depth = n + 1 := by
  induction n with
  | zero => rfl
  | succ n ih => simp [nested, Json.depth, Json.depthOfItems, ih]

/-- However deep it is, an array of arrays can be the value of a text. -/
theorem decoded_nested (n : Nat) : (nested n).Decoded documentLimits := by
  induction n with
  | zero => trivial
  | succ n ih => exact ⟨ih, trivial⟩

def grammarWith (v : Json) : Json :=
  .obj [("name", .str "pairs"), ("rules", .obj [("pair", blankRule)]), ("unknown", v)]

def rulesWith (v : Json) : Grammar :=
  ⟨"pairs", [("pair", .blank)], [], [], [], [], [], [], none, [("unknown", v)]⟩

theorem ofJson?_grammarWith (v : Json) : Grammar.ofJson? (grammarWith v) = .ok (rulesWith v) := by
  cbv

theorem decoded_grammarWith {v : Json} (h : v.Decoded documentLimits) :
    (grammarWith v).Decoded documentLimits :=
  ⟨by simp, trivial, ⟨by decide, ⟨by decide, trivial, trivial⟩, trivial⟩, h, trivial⟩

theorem depth_grammarWith (v : Json) : (grammarWith v).depth = max 3 v.depth + 1 := by
  simp [grammarWith, blankRule, Json.depth, Json.depthOfMembers]

/-- A value that is not too deep to be written may stand in a grammar. -/
theorem generateFrom_grammarWith {v : Json} (h : v.depth < Json.writableDepth) :
    ∃ o, generateFrom (.value (grammarWith v)) (.value (.arr oneOrder)) none none = .ok o := by
  have hwritable : (grammarWith v).depth ≤ Json.writableDepth := by
    rw [depth_grammarWith]
    exact Nat.succ_le_of_lt (Nat.max_lt.mpr ⟨by decide, h⟩)
  obtain ⟨o, ho⟩ := generate_pairs (b := ⟨rulesWith v, pairCatalogue, (grammarWith v).document,
    (Json.arr oneOrder).document, none⟩) rfl rfl
  refine ⟨o, bind_eq_ok.mpr ⟨_, ?_, ho⟩⟩
  refine bind_eq_ok.mpr ⟨(rulesWith v, (grammarWith v).document), ?_,
    bind_eq_ok.mpr ⟨_, catalogue_oneOrder, rfl⟩⟩
  exact bind_eq_ok.mpr ⟨_, ofJson?_grammarWith v, bind_eq_ok.mpr
    ⟨_, Json.documentText?_of_depth hwritable, rfl⟩⟩

/-- No text that is too deep makes an SDK. -/
theorem generateFrom_deep {g : Json} (hg : g.Decoded documentLimits) (h : documentLimits.depth + 1 < g.depth)
    (nodeTypes : Input Catalogue) (parser : Option ByteArray) (config : Option Json) :
    generateFrom (.text g.document) nodeTypes parser config = .error (.notJson .grammar) := by
  have hnone : Json.ofText? g.document = none :=
    (Json.ofText?_document hg).trans (if_neg (Nat.not_le.mpr h))
  simp [generateFrom, Built.ofInputs?, Grammar.ofInput?, Grammar.ofText?, hnone, bind, Except.bind]

/-- From a grammar that is written but too deep to be read there is an SDK, and none from its text. -/
theorem generate_deep_apart : (grammarWith (nested 200)).Decoded documentLimits ∧
    (∃ o, generateFrom (.value (grammarWith (nested 200))) (.value (.arr oneOrder)) none none = .ok o) ∧
    generateFrom (.text (grammarWith (nested 200)).document) (.text (Json.arr oneOrder).document) none none
      = .error (.notJson .grammar) := by
  have hdecoded := decoded_grammarWith (decoded_nested 200)
  have hdepth := depth_nested 200
  generalize nested 200 = v at hdecoded hdepth ⊢
  refine ⟨hdecoded, generateFrom_grammarWith (by rw [hdepth]; decide), generateFrom_deep hdecoded ?_ _ _ _⟩
  rw [depth_grammarWith, hdepth]
  decide

end Sdk

end TraversalSdk
