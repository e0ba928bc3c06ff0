import Mathlib.Data.List.Nodup
import TraversalSdk.Navigation

namespace TraversalSdk

inductive Tree
  | node (type : NodeRef) (children : List Tree)

namespace Tree

def type : Tree → NodeRef
  | node r _ => r

def children : Tree → List Tree
  | node _ ts => ts

/-- The node at an address. Addresses list positions among siblings, from the node up to the root. -/
def at? (t : Tree) : List Nat → Option Tree
  | [] => some t
  | i :: p => (at? t p).bind fun s => s.children[i]?

/-- The address that a step leads to; whether a node stands there is for the tree to say. -/
def step : Direction → List Nat → Option (List Nat)
  | .firstChild, p => some (0 :: p)
  | .nextSibling, i :: p => some ((i + 1) :: p)
  | .previousSibling, (i + 1) :: p => some (i :: p)
  | .parent, _ :: p => some p
  | _, _ => none

/-- The type of the node that a step lands on, `none` if it finds no node. -/
def landing (t : Tree) (p : List Nat) (d : Direction) : Option NodeRef :=
  ((step d p).bind t.at?).map type

theorem at?_child {t s : Tree} {p : List Nat} (h : t.at? p = some s) (i : Nat) :
    t.at? (i :: p) = s.children[i]? := by
  simp [at?, h]

theorem at?_cons {t s : Tree} {i : Nat} {p : List Nat} (h : t.at? (i :: p) = some s) :
    ∃ s', t.at? p = some s' ∧ s'.children[i]? = some s :=
  Option.bind_eq_some_iff.mp h

end Tree

namespace Catalogue

variable (c : Catalogue)

/-- Whether a node of type `r` may stand in a place under a node described by `d`: within the entry
at a position, or as an extra, for which a node with any entry has room. -/
def Admits (d : Descriptor) : Option Nat → NodeRef → Prop
  | some i, r => ∃ e, d.entries[i]? = some e ∧ r ∈ c.expandAll e.spec.types
  | none, r => r ∈ c.namedExtras ∧ d.hasEntries = true

/-- Children, each with its place, that fill the entries of `d` as often as these allow and ask. Extras stand
apart from the entries. -/
structure Fits (d : Descriptor) (placed : List (Option Nat × NodeRef)) : Prop where
  admits : ∀ k ∈ placed, c.Admits d k.1 k.2
  single : ∀ i e, d.entries[i]? = some e → e.spec.multiple = false →
    (placed.filter fun k => k.1 = some i).length ≤ 1
  required : ∀ i e, d.entries[i]? = some e → e.spec.required = true → ∃ k ∈ placed, k.1 = some i

/-- Trees whose inner nodes are of concrete types and hold what these declare. Nodes of other types,
tokens for instance, are leaves. -/
inductive Conforms : Tree → Prop
  | leaf (r : NodeRef) (hr : ∀ d ∈ c.descriptors, d.ref = r → d.isConcrete = false) :
    Conforms (.node r [])
  | inner (d : Descriptor) (placed : List (Option Nat × NodeRef)) (ts : List Tree)
    (declared : d ∈ c.descriptors) (concrete : d.isConcrete = true) (fits : c.Fits d placed)
    (types : ts.map Tree.type = placed.map Prod.snd) (below : ∀ t ∈ ts, Conforms t) :
    Conforms (.node d.ref ts)

/-- A conforming tree with a root type, or the start type, at its root. -/
structure Parses (start : Option String) (t : Tree) : Prop where
  root : t.type ∈ c.roots ∨ ∃ s, start = some s ∧ t.type = ⟨s, true⟩
  conforms : c.Conforms t

variable {c}

/-- Every node of a conforming tree conforms. -/
theorem Conforms.at? {t : Tree} (h : c.Conforms t) {p : List Nat} {s : Tree}
    (hs : t.at? p = some s) : c.Conforms s := by
  induction p generalizing s with
  | nil =>
    cases hs
    exact h
  | cons i p ih =>
    obtain ⟨s', hp, hi⟩ := Tree.at?_cons hs
    cases ih hp with
    | leaf r => simp [Tree.children] at hi
    | inner d placed ts _ _ _ _ below => exact below s (List.mem_of_getElem? hi)

/-- A catalogue declares a type once. -/
theorem eq_of_ref_eq {d d' : Descriptor} (hd : d ∈ c.descriptors) (hd' : d' ∈ c.descriptors)
    (h : d.ref = d'.ref) : d = d' :=
  List.inj_on_of_nodup_map c.nodup hd hd' h

/-- Whatever stands at a node of a concrete type, its children fit the type. -/
theorem Conforms.fits {s : Tree} (h : c.Conforms s) {d : Descriptor} (hd : d ∈ c.descriptors)
    (hc : d.isConcrete = true) (hr : d.ref = s.type) :
    ∃ placed, c.Fits d placed ∧ s.children.map Tree.type = placed.map Prod.snd := by
  cases h with
  | leaf r hn => simp [hn d hd hr] at hc
  | inner d' placed ts hd' _ fits types _ =>
    have he : d = d' := eq_of_ref_eq hd hd' hr
    subst he
    exact ⟨placed, fits, types⟩

/-- A node with a child is of a concrete type. -/
theorem Conforms.parent {s t : Tree} (h : c.Conforms s) {i : Nat} (hi : s.children[i]? = some t) :
    ∃ d ∈ c.descriptors, d.isConcrete = true ∧ d.ref = s.type := by
  cases h with
  | leaf r => simp [Tree.children] at hi
  | inner d _ _ hd hc _ _ _ => exact ⟨d, hd, hc, rfl⟩

end Catalogue

end TraversalSdk
