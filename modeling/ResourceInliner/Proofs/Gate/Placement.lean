/-
Where the patches of one pass over a module lie. In a module whose spans are well placed over its text, the patches lie
inside the object literals they were made for, and no two patches of the whole pass overlap. So they are applied, and a
module that parses is not left as it is because of a refused patch.

- `Node.WellPlaced`: every node can be read, and of two nodes of which neither is inside the other, no byte belongs to
  both. `wellPlaced_of_nested`: this holds if it does for each node and its children.
- `inlineModule_placed`: the patches of a pass.
-/
import ResourceInliner.Inline
import ResourceInliner.Proofs.Gate.Search
import ResourceInliner.Proofs.Metadata.Placement

namespace ResourceInliner

open Metadata

/-- the spans of a tree are well placed in a source whose first byte sits at `base` -/
structure Node.WellPlaced (source : List Char) (base : UInt32) (tree : Node) : Prop where
  readable : ∀ route node, tree.at? route = some node → node.span.Readable source base
  apart : ∀ p q a b, p.Before q → tree.at? p = some a → tree.at? q = some b → a.span.Apart b.span
  arrays : ∀ route span items, tree.at? route = some (.array span items) → ItemsPlaced source base span items
  objects : ∀ route span props, tree.at? route = some (.object span props) → PropsPlaced source base span props

/-- the entries or properties of a node that has any are well placed -/
def Node.PartsPlaced (source : List Char) (base : UInt32) : Node → Prop
  | .array span items => ItemsPlaced source base span items
  | .object span props => PropsPlaced source base span props
  | _ => True

/-- a node lies well with its children: they stand inside it and do not overlap -/
structure Node.Nested (source : List Char) (base : UInt32) (node : Node) : Prop where
  readable : node.span.Readable source base
  inside : ∀ child ∈ node.children, child.span.Inside node.span
  apart : node.children.Pairwise fun a b => a.span.Apart b.span
  parts : node.PartsPlaced source base

section

variable {source : List Char} {base : UInt32} {tree : Node}

instance : DecidablePred (Node.PartsPlaced source base)
  | .array span items => inferInstanceAs (Decidable (ItemsPlaced source base span items))
  | .object span props => inferInstanceAs (Decidable (PropsPlaced source base span props))
  | .name _ _ | .string _ _ _ | .call _ _ _ _ | .cls _ _ _ _ | .other _ _ _ => inferInstanceAs (Decidable True)

instance : DecidablePred (Node.Nested source base) := fun node =>
  decidable_of_iff (node.span.Readable source base ∧ (∀ child ∈ node.children, child.span.Inside node.span) ∧
      (node.children.Pairwise fun a b => a.span.Apart b.span) ∧ node.PartsPlaced source base)
    ⟨fun ⟨a, b, c, d⟩ => ⟨a, b, c, d⟩, fun ⟨a, b, c, d⟩ => ⟨a, b, c, d⟩⟩

/-- a node stands inside the nodes on the way to it -/
theorem Node.inside_of_nested (h : ∀ route node, tree.at? route = some node → node.Nested source base) {route : Route}
    {target : Node} (hat : tree.at? route = some target) : target.span.Inside tree.span := by
  induction route generalizing tree with
  | nil =>
    rw [at?_nil, Option.some.injEq] at hat
    rw [hat]
    exact Span.Inside.refl _
  | cons i route ih =>
    obtain ⟨child, hchild, htarget⟩ := at?_cons_eq_some hat
    have hbelow : ∀ route node, child.at? route = some node → node.Nested source base := by
      intro route node hnode
      exact h (i :: route) node (by rw [at?_cons hchild, hnode])
    exact (ih hbelow htarget).trans ((h [] tree rfl).inside child (List.mem_of_getElem? hchild))

/-- a tree is well placed if each of its nodes lies well with its children -/
theorem Node.wellPlaced_of_nested (h : ∀ route node, tree.at? route = some node → node.Nested source base) :
    tree.WellPlaced source base where
  readable route node hat := (h route node hat).readable
  apart := by
    rintro _ _ a b ⟨stem, i, j, p, q, rfl, rfl, hij⟩ ha hb
    -- the routes part below one node, into two of its children
    obtain ⟨node, hnode, ha⟩ := at?_of_append ha
    rw [at?_append hnode] at hb
    obtain ⟨x, hx, ha⟩ := at?_cons_eq_some ha
    obtain ⟨y, hy, hb⟩ := at?_cons_eq_some hb
    have hbelow : ∀ (k : Nat) (child : Node), node.children[k]? = some child →
        ∀ route target, child.at? route = some target → Node.Nested source base target := by
      intro k child hchild route target htarget
      refine h (stem ++ k :: route) target ?_
      rw [at?_append hnode, at?_cons hchild, htarget]
    obtain ⟨hi, rfl⟩ := List.getElem?_eq_some_iff.1 hx
    obtain ⟨hj, rfl⟩ := List.getElem?_eq_some_iff.1 hy
    have hchildren := List.pairwise_iff_getElem.1 (h stem node hnode).apart i j hi hj hij
    exact hchildren.mono (inside_of_nested (hbelow i _ hx) ha) (inside_of_nested (hbelow j _ hy) hb)
  arrays route span items hat := (h route _ hat).parts
  objects route span props hat := (h route _ hat).parts

/-- the values of an object literal are well placed with it -/
theorem Node.WellPlaced.object (h : tree.WellPlaced source base) {route : Route} {span : Span} {props : List Property}
    (hat : tree.at? route = some (.object span props)) : ObjectPlaced source base span props := by
  have hvalue : ∀ key value, .keyValue key value ∈ props → ∃ route, tree.at? route = some value := by
    intro key value hmem
    have hchild : value ∈ (Node.object span props).children :=
      List.mem_flatMap.2 ⟨.keyValue key value, hmem, List.mem_append_right _ (List.mem_singleton.2 rfl)⟩
    obtain ⟨i, hi⟩ := List.getElem?_of_mem hchild
    exact ⟨route ++ [i], by rw [at?_append hat, at?_cons hi, at?_nil]⟩
  refine ⟨h.objects route span props hat, fun key value hmem => ?_, fun key at_ items hmem => ?_⟩
  · obtain ⟨route, hroute⟩ := hvalue key value hmem
    exact h.readable route value hroute
  · obtain ⟨route, hroute⟩ := hvalue key _ hmem
    exact h.arrays route at_ items hroute

end

/-- the object literals that hold metadata are well placed, whatever the rest of the tree is like -/
def Node.MetadataPlaced (source : List Char) (base : UInt32) (tree : Node) : Prop :=
  ∀ props ∈ tree.metadata .code, ∃ span, ObjectPlaced source base span props

theorem Node.WellPlaced.metadata {source : List Char} {base : UInt32} {tree : Node} (h : tree.WellPlaced source base) :
    tree.MetadataPlaced source base := by
  intro props hprops
  rw [Node.metadata_eq_sites] at hprops
  obtain ⟨site, hsite, rfl⟩ := List.mem_map.1 hprops
  exact ⟨site.span, h.object (Node.sites_at .code tree site hsite)⟩

/-- the patches of the edit of a site -/
def Site.patches (keepUrl : Bool) (site : Site) : List Patch :=
  (inlineMetadata keepUrl site.props).patches

theorem inlineModule_patches (keepUrl : Bool) (tree : Node) :
    (inlineModule keepUrl tree).patches = (tree.sites .code).flatMap (Site.patches keepUrl) := by
  simp only [inlineModule, Node.metadata_eq_sites, List.map_map, List.flatMap_map]
  rfl

/-- **Main result.** -/
theorem inlineModule_placed {source : List Char} {base : UInt32} {tree : Node} (h : tree.WellPlaced source base)
    (keepUrl : Bool) :
    (inlineModule keepUrl tree).patches = (tree.sites .code).flatMap (Site.patches keepUrl) ∧
      (∀ site ∈ tree.sites .code, ∀ patch ∈ site.patches keepUrl, patch.span.Inside site.span ∧
        ∀ copied, .source copied ∈ patch.chunks → copied.Inside site.span) ∧
      (inlineModule keepUrl tree).patches.Pairwise
        (fun a b => ¬ (a.span.lo < b.span.hi ∧ b.span.lo < a.span.hi)) ∧
      (∃ code, applyPatches (String.ofList source) base (inlineModule keepUrl tree).patches = .ok code) ∧
      ∀ (parser : Parser) (config : Config) (text : String), config.keepUrl = keepUrl → base = basePosition →
        (splitMark text.toList).2 = source → parseModule config.dialect source parser = .ok tree →
        ∃ code, (inlineResources config text parser).1 = .ok code := by
  have hplaced : ∀ site ∈ tree.sites .code, ObjectPlaced source base site.span site.props :=
    fun site hsite => h.object (Node.sites_at .code tree site hsite)
  have hfits := fun site hsite => edit_placed keepUrl (hplaced site hsite)
  have hapart : (inlineModule keepUrl tree).patches.Pairwise fun a b => a.span.Apart b.span := by
    rw [inlineModule_patches, List.pairwise_flatMap]
    refine ⟨fun site hsite => (hfits site hsite).1.apart, (Node.sites_pairwise .code tree).imp_of_mem ?_⟩
    intro a b ha hb hab p hp q hq
    have hobjects := h.apart _ _ _ _ hab (Node.sites_at .code tree a ha) (Node.sites_at .code tree b hb)
    exact hobjects.mono ((hfits a ha).1.inside p hp) ((hfits b hb).1.inside q hq)
  have hread : ∀ patch ∈ (inlineModule keepUrl tree).patches, patch.Readable source base := by
    intro patch hpatch
    rw [inlineModule_patches] at hpatch
    obtain ⟨site, hsite, hpatch⟩ := List.mem_flatMap.1 hpatch
    exact ⟨(hfits site hsite).1.readable patch hpatch,
      fun copied hcopied => ((hfits site hsite).2 patch hpatch copied hcopied).1⟩
  have happlied : ∃ code, applyPatches (String.ofList source) base (inlineModule keepUrl tree).patches = .ok code := by
    refine applyPatches_of_apart ?_ hapart
    rw [String.toList_ofList]
    exact hread
  refine ⟨inlineModule_patches keepUrl tree, fun site hsite patch hpatch => ?_, hapart.imp Span.apart_iff.1, happlied, ?_⟩
  · obtain ⟨hfit, hcopies⟩ := hfits site hsite
    exact ⟨hfit.inside patch hpatch, fun copied hcopied => (hcopies patch hpatch copied hcopied).2⟩
  intro parser config text hkeep hbase hsource hparse
  obtain ⟨code, hcode⟩ := happlied
  subst hkeep hbase hsource
  rw [inlineResources]
  simp only [hparse, hcode]
  split
  · exact ⟨_, rfl⟩
  · exact ⟨_, rfl⟩

/-- a small module: a class with one decorator -/
def sampleText : List Char := "@C(\x7bstyleUrls: ['a'], styles: ['b']\x7d) class A \x7b\x7d".toList

/-- its tree, at the base position of a file -/
def sampleTree : Node :=
  .other .module ⟨1, 49⟩ [.cls .declaration ⟨1, 49⟩ [.call ⟨2, 38⟩ (.name ⟨2, 3⟩ "C") [.object ⟨4, 37⟩
    [.keyValue (.name ⟨5, 14⟩ "styleUrls") (.array ⟨16, 21⟩ [.element (.string ⟨17, 20⟩ "a" "'a'")]),
      .keyValue (.name ⟨23, 29⟩ "styles") (.array ⟨31, 36⟩ [.element (.string ⟨32, 35⟩ "b" "'b'")])]] []] []]

theorem sampleTree_wellPlaced : sampleTree.WellPlaced sampleText basePosition := by
  have hcheck : Node.allWithin (fun node => node.Nested sampleText basePosition) 6 sampleTree = true := by decide
  exact Node.wellPlaced_of_nested fun route node hat => of_decide_eq_true (Node.of_allWithin hcheck route node hat)

theorem inlineModule_placed_sample : sampleTree.WellPlaced sampleText basePosition ∧
    ∃ code, applyPatches (String.ofList sampleText) basePosition (inlineModule false sampleTree).patches = .ok code :=
  ⟨sampleTree_wellPlaced, (inlineModule_placed sampleTree_wellPlaced false).2.2.2.1⟩

end ResourceInliner
