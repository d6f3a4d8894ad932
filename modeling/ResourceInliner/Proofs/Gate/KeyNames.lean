/-
A module edited once with its key names kept and once with new ones. Both edits replace the same object literals, and of
each of these they make the same values; the second one renames keys besides.

- `keepUrl_renames_only`: how the two edits may differ, for one object and for a module.
-/
import Mathlib.Data.List.Flatten
import ResourceInliner.Proofs.Gate.Placement
import ResourceInliner.Proofs.Gate.Replace
import ResourceInliner.Proofs.Metadata.KeyNames

namespace ResourceInliner

open Metadata

theorem inlineModule_notes (keepUrl : Bool) (tree : Node) :
    (inlineModule keepUrl tree).notes = (tree.sites .code).flatMap fun site => (inlineMetadata keepUrl site.props).notes := by
  simp only [inlineModule, Node.metadata_eq_sites, List.map_map, List.flatMap_map]
  rfl

/-- **Main result.** Keeping the key names or not, an object gets the same values in the same order, and the same entries
are merged and the same property is taken out; at most the keys of the first `templateUrl` and the first `styleUrls` have
another name, with one patch for each. In a module, the same object literals are replaced in both edits, and they have the
same values but for the names of keys: values are rewritten and lists are merged in the same ones. -/
theorem keepUrl_renames_only :
    (∀ props : List Property, OnlyKeysRenamed props (inlineMetadata true props) (inlineMetadata false props)) ∧
    ∀ tree : Node,
      (∀ keepUrl, (inlineModule keepUrl tree).tree =
        tree.replaceAll ((tree.sites .code).map fun site => (site.route, (site.edited keepUrl).object))) ∧
      (∀ site ∈ tree.sites .code,
        (∀ keepUrl, (inlineModule keepUrl tree).tree.at? site.route = some (site.edited keepUrl).object) ∧
        (site.edited false).props.map unnamed = (site.edited true).props.map unnamed ∧
        (RewritesValues site.props (site.edited false).props ↔ RewritesValues site.props (site.edited true).props) ∧
        (MergesLists site.props (site.edited false).props ↔ MergesLists site.props (site.edited true).props)) ∧
      (inlineModule true tree).patches.Sublist (inlineModule false tree).patches ∧
      (inlineModule false tree).notes = (inlineModule true tree).notes := by
  refine ⟨onlyKeysRenamed, fun tree => ⟨fun keepUrl => ?_, fun site hsite => ?_, ?_, ?_⟩⟩
  · exact Node.inline_eq_replaceAll keepUrl .code tree
  · have hsame := onlyKeysRenamed site.props
    exact ⟨fun keepUrl => Node.at?_inline_site keepUrl hsite, hsame.map_unnamed, hsame.rewritesValues_iff,
      hsame.mergesLists_iff⟩
  · rw [inlineModule_patches, inlineModule_patches]
    exact List.Sublist.flatMap_right _ fun site _ => (onlyKeysRenamed site.props).patches
  · rw [inlineModule_notes, inlineModule_notes]
    simp only [notes_inlineMetadata false]

/-- both edits of the small module rewrite the style sheets of its class and merge the list behind them -/
theorem keepUrl_renames_only_sample : ∃ site ∈ sampleTree.sites .code,
    (RewritesValues site.props (site.edited true).props ∧ RewritesValues site.props (site.edited false).props) ∧
    (MergesLists site.props (site.edited true).props ∧ MergesLists site.props (site.edited false).props) := by
  obtain ⟨site, hsites, hprops⟩ : ∃ site, sampleTree.sites .code = [site] ∧ site.props =
      [.keyValue (.name ⟨5, 14⟩ "styleUrls") (.array ⟨16, 21⟩ [.element (.string ⟨17, 20⟩ "a" "'a'")]),
        .keyValue (.name ⟨23, 29⟩ "styles") (.array ⟨31, 36⟩ [.element (.string ⟨32, 35⟩ "b" "'b'")])] := by
    refine List.map_eq_singleton_iff.1 ?_
    rw [← Node.metadata_eq_sites]
    rfl
  have hsite : site ∈ sampleTree.sites .code := hsites ▸ List.mem_singleton_self site
  obtain ⟨-, -, hvalues, hlists⟩ := (keepUrl_renames_only.2 sampleTree).2.1 site hsite
  have hedited : (site.edited true).props = [.keyValue (.name ⟨5, 14⟩ "styleUrls") (.array ⟨16, 21⟩
      [.element (requireNode "a" ⟨17, 20⟩), .element (.string ⟨32, 35⟩ "b" "'b'")])] := by
    rw [Site.edited, hprops]
    rfl
  have hrewrites : RewritesValues site.props (site.edited true).props := by
    rw [RewritesValues, hedited, hprops]
    intro hsublist
    have hkept := hsublist.subset List.mem_cons_self
    simp [value?] at hkept
  have hmerges : MergesLists site.props (site.edited true).props := by
    rw [MergesLists, hedited, hprops]
    decide
  exact ⟨site, hsite, ⟨hrewrites, hvalues.2 hrewrites⟩, hmerges, hlists.2 hmerges⟩

end ResourceInliner
