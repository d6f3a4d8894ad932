/-
The modules that a pass leaves as they are. Whether there are patches for a module and whether its tree is another one
afterwards is the same question, and so is how many objects were edited and how many are not the same afterwards.

- `changedSites`: the metadata that is not the same after the pass.
- `site_unchanged_iff`: one object. `editCount_eq`, `module_unchanged_iff`: a module.
- `Ending`: how inlining a module text ends. `patches_follow_tree`: objects, modules and module texts together.
-/
import ResourceInliner.Inline
import ResourceInliner.Proofs.Gate.Replace
import ResourceInliner.Proofs.Metadata.Unchanged
import ResourceInliner.Proofs.Tree.Equal

namespace ResourceInliner

/-- the object literals that a pass changes: those of the metadata that do not stand in the new tree as they stood -/
def changedSites (keepUrl : Bool) (tree : Node) : List Site :=
  (tree.sites .code).filter fun site => (inlineModule keepUrl tree).tree.at? site.route != tree.at? site.route

/-- How inlining the resources of a module text ends, with the events on the way. The mark at the start of the text is
set aside, and the rest is parsed, by whatever parser there is. -/
inductive Ending (parser : Parser) (config : Config) (source : String) :
    Except InlineError String × List Event → Prop where
  /-- the text is no module -/
  | unparsed {mark body : List Char} {error : InlineError} (hsplit : splitMark source.toList = (mark, body))
    (hparse : parseModule config.dialect body parser = .error error) : Ending parser config source (.error error, [])
  /-- the tree stays as it is, and the text comes back as it is -/
  | unchanged {mark body : List Char} {tree : Node} (hsplit : splitMark source.toList = (mark, body))
    (hparse : parseModule config.dialect body parser = .ok tree)
    (hsame : (inlineModule config.keepUrl tree).tree = tree) :
    Ending parser config source
      (.ok source, (inlineModule config.keepUrl tree).notes.map Event.skipped ++ [.edited 0])
  /-- the tree is another one, and the text is patched -/
  | patched {mark body : List Char} {tree : Node} (hsplit : splitMark source.toList = (mark, body))
    (hparse : parseModule config.dialect body parser = .ok tree)
    (hchanged : (inlineModule config.keepUrl tree).tree ≠ tree) :
    Ending parser config source
      (((applyPatches (String.ofList body) basePosition (inlineModule config.keepUrl tree).patches).mapError
          .patch).map (String.ofList mark ++ ·),
        (inlineModule config.keepUrl tree).notes.map Event.skipped ++
          [.edited (changedSites config.keepUrl tree).length])

section

variable (keepUrl : Bool) (tree : Node)

/-- an object of the metadata stands in the new tree as it stood exactly if there is no patch for it -/
theorem site_unchanged_iff {site : Site} (hsite : site ∈ tree.sites .code) :
    (inlineModule keepUrl tree).tree.at? site.route = tree.at? site.route ↔
      (Metadata.inlineMetadata keepUrl site.props).patches = [] := by
  have hbefore := Node.sites_at .code tree site hsite
  have hafter : (inlineModule keepUrl tree).tree.at? site.route = some (site.edited keepUrl).object :=
    Node.at?_inline_site keepUrl hsite
  rw [hbefore, hafter, Option.some.injEq, Metadata.unchanged_iff]
  change Node.object site.span (Metadata.inlineMetadata keepUrl site.props).result = .object site.span site.props ↔ _
  rw [Node.object.injEq]
  exact and_iff_right rfl

/-- the objects that are counted are those that are not the same afterwards -/
theorem editCount_eq : (inlineModule keepUrl tree).editCount = (changedSites keepUrl tree).length := by
  have hcount : (inlineModule keepUrl tree).editCount = ((tree.sites .code).filter fun site =>
      !(Metadata.inlineMetadata keepUrl site.props).patches.isEmpty).length := by
    simp only [inlineModule, Node.metadata_eq_sites, List.map_map, List.filter_map, List.length_map]
    rfl
  rw [hcount, changedSites]
  congr 1
  refine List.filter_congr fun site hsite => ?_
  rw [Bool.eq_iff_iff, bne_iff_ne, ne_eq, site_unchanged_iff keepUrl tree hsite, Bool.not_eq_true',
    Bool.eq_false_iff, ne_eq, List.isEmpty_iff]

/-- a module stays as it is exactly if there is no patch for it -/
theorem module_unchanged_iff :
    (inlineModule keepUrl tree).patches = [] ↔ (inlineModule keepUrl tree).tree = tree := by
  have hpatches : (inlineModule keepUrl tree).patches = [] ↔
      ∀ props ∈ tree.metadata .code, (Metadata.inlineMetadata keepUrl props).patches = [] := by
    rw [inlineModule, List.flatMap_map, List.flatMap_eq_nil_iff]
  rw [hpatches]
  constructor
  · intro h
    exact Node.inline_eq_self keepUrl .code tree fun props hprops =>
      (Metadata.unchanged_iff keepUrl props).1 (h props hprops)
  · intro hsame props hprops
    rw [Node.metadata_eq_sites] at hprops
    obtain ⟨site, hsite, rfl⟩ := List.mem_map.1 hprops
    refine (site_unchanged_iff keepUrl tree hsite).1 ?_
    rw [hsame]

/-- a module that stays as it is has no changed objects -/
theorem changedSites_of_same (h : (inlineModule keepUrl tree).tree = tree) : changedSites keepUrl tree = [] := by
  rw [changedSites, h, List.filter_eq_nil_iff]
  simp

end

section

variable {parser : Parser} {config : Config} {source : String} {mark body : List Char}
  (hsplit : splitMark source.toList = (mark, body))

include hsplit

theorem inlineResources_of_unparsed {error : InlineError}
    (hparse : parseModule config.dialect body parser = .error error) :
    inlineResources config source parser = (.error error, []) := by
  simp only [inlineResources, hsplit, hparse]

variable {tree : Node} (hparse : parseModule config.dialect body parser = .ok tree)

include hparse

theorem inlineResources_of_same (hsame : (inlineModule config.keepUrl tree).tree = tree) :
    inlineResources config source parser =
      (.ok source, (inlineModule config.keepUrl tree).notes.map Event.skipped ++ [.edited 0]) := by
  have hpatches := (module_unchanged_iff config.keepUrl tree).2 hsame
  have hcount := editCount_eq config.keepUrl tree
  rw [changedSites_of_same _ _ hsame, List.length_nil] at hcount
  simp only [inlineResources, hsplit, hparse, hpatches, hcount, List.isEmpty_nil, if_true]

theorem inlineResources_of_changed (hchanged : (inlineModule config.keepUrl tree).tree ≠ tree) :
    inlineResources config source parser =
      (((applyPatches (String.ofList body) basePosition (inlineModule config.keepUrl tree).patches).mapError
          .patch).map (String.ofList mark ++ ·),
        (inlineModule config.keepUrl tree).notes.map Event.skipped ++
          [.edited (changedSites config.keepUrl tree).length]) := by
  have hpatches : (inlineModule config.keepUrl tree).patches ≠ [] :=
    mt (module_unchanged_iff config.keepUrl tree).1 hchanged
  simp only [inlineResources, hsplit, hparse, List.isEmpty_iff, if_neg hpatches, editCount_eq]
  cases applyPatches (String.ofList body) basePosition (inlineModule config.keepUrl tree).patches <;> rfl

end

theorem inlineResources_iff (parser : Parser) (config : Config) (source : String)
    (result : Except InlineError String × List Event) :
    inlineResources config source parser = result ↔ Ending parser config source result := by
  obtain ⟨mark, body, hsplit⟩ : ∃ mark body, splitMark source.toList = (mark, body) := ⟨_, _, rfl⟩
  constructor
  · rintro rfl
    cases hparse : parseModule config.dialect body parser with
    | error error =>
      rw [inlineResources_of_unparsed hsplit hparse]
      exact .unparsed hsplit hparse
    | ok tree =>
      by_cases hsame : (inlineModule config.keepUrl tree).tree = tree
      · rw [inlineResources_of_same hsplit hparse hsame]
        exact .unchanged hsplit hparse hsame
      · rw [inlineResources_of_changed hsplit hparse hsame]
        exact .patched hsplit hparse hsame
  · intro hending
    cases hending with
    | unparsed hsplit hparse => exact inlineResources_of_unparsed hsplit hparse
    | unchanged hsplit hparse hsame => exact inlineResources_of_same hsplit hparse hsame
    | patched hsplit hparse hchanged => exact inlineResources_of_changed hsplit hparse hchanged

/-- **Main result.** There are patches exactly where the tree is changed. An object gets no patch exactly if it stays as
it is; the count of a module is that of the objects that do not; and a module text is handed back without patching
exactly if its tree stays as it is. -/
theorem patches_follow_tree (keepUrl : Bool) :
    (∀ props : List Property, (Metadata.inlineMetadata keepUrl props).patches = [] ↔
      (Metadata.inlineMetadata keepUrl props).result = props) ∧
    (∀ tree : Node, (inlineModule keepUrl tree).editCount = (changedSites keepUrl tree).length ∧
      ((inlineModule keepUrl tree).patches = [] ↔ (inlineModule keepUrl tree).tree = tree)) ∧
    ∀ (parser : Parser) (dialect : Dialect) (source : String) (result : Except InlineError String × List Event),
      inlineResources ⟨keepUrl, dialect⟩ source parser = result ↔ Ending parser ⟨keepUrl, dialect⟩ source result := by
  refine ⟨fun props => ?_, fun tree => ⟨?_, ?_⟩, fun parser dialect source result => ?_⟩
  · exact Metadata.unchanged_iff keepUrl props
  · exact editCount_eq keepUrl tree
  · exact module_unchanged_iff keepUrl tree
  · exact inlineResources_iff parser ⟨keepUrl, dialect⟩ source result

end ResourceInliner
