/-
What is metadata, said without the search: `Gated` spells out the routes from a tree to its metadata. `gate_exact` says
that the edit of a module reaches exactly the object literals on such routes, each once and in the order of the tree,
and leaves everything else as it is.
-/
import ResourceInliner.Proofs.Gate.Replace

namespace ResourceInliner

namespace Node

/-! ## Routes to metadata -/

def IsObject : Node → Prop
  | .object _ _ => True
  | _ => False

def IsClass : Node → Prop
  | .cls _ _ _ _ => True
  | _ => False

/-- a class declaration, or a class that is the default export -/
def IsGate : Node → Prop
  | .cls .declaration _ _ _ | .cls .defaultExport _ _ _ => True
  | _ => False

end Node

/-- a route down through nodes of one kind; the node it ends at may be of any kind -/
inductive Descends (passes : Node → Prop) : Node → Route → Node → Prop
  | here (node : Node) : Descends passes node [] node
  | into {node child target : Node} {i : Nat} {route : Route} (hpass : passes node)
      (hchild : node.children[i]? = some child) (hroute : Descends passes child route target) :
      Descends passes node (i :: route) target

/-- the route from a class to an argument of a call that is one of its decorators -/
inductive DecoratorArgument : Node → Route → Node → Prop
  | intro {form : ClassForm} {span call : Span} {decorators parts args types : List Node} {callee argument : Node}
      {i j : Nat} (hdecorator : decorators[i]? = some (.call call callee args types))
      (hargument : args[j]? = some argument) :
      DecoratorArgument (.cls form span decorators parts) [i, j + 1] argument

/-- the route from an argument of a decorator to an object literal: down through nodes that are neither object literals
nor classes, and across classes by the arguments of their own decorators -/
inductive InArgument : Node → Route → Node → Prop
  | object {argument : Node} {route : Route} {span : Span} {props : List Property}
      (hdown : Descends (fun node => ¬ node.IsObject ∧ ¬ node.IsClass) argument route (.object span props)) :
      InArgument argument route (.object span props)
  | across {argument cls inner target : Node} {down across rest : Route}
      (hdown : Descends (fun node => ¬ node.IsObject ∧ ¬ node.IsClass) argument down cls)
      (hacross : DecoratorArgument cls across inner) (hrest : InArgument inner rest target) :
      InArgument argument (down ++ across ++ rest) target

/-- the route from code to an object literal: down to the first class that is a declaration or the default export, on to
an argument of one of its decorators that is a call, and in there to the literal -/
inductive InCode : Node → Route → Node → Prop
  | intro {tree cls argument target : Node} {down across rest : Route}
      (hdown : Descends (fun node => ¬ node.IsGate) tree down cls) (hgate : cls.IsGate)
      (hacross : DecoratorArgument cls across argument) (hrest : InArgument argument rest target) :
      InCode tree (down ++ across ++ rest) target

/-- the object literal at the site is metadata of the tree -/
def Gated (tree : Node) (site : Site) : Prop := InCode tree site.route site.object

/-- the route leads from a node in the region to an object literal that is metadata -/
def Region.Leads : Region → Node → Route → Node → Prop
  | .code => InCode
  | .argument => InArgument

/-! ## Routes and the steps of the search -/

namespace Node

theorem isGated_code {node : Node} : node.isGated .code = true ↔ node.IsGate := by
  cases node with
  | cls form span decorators parts => cases form <;> simp [isGated, IsGate, Region.gates]
  | _ => simp [isGated, IsGate]

theorem isGated_argument {node : Node} : node.isGated .argument = true ↔ node.IsClass := by
  cases node <;> simp [isGated, IsClass, Region.gates]

theorem metadataHere?_argument {node : Node} : node.metadataHere? .argument = none ↔ ¬ node.IsObject := by
  cases node <;> simp [metadataHere?, IsObject]

theorem metadataHere?_code (node : Node) : node.metadataHere? .code = none := rfl

theorem mem_lookInto_plain {region : Region} {node : Node} (hg : node.isGated region = false) {e : Route × Node} :
    e ∈ node.lookInto region ↔ ∃ i, node.children[i]? = some e.2 ∧ e.1 = [i] := by
  rw [lookInto_plain hg, mem_numbered]
  simp

theorem mem_lookInto_gated {region : Region} {node : Node} (hg : node.isGated region = true) {e : Route × Node} :
    e ∈ node.lookInto region ↔ DecoratorArgument node e.1 e.2 := by
  obtain ⟨route, inner⟩ := e
  cases node with
  | cls form span decorators parts =>
    rw [isGated] at hg
    rw [lookInto, if_pos hg, mem_decoratorArguments]
    constructor
    · rintro ⟨i, j, call, callee, args, types, hdecorator, hargument, hroute⟩
      rw [Nat.zero_add] at hroute
      subst hroute
      exact .intro hdecorator hargument
    · rintro ⟨hdecorator, hargument⟩
      exact ⟨_, _, _, _, _, _, hdecorator, hargument, by simp⟩
  | _ => simp [isGated] at hg

theorem inside_gated {region : Region} {node : Node} (hg : node.isGated region = true) :
    node.inside region = .argument := by
  cases node with
  | cls form span decorators parts =>
    rw [isGated] at hg
    rw [inside, if_pos hg]
  | _ => simp [isGated] at hg

/-- a route from where the search goes on is a route from the node -/
theorem leads_of_step {region : Region} {node target : Node} (h : node.metadataHere? region = none)
    {e : Route × Node} (he : e ∈ node.lookInto region) {route : Route}
    (hroute : (node.inside region).Leads e.2 route target) : region.Leads node (e.1 ++ route) target := by
  cases hg : node.isGated region with
  | false =>
    obtain ⟨i, hchild, hi⟩ := (mem_lookInto_plain hg).1 he
    rw [inside_plain hg] at hroute
    rw [hi]
    cases region with
    | code =>
      have hpass : ¬ node.IsGate := by rw [← isGated_code, hg]; simp
      obtain ⟨hdown, hgate, hacross, hrest⟩ := hroute
      exact .intro (.into hpass hchild hdown) hgate hacross hrest
    | argument =>
      have hpass : ¬ node.IsObject ∧ ¬ node.IsClass :=
        ⟨metadataHere?_argument.1 h, by rw [← isGated_argument, hg]; simp⟩
      cases hroute with
      | object hdown => exact .object (.into hpass hchild hdown)
      | across hdown hacross hrest => exact .across (.into hpass hchild hdown) hacross hrest
  | true =>
    have hacross := (mem_lookInto_gated hg).1 he
    rw [inside_gated hg] at hroute
    cases region with
    | code => exact .intro (.here node) (isGated_code.1 hg) hacross hroute
    | argument => exact .across (.here node) hacross hroute

theorem inArgument_step {node : Node} {route : Route} {span : Span} {props : List Property}
    (h : InArgument node route (.object span props)) :
    (route = [] ∧ node = .object span props) ∨
      (node.metadataHere? .argument = none ∧ ∃ e ∈ node.lookInto .argument, ∃ rest, route = e.1 ++ rest ∧
        (node.inside .argument).Leads e.2 rest (.object span props)) := by
  -- below a node that may be passed, the route goes on from one of its children
  have plain {child : Node} {i : Nat} {rest : Route} (hpass : ¬ node.IsObject ∧ ¬ node.IsClass)
      (hchild : node.children[i]? = some child) (hrest : InArgument child rest (.object span props)) :
      node.metadataHere? .argument = none ∧ ∃ e ∈ node.lookInto .argument, ∃ r, i :: rest = e.1 ++ r ∧
        (node.inside .argument).Leads e.2 r (.object span props) := by
    have hg : node.isGated .argument = false := by
      rw [Bool.eq_false_iff, ne_eq, isGated_argument]
      exact hpass.2
    refine ⟨metadataHere?_argument.2 hpass.1, ([i], child), (mem_lookInto_plain hg).2 ⟨i, hchild, rfl⟩, rest, rfl, ?_⟩
    rw [inside_plain hg]
    exact hrest
  cases h with
  | object hdown =>
    cases hdown with
    | here => exact Or.inl ⟨rfl, rfl⟩
    | into hpass hchild hroute => exact Or.inr (plain hpass hchild (.object hroute))
  | across hdown hacross hrest =>
    right
    cases hdown with
    | here =>
      have hg : node.isGated .argument = true := by
        cases hacross
        rfl
      refine ⟨?_, (_, _), (mem_lookInto_gated hg).2 hacross, _, rfl, ?_⟩
      · cases hacross
        rfl
      · rw [inside_gated hg]
        exact hrest
    | into hpass hchild hroute => exact plain hpass hchild (.across hroute hacross hrest)

theorem inCode_step {node target : Node} {route : Route} (h : InCode node route target) :
    ∃ e ∈ node.lookInto .code, ∃ rest, route = e.1 ++ rest ∧ (node.inside .code).Leads e.2 rest target := by
  obtain ⟨hdown, hgate, hacross, hrest⟩ := h
  cases hdown with
  | here =>
    have hg := isGated_code.2 hgate
    refine ⟨(_, _), (mem_lookInto_gated hg).2 hacross, _, rfl, ?_⟩
    rw [inside_gated hg]
    exact hrest
  | into hpass hchild hroute =>
    have hg : node.isGated .code = false := by
      rw [Bool.eq_false_iff, ne_eq, isGated_code]
      exact hpass
    refine ⟨(_, _), (mem_lookInto_plain hg).2 ⟨_, hchild, rfl⟩, _, rfl, ?_⟩
    rw [inside_plain hg]
    exact .intro hroute hgate hacross hrest

/-- a route to metadata ends at the node, or goes where the search goes on -/
theorem leads_step {region : Region} {node : Node} {route : Route} {span : Span} {props : List Property}
    (h : region.Leads node route (.object span props)) :
    (route = [] ∧ node.metadataHere? region = some (span, props)) ∨
      (node.metadataHere? region = none ∧ ∃ e ∈ node.lookInto region, ∃ rest, route = e.1 ++ rest ∧
        (node.inside region).Leads e.2 rest (.object span props)) := by
  cases region with
  | code => exact Or.inr ⟨metadataHere?_code node, inCode_step h⟩
  | argument =>
    refine (inArgument_step h).imp_left fun hhere => ?_
    obtain ⟨rfl, rfl⟩ := hhere
    exact ⟨rfl, rfl⟩

/-- the sites of a node are the ends of the routes that lead to metadata -/
theorem mem_sites (region : Region) (node : Node) :
    ∀ site, site ∈ node.sites region ↔ region.Leads node site.route site.object := by
  induction region, node using searchInduction with
  | here region node span props h =>
    intro site
    rw [sites_of_here h, List.mem_singleton]
    constructor
    · rintro rfl
      obtain ⟨rfl, rfl⟩ := metadata_of_here h
      exact .object (.here _)
    · intro hroute
      rcases leads_step hroute with ⟨hnil, hhere⟩ | ⟨hnone, -⟩
      · rw [h, Option.some.injEq, Prod.mk.injEq] at hhere
        obtain ⟨route, span', props'⟩ := site
        simp only at hnil hhere
        rw [hnil, hhere.1, hhere.2]
      · rw [hnone] at h
        cases h
  | step region node h ih =>
    intro site
    rw [sites_of_none h, List.mem_flatMap]
    constructor
    · rintro ⟨e, he, hsite⟩
      obtain ⟨below, hbelow, rfl⟩ := List.mem_map.1 hsite
      exact leads_of_step h he ((ih e he below).1 hbelow)
    · intro hroute
      rcases leads_step hroute with ⟨-, hhere⟩ | ⟨-, e, he, rest, hsplit, hrest⟩
      · rw [hhere] at h
        cases h
      · refine ⟨e, he, List.mem_map.2 ⟨{ site with route := rest }, (ih e he _).2 hrest, ?_⟩⟩
        rw [Site.below, ← hsplit]

end Node

/-! ## Main result -/

theorem at?_replaceAll_of_apart (changes : List (Route × Node)) (route : Route)
    (h : ∀ change ∈ changes, ¬ change.1 <+: route ∧ ¬ route <+: change.1) (tree : Node) :
    (tree.replaceAll changes).at? route = tree.at? route := by
  induction changes generalizing tree with
  | nil => rfl
  | cons change rest ih =>
    obtain ⟨hto, hthrough⟩ := h change List.mem_cons_self
    rw [Node.replaceAll_cons, ih (fun c hc => h c (List.mem_cons_of_mem change hc)),
      Node.at?_modifyAt_of_apart _ hto hthrough]

/-- **The gate is exact.** The sites of a module are the object literals that a route through decorators leads to, each
once and in the order of the tree. The edit of the module edits the properties of these and of no others: its tree is
the module with exactly these literals replaced, each by its edited form; what is neither inside nor around one of them
stays as it is; its patches, notes and count are those of these edits. -/
theorem gate_exact (keepUrl : Bool) (tree : Node) :
    let sites := tree.sites .code
    let edits := sites.map fun site => Metadata.inlineMetadata keepUrl site.props
    let inlined := inlineModule keepUrl tree
    (∀ site, site ∈ sites ↔ Gated tree site) ∧
    sites.Pairwise (fun a b => a.route.Before b.route) ∧
    (∀ site ∈ sites, tree.at? site.route = some site.object ∧
      inlined.tree.at? site.route = some (site.edited keepUrl).object) ∧
    tree.metadata .code = sites.map (·.props) ∧
    inlined.tree = tree.replaceAll (sites.map fun site => (site.route, (site.edited keepUrl).object)) ∧
    (∀ route, (∀ site ∈ sites, ¬ site.route <+: route ∧ ¬ route <+: site.route) →
      inlined.tree.at? route = tree.at? route) ∧
    inlined.patches = edits.flatMap (·.patches) ∧ inlined.notes = edits.flatMap (·.notes) ∧
    inlined.editCount = (edits.filter fun edit => !edit.patches.isEmpty).length := by
  have hedits : (tree.metadata .code).map (Metadata.inlineMetadata keepUrl) =
      (tree.sites .code).map fun site => Metadata.inlineMetadata keepUrl site.props := by
    rw [Node.metadata_eq_sites, List.map_map]
    rfl
  have htree := Node.inline_eq_replaceAll keepUrl .code tree
  refine ⟨Node.mem_sites .code tree, Node.sites_pairwise .code tree, fun site hsite => ⟨?_, ?_⟩,
    Node.metadata_eq_sites .code tree, htree, fun route hroute => ?_, ?_, ?_, ?_⟩
  · exact Node.sites_at .code tree site hsite
  · exact Node.at?_inline_site keepUrl hsite
  · show (tree.inline keepUrl .code).at? route = tree.at? route
    rw [htree]
    refine at?_replaceAll_of_apart _ route (fun change hchange => ?_) tree
    obtain ⟨site, hsite, rfl⟩ := List.mem_map.1 hchange
    exact hroute site hsite
  · simp only [inlineModule, hedits]
  · simp only [inlineModule, hedits]
  · simp only [inlineModule, hedits]

end ResourceInliner
