/-
The edited tree. Editing the metadata of a tree replaces the object literals at its sites and nothing else.

- `Node.replaceAll`: the tree with the nodes at the ends of some routes replaced, one after the other.
- `inline_eq_replaceAll`: the edited tree is the tree with the object literal of each site replaced by its edited form.
- `sites_inline`: the edited tree has its metadata in the same places, edited.
-/
import ResourceInliner.Proofs.Gate.Search

namespace ResourceInliner

namespace Node

/-! ## Replacing nodes -/

/-- the tree with the nodes at the ends of the routes replaced, one after the other -/
def replaceAll (changes : List (Route × Node)) (node : Node) : Node :=
  changes.foldl (fun tree change => modifyAt (fun _ => change.2) change.1 tree) node

theorem replaceAll_cons (change : Route × Node) (rest : List (Route × Node)) (node : Node) :
    replaceAll (change :: rest) node = replaceAll rest (modifyAt (fun _ => change.2) change.1 node) := rfl

theorem replaceAll_append (a b : List (Route × Node)) (node : Node) :
    replaceAll (a ++ b) node = replaceAll b (replaceAll a node) :=
  List.foldl_append

theorem replaceAll_flatMap {α : Type} (f : α → List (Route × Node)) (l : List α) (node : Node) :
    replaceAll (l.flatMap f) node = l.foldl (fun tree a => replaceAll (f a) tree) node := by
  induction l generalizing node with
  | nil => rfl
  | cons a rest ih => rw [List.flatMap_cons, replaceAll_append, ih, List.foldl_cons]

/-- replacements that are all inside one node change that node -/
theorem replaceAll_below (route : Route) (changes : List (Route × Node)) (node : Node) :
    replaceAll (changes.map fun c => (route ++ c.1, c.2)) node = modifyAt (replaceAll changes) route node := by
  induction changes generalizing node with
  | nil => exact (modifyAt_id route node).symm
  | cons change rest ih =>
    rw [List.map_cons, replaceAll_cons, ih, modifyAt_append, modifyAt_modifyAt]
    rfl

theorem modifyAt_child (f : Node → Node) {node child : Node} {before after : List Node}
    (h : node.children = before ++ child :: after) :
    modifyAt f [before.length] node = node.withChildren (before ++ f child :: after) := by
  have hf : modifyAt f [] = f := rfl
  have hmodify : (before ++ child :: after).modify before.length f = before ++ f child :: after := by
    rw [List.modify_eq_take_cons_drop (by simp)]
    simp
  rw [modifyAt, h, hf, hmodify]

/-- replacing a row of children -/
theorem replaceAll_numbered (g : Node → Node) {node : Node} {before nodes after : List Node}
    (h : node.children = before ++ nodes ++ after) :
    replaceAll ((numbered before.length nodes).map fun e => (e.1, g e.2)) node =
      node.withChildren (before ++ nodes.map g ++ after) := by
  induction nodes generalizing node before with
  | nil =>
    have hsame : before ++ List.map g [] ++ after = node.children := by simpa using h.symm
    rw [hsame, withChildren_children]
    rfl
  | cons child rest ih =>
    have hsplit : numbered before.length (child :: rest) =
        ([before.length], child) :: numbered (before ++ [g child]).length rest := by
      rw [List.length_append, List.length_singleton]; rfl
    have hfirst := modifyAt_child (fun _ => g child) (h.trans (List.append_assoc ..))
    have hchildren : (modifyAt (fun _ => g child) [before.length] node).children =
        (before ++ [g child]) ++ rest ++ after := by
      rw [hfirst, children_withChildren _ _ (by rw [h]; simp)]
      simp
    rw [hsplit, List.map_cons, replaceAll_cons, ih hchildren, hfirst,
      withChildren_withChildren _ _ _ (by rw [h]; simp) (by rw [h]; simp)]
    simp

/-- the decorator with other arguments -/
def mapArguments (g : Node → Node) : Node → Node
  | .call span callee args types => .call span callee (args.map g) types
  | node => node

theorem replaceAll_argumentsOf (g : Node → Node) {node decorator : Node} {before after : List Node}
    (h : node.children = before ++ decorator :: after) :
    replaceAll ((argumentsOf before.length decorator).map fun e => (e.1, g e.2)) node =
      node.withChildren (before ++ mapArguments g decorator :: after) := by
  cases decorator with
  | call span callee args types =>
    have hbelow : (argumentsOf before.length (.call span callee args types)).map (fun e => (e.1, g e.2)) =
        ((numbered 1 args).map fun e => (e.1, g e.2)).map fun c => ([before.length] ++ c.1, c.2) := by
      rw [argumentsOf, List.map_map, List.map_map]; rfl
    have hcall : replaceAll ((numbered 1 args).map fun e => (e.1, g e.2)) (.call span callee args types) =
        .call span callee (args.map g) types := by
      have hchildren : (Node.call span callee args types).children = [callee] ++ args ++ types := rfl
      have := replaceAll_numbered g hchildren
      rw [List.length_singleton] at this
      rw [this]
      simp [withChildren]
    rw [hbelow, replaceAll_below, modifyAt_child _ h, hcall]
    rfl
  | _ =>
    rw [mapArguments, ← h, withChildren_children] <;> simp [argumentsOf, replaceAll]

/-- replacing the arguments of the decorators of a class -/
theorem replaceAll_decoratorArguments (g : Node → Node) {node : Node} {before decorators after : List Node}
    (h : node.children = before ++ decorators ++ after) :
    replaceAll ((decoratorArguments before.length decorators).map fun e => (e.1, g e.2)) node =
      node.withChildren (before ++ decorators.map (mapArguments g) ++ after) := by
  induction decorators generalizing node before with
  | nil =>
    have hsame : before ++ List.map (mapArguments g) [] ++ after = node.children := by simpa using h.symm
    rw [hsame, withChildren_children]
    rfl
  | cons decorator rest ih =>
    have hsplit : decoratorArguments before.length (decorator :: rest) =
        argumentsOf before.length decorator ++
          decoratorArguments (before ++ [mapArguments g decorator]).length rest := by
      rw [List.length_append, List.length_singleton]; rfl
    have hcons : node.children = before ++ decorator :: (rest ++ after) := by rw [h]; simp
    have hfirst := replaceAll_argumentsOf g hcons
    have hchildren : (node.withChildren (before ++ mapArguments g decorator :: (rest ++ after))).children =
        (before ++ [mapArguments g decorator]) ++ rest ++ after := by
      rw [children_withChildren _ _ (by rw [h]; simp)]
      simp
    rw [hsplit, List.map_append, replaceAll_append, hfirst, ih hchildren,
      withChildren_withChildren _ _ _ (by rw [h]; simp) (by rw [h]; simp)]
    simp

/-- replacements at routes that part see the node that was there at the start -/
theorem foldl_modifyAt (f : Route × Node → Node → Node) (steps : List (Route × Node)) (node : Node)
    (hat : ∀ e ∈ steps, node.at? e.1 = some e.2) (hparted : steps.Pairwise fun a b => a.1.Before b.1) :
    steps.foldl (fun tree e => modifyAt (f e) e.1 tree) node =
      replaceAll (steps.map fun e => (e.1, f e e.2)) node := by
  induction steps generalizing node with
  | nil => rfl
  | cons e rest ih =>
    obtain ⟨hfirst, hrest⟩ := List.pairwise_cons.1 hparted
    have hnow : modifyAt (f e) e.1 node = modifyAt (fun _ => f e e.2) e.1 node :=
      modifyAt_congr_at (hat e List.mem_cons_self) rfl
    rw [List.foldl_cons, List.map_cons, replaceAll_cons, ← hnow]
    refine ih _ (fun e' he' => ?_) hrest
    have hpart := (hfirst e' he').apart
    rw [at?_modifyAt_of_apart _ hpart.1 hpart.2]
    exact hat e' (List.mem_cons_of_mem e he')

end Node

/-! ## Editing follows the steps -/

theorem handOut_map {α : Type} {children : α → List Node} {put : α → List Node → α} (g : Node → Node) (l : List α) :
    handOut children put l ((l.flatMap children).map g) = l.map fun a => put a ((children a).map g) := by
  induction l with
  | nil => rfl
  | cons a rest ih =>
    have hlength : (children a).length = ((children a).map g).length := (List.length_map g).symm
    rw [List.flatMap_cons, List.map_append, handOut, hlength, List.take_left, List.drop_left, ih, List.map_cons]

section Inline

variable (keepUrl : Bool) (region : Region)

theorem inlineNodes_eq (nodes : List Node) :
    inlineNodes keepUrl region nodes = nodes.map (·.inline keepUrl region) := by
  induction nodes with
  | nil => rfl
  | cons node rest ih => rw [inlineNodes, ih, List.map_cons]

theorem Key.inline_eq (key : Key) (nodes : List Node) :
    key.inline keepUrl region = key.withChildren (key.children.map (·.inline keepUrl region) ++ nodes) := by
  cases key with
  | computed span inner => rfl
  | _ => cases nodes <;> rfl

theorem Item.inline_eq (item : Item) :
    item.inline keepUrl region = item.withChildren (item.children.map (·.inline keepUrl region)) := by
  cases item <;> rfl

theorem Property.inline_eq (prop : Property) :
    prop.inline keepUrl region = prop.withChildren (prop.children.map (·.inline keepUrl region)) := by
  cases prop with
  | keyValue key value =>
    rw [Property.inline, children, List.map_append, withChildren, ← Key.inline_eq]
    have hlength : key.children.length = (key.children.map (·.inline keepUrl region)).length :=
      (List.length_map _).symm
    rw [hlength, List.drop_left]
    rfl
  | method form span key parts =>
    rw [Property.inline, children, List.map_append, withChildren, ← Key.inline_eq, inlineNodes_eq]
    have hlength : key.children.length = (key.children.map (·.inline keepUrl region)).length :=
      (List.length_map _).symm
    rw [hlength, List.drop_left]
  | _ => rfl

theorem inlineItems_eq (items : List Item) :
    inlineItems keepUrl region items =
      handOut Item.children Item.withChildren items ((items.flatMap Item.children).map (·.inline keepUrl region)) := by
  rw [handOut_map]
  induction items with
  | nil => rfl
  | cons item rest ih => rw [inlineItems, ih, Item.inline_eq, List.map_cons]

theorem inlineProps_eq (props : List Property) :
    inlineProps keepUrl region props =
      handOut Property.children Property.withChildren props
        ((props.flatMap Property.children).map (·.inline keepUrl region)) := by
  rw [handOut_map]
  induction props with
  | nil => rfl
  | cons prop rest ih => rw [inlineProps, ih, Property.inline_eq, List.map_cons]

theorem inlineDecorators_eq (decorators : List Node) :
    inlineDecorators keepUrl decorators = decorators.map (Node.mapArguments (·.inline keepUrl .argument)) := by
  induction decorators with
  | nil => rfl
  | cons decorator rest ih =>
    cases decorator with
    | call span callee args types =>
      rw [inlineDecorators, ih, inlineNodes_eq]
      rfl
    | _ => rw [inlineDecorators, ih] <;> simp [Node.mapArguments]

end Inline

namespace Node

/-- is the node a class of which only the decorators are looked at? -/
def isGated (region : Region) : Node → Bool
  | .cls form _ _ _ => region.gates form
  | _ => false

/-- in most nodes the children are edited -/
theorem inline_plain {keepUrl : Bool} {region : Region} {node : Node} (h : node.metadataHere? region = none)
    (hg : node.isGated region = false) :
    node.inline keepUrl region = node.withChildren (node.children.map (·.inline keepUrl region)) := by
  cases node with
  | array span items => rw [inline, inlineItems_eq, withChildren, children]
  | object span props =>
    cases region with
    | argument => simp [metadataHere?] at h
    | code => rw [inline, inlineProps_eq, withChildren, children]
  | call span callee args types => simp [inline, inlineNodes_eq, withChildren, children]
  | cls form span decorators parts =>
    rw [isGated] at hg
    simp [inline, hg, inlineNodes_eq, withChildren, children]
  | other kind span parts => rw [inline, inlineNodes_eq, withChildren, children]
  | _ => rfl

theorem lookInto_plain {region : Region} {node : Node} (hg : node.isGated region = false) :
    node.lookInto region = numbered 0 node.children := by
  cases node with
  | cls form span decorators parts =>
    rw [isGated] at hg
    rw [lookInto, hg, children]
    rfl
  | _ => rfl

theorem inside_plain {region : Region} {node : Node} (hg : node.isGated region = false) :
    node.inside region = region := by
  cases node with
  | cls form span decorators parts =>
    rw [isGated] at hg
    rw [inside, hg]
    rfl
  | _ => rfl

/-- a node that is no metadata itself is edited where the search goes on -/
theorem inline_of_none (keepUrl : Bool) {region : Region} {node : Node} (h : node.metadataHere? region = none) :
    node.inline keepUrl region =
      replaceAll ((node.lookInto region).map fun e => (e.1, e.2.inline keepUrl (node.inside region))) node := by
  cases hg : node.isGated region with
  | false =>
    have hchildren : node.children = [] ++ node.children ++ [] := by simp
    have := replaceAll_numbered (·.inline keepUrl region) hchildren
    rw [List.length_nil] at this
    rw [inline_plain h hg, lookInto_plain hg, inside_plain hg, this]
    simp
  | true =>
    cases node with
    | cls form span decorators parts =>
      rw [isGated] at hg
      have hchildren : (Node.cls form span decorators parts).children = [] ++ decorators ++ parts := rfl
      have := replaceAll_decoratorArguments (·.inline keepUrl .argument) hchildren
      rw [List.length_nil] at this
      rw [lookInto, inside, inline, hg, if_pos rfl, if_pos rfl, if_pos rfl, this, inlineDecorators_eq]
      simp [withChildren]
    | _ => simp [isGated] at hg

end Node

/-! ## The edited tree -/

/-- the site with its properties edited -/
def Site.edited (keepUrl : Bool) (site : Site) : Site :=
  { site with props := (Metadata.inlineMetadata keepUrl site.props).result }

/-- the object literal of a site -/
def Site.object (site : Site) : Node := .object site.span site.props

namespace Node

/-- the edited tree is the tree with the object literal of each site replaced by its edited form -/
theorem inline_eq_replaceAll (keepUrl : Bool) (region : Region) (node : Node) :
    node.inline keepUrl region =
      replaceAll ((node.sites region).map fun site => (site.route, (site.edited keepUrl).object)) node := by
  induction region, node using searchInduction with
  | here region node span props h =>
    obtain ⟨rfl, rfl⟩ := metadata_of_here h
    rw [sites_of_here h]
    rfl
  | step region node h ih =>
    -- what a step replaces is all inside the node of the step
    have hbelow : ∀ e : Route × Node, ∀ tree : Node,
        replaceAll (((e.2.sites (node.inside region)).map (Site.below e.1)).map
          fun site => (site.route, (site.edited keepUrl).object)) tree =
        modifyAt (replaceAll ((e.2.sites (node.inside region)).map
          fun site => (site.route, (site.edited keepUrl).object))) e.1 tree := by
      intro e tree
      rw [← replaceAll_below, List.map_map, List.map_map]
      rfl
    rw [sites_of_none h, inline_of_none keepUrl h, List.map_flatMap, replaceAll_flatMap]
    simp only [hbelow]
    rw [foldl_modifyAt _ _ _ (fun e he => at?_of_mem_lookInto he) (node.lookInto_pairwise region)]
    congr 1
    refine List.map_congr_left fun e he => ?_
    rw [ih e he]

/-- replacing nodes by themselves -/
theorem replaceAll_self (changes : List (Route × Node)) (node : Node)
    (h : ∀ change ∈ changes, node.at? change.1 = some change.2) : replaceAll changes node = node := by
  induction changes with
  | nil => rfl
  | cons change rest ih =>
    have hfirst : modifyAt (fun _ => change.2) change.1 node = modifyAt id change.1 node :=
      modifyAt_congr_at (h change List.mem_cons_self) rfl
    rw [replaceAll_cons, hfirst, modifyAt_id]
    exact ih fun c hc => h c (List.mem_cons_of_mem change hc)

/-- a tree whose metadata the edit leaves alone stays as it is -/
theorem inline_eq_self (keepUrl : Bool) (region : Region) (node : Node)
    (h : ∀ props ∈ node.metadata region, (Metadata.inlineMetadata keepUrl props).result = props) :
    node.inline keepUrl region = node := by
  rw [inline_eq_replaceAll]
  refine replaceAll_self _ _ fun change hchange => ?_
  obtain ⟨site, hsite, rfl⟩ := List.mem_map.1 hchange
  have hprops : site.props ∈ node.metadata region := by
    rw [metadata_eq_sites]
    exact List.mem_map_of_mem hsite
  rw [sites_at region node site hsite, Site.object, Site.edited, h _ hprops]

/-! ## The sites of the edited tree -/

theorem metadataHere?_withChildren {region : Region} {node : Node} (h : node.metadataHere? region = none)
    (nodes : List Node) : (node.withChildren nodes).metadataHere? region = none := by
  cases node <;> cases region <;> simp_all [metadataHere?, withChildren]

theorem isGated_withChildren (region : Region) (node : Node) (nodes : List Node) :
    (node.withChildren nodes).isGated region = node.isGated region := by
  cases node <;> rfl

theorem numbered_map (g : Node → Node) (i : Nat) (nodes : List Node) :
    numbered i (nodes.map g) = (numbered i nodes).map fun e => (e.1, g e.2) := by
  rw [numbered, numbered, List.zipIdx_map, List.map_map, List.map_map]
  rfl

theorem argumentsOf_mapArguments (g : Node → Node) (i : Nat) (decorator : Node) :
    argumentsOf i (mapArguments g decorator) = (argumentsOf i decorator).map fun e => (e.1, g e.2) := by
  cases decorator with
  | call span callee args types =>
    rw [mapArguments, argumentsOf, argumentsOf, numbered_map, List.map_map, List.map_map]
    rfl
  | _ => rfl

theorem decoratorArguments_map (g : Node → Node) (i : Nat) (decorators : List Node) :
    decoratorArguments i (decorators.map (mapArguments g)) =
      (decoratorArguments i decorators).map fun e => (e.1, g e.2) := by
  rw [decoratorArguments, decoratorArguments, List.zipIdx_map, List.flatMap_map, List.map_flatMap]
  refine List.flatMap_congr fun e _ => ?_
  exact argumentsOf_mapArguments g e.2 e.1

/-- the search takes the same steps in the edited tree -/
theorem lookInto_inline (keepUrl : Bool) {region : Region} {node : Node} (h : node.metadataHere? region = none) :
    (node.inline keepUrl region).metadataHere? region = none ∧
      (node.inline keepUrl region).inside region = node.inside region ∧
      (node.inline keepUrl region).lookInto region =
        (node.lookInto region).map fun e => (e.1, e.2.inline keepUrl (node.inside region)) := by
  cases hg : node.isGated region with
  | false =>
    have hnew : (node.inline keepUrl region).isGated region = false := by
      rw [inline_plain h hg, isGated_withChildren, hg]
    refine ⟨?_, ?_, ?_⟩
    · rw [inline_plain h hg]
      exact metadataHere?_withChildren h _
    · rw [inside_plain hg, inside_plain hnew]
    · rw [lookInto_plain hnew, inline_plain h hg, children_withChildren _ _ (List.length_map _), lookInto_plain hg,
        inside_plain hg, numbered_map]
  | true =>
    cases node with
    | cls form span decorators parts =>
      rw [isGated] at hg
      rw [inline, if_pos hg, inlineDecorators_eq]
      refine ⟨?_, ?_, ?_⟩
      · cases region <;> rfl
      · rw [inside, inside]
      · rw [lookInto, lookInto, inside, if_pos hg, if_pos hg, if_pos hg, decoratorArguments_map]
    | _ => simp [isGated] at hg

/-- the edited tree has its metadata at the same sites, edited -/
theorem sites_inline (keepUrl : Bool) (region : Region) (node : Node) :
    (node.inline keepUrl region).sites region = (node.sites region).map (Site.edited keepUrl) := by
  induction region, node using searchInduction with
  | here region node span props h =>
    obtain ⟨rfl, rfl⟩ := metadata_of_here h
    have hnew : ((Node.object span props).inline keepUrl .argument).metadataHere? .argument =
        some (span, (Metadata.inlineMetadata keepUrl props).result) := rfl
    rw [sites_of_here h, sites_of_here hnew]
    rfl
  | step region node h ih =>
    obtain ⟨hnone, hinside, hsteps⟩ := lookInto_inline keepUrl h
    rw [sites_of_none h, sites_of_none hnone, hinside, hsteps, List.flatMap_map, List.map_flatMap]
    refine List.flatMap_congr fun e he => ?_
    rw [ih e he, List.map_map, List.map_map]
    rfl

/-- where a site was, its edited form stands in the edited tree -/
theorem at?_inline_site (keepUrl : Bool) {region : Region} {node : Node} {site : Site} (h : site ∈ node.sites region) :
    (node.inline keepUrl region).at? site.route = some (site.edited keepUrl).object := by
  have hedited : site.edited keepUrl ∈ (node.inline keepUrl region).sites region := by
    rw [sites_inline]
    exact List.mem_map_of_mem h
  exact sites_at region _ _ hedited

/-- a second search finds what the first edit made of what the first search found -/
theorem metadata_inline (keepUrl : Bool) (region : Region) (node : Node) :
    (node.inline keepUrl region).metadata region =
      (node.metadata region).map fun props => (Metadata.inlineMetadata keepUrl props).result := by
  rw [metadata_eq_sites, sites_inline, metadata_eq_sites, List.map_map, List.map_map]
  rfl

end Node

end ResourceInliner
