/-
The search for metadata, one node at a time. `Node.lookInto` says where the search goes from a node and `Node.inside`
in what region it goes on; `metadata_of_none` and `inline_of_none` say that finding and editing metadata follow it.

- `Site`: an object literal and the route to it. `Node.sites`: the metadata of a node with the routes to it.
- `metadata_eq_sites`: the sites are what the search finds. `sites_at`: their routes lead to them.
- `sites_pairwise`: they come in the order of the tree, and none is inside another one.
-/
import ResourceInliner.Gate
import ResourceInliner.Proofs.Tree.Route

namespace ResourceInliner

/-! ## One step of the search -/

/-- children with the routes to them, from place `i` on -/
def numbered (i : Nat) (nodes : List Node) : List (Route × Node) :=
  (nodes.zipIdx i).map fun (node, j) => ([j], node)

/-- the arguments of a call that is decorator `i` of a class, with the routes to them from the class -/
def argumentsOf (i : Nat) : Node → List (Route × Node)
  | .call _ _ args _ => (numbered 1 args).map fun (route, arg) => (i :: route, arg)
  | _ => []

/-- the arguments of those decorators that are calls -/
def decoratorArguments (i : Nat) (decorators : List Node) : List (Route × Node) :=
  (decorators.zipIdx i).flatMap fun (decorator, j) => argumentsOf j decorator

namespace Node

/-- the object literal that the node is, if it is metadata -/
def metadataHere? : Region → Node → Option (Span × List Property)
  | .argument, .object span props => some (span, props)
  | _, _ => none

/-- the nodes that the search goes on with, with the routes to them -/
def lookInto (region : Region) : Node → List (Route × Node)
  | .cls form _ decorators parts =>
    if region.gates form then decoratorArguments 0 decorators else numbered 0 (decorators ++ parts)
  | node => numbered 0 node.children

/-- the region of what the search goes on with -/
def inside (region : Region) : Node → Region
  | .cls form _ _ _ => if region.gates form then .argument else region
  | _ => region

end Node

theorem mem_numbered {i : Nat} {nodes : List Node} {e : Route × Node} :
    e ∈ numbered i nodes ↔ ∃ j, nodes[j]? = some e.2 ∧ e.1 = [i + j] := by
  obtain ⟨route, node⟩ := e
  simp only [numbered, List.mem_map, Prod.exists, Prod.mk.injEq]
  constructor
  · rintro ⟨a, k, hk, rfl, rfl⟩
    obtain ⟨hik, ha⟩ := List.mk_mem_zipIdx_iff_le_and_getElem?_sub.1 hk
    exact ⟨k - i, ha, by simp; omega⟩
  · rintro ⟨j, hj, rfl⟩
    exact ⟨node, i + j, List.mk_add_mem_zipIdx_iff_getElem?.2 hj, rfl, rfl⟩

theorem mem_decoratorArguments {i : Nat} {decorators : List Node} {e : Route × Node} :
    e ∈ decoratorArguments i decorators ↔ ∃ j k span callee args types,
      decorators[j]? = some (.call span callee args types) ∧ args[k]? = some e.2 ∧ e.1 = [i + j, k + 1] := by
  simp only [decoratorArguments, List.mem_flatMap, Prod.exists]
  constructor
  · rintro ⟨decorator, j, hj, he⟩
    obtain ⟨hij, hdecorator⟩ := List.mk_mem_zipIdx_iff_le_and_getElem?_sub.1 hj
    cases decorator with
    | call span callee args types =>
      obtain ⟨a, ha, rfl⟩ := List.mem_map.1 he
      obtain ⟨k, hk, hroute⟩ := mem_numbered.1 ha
      refine ⟨j - i, k, span, callee, args, types, hdecorator, hk, ?_⟩
      simp only [hroute, List.cons.injEq, and_true]
      omega
    | _ => simp [argumentsOf] at he
  · rintro ⟨j, k, span, callee, args, types, hdecorator, hk, hroute⟩
    refine ⟨_, i + j, List.mk_add_mem_zipIdx_iff_getElem?.2 hdecorator, ?_⟩
    refine List.mem_map.2 ⟨([1 + k], e.2), mem_numbered.2 ⟨k, hk, rfl⟩, Prod.ext ?_ rfl⟩
    rw [hroute, Nat.add_comm 1 k]

namespace Node

/-! ## What one step looks like -/

/-- the node of a step is at the end of its route -/
theorem at?_of_mem_lookInto {region : Region} {node : Node} {e : Route × Node} (h : e ∈ node.lookInto region) :
    node.at? e.1 = some e.2 := by
  have plain : e ∈ numbered 0 node.children → node.at? e.1 = some e.2 := by
    intro he
    obtain ⟨j, hj, hroute⟩ := mem_numbered.1 he
    rw [hroute, Nat.zero_add, at?_cons hj, at?_nil]
  cases node with
  | cls form span decorators parts =>
    rw [lookInto] at h
    split at h
    · obtain ⟨j, k, span', callee, args, types, hj, hk, hroute⟩ := mem_decoratorArguments.1 h
      have hdecorator : (Node.cls form span decorators parts).children[j]? = some (.call span' callee args types) := by
        rw [children, List.getElem?_append_left (List.getElem?_eq_some_iff.1 hj).1, hj]
      have hargument : (Node.call span' callee args types).children[k + 1]? = some e.2 := by
        rw [children, List.getElem?_cons_succ, List.getElem?_append_left (List.getElem?_eq_some_iff.1 hk).1, hk]
      rw [hroute, Nat.zero_add, at?_cons hdecorator, at?_cons hargument, at?_nil]
    · exact plain h
  | _ => exact plain h

theorem sizeOf_le_of_at? {node target : Node} {route : Route} (h : node.at? route = some target) :
    sizeOf target ≤ sizeOf node := by
  induction route generalizing node with
  | nil =>
    rw [at?_nil, Option.some.injEq] at h
    exact Nat.le_of_eq (by rw [h])
  | cons i route ih =>
    obtain ⟨child, hchild, htarget⟩ := at?_cons_eq_some h
    have := sizeOf_lt (List.mem_of_getElem? hchild)
    have := ih htarget
    omega

theorem lookInto_route_ne_nil {region : Region} {node : Node} {e : Route × Node} (h : e ∈ node.lookInto region) :
    e.1 ≠ [] := by
  have plain (nodes : List Node) : e ∈ numbered 0 nodes → e.1 ≠ [] := by
    intro he
    obtain ⟨j, -, hroute⟩ := mem_numbered.1 he
    simp [hroute]
  cases node with
  | cls form span decorators parts =>
    rw [lookInto] at h
    split at h
    · obtain ⟨j, k, _, _, _, _, _, _, hroute⟩ := mem_decoratorArguments.1 h
      simp [hroute]
    · exact plain _ h
  | _ => exact plain _ h

/-- the search goes on with smaller nodes -/
theorem sizeOf_lt_of_mem_lookInto {region : Region} {node : Node} {e : Route × Node}
    (h : e ∈ node.lookInto region) : sizeOf e.2 < sizeOf node := by
  have hat := at?_of_mem_lookInto h
  cases hroute : e.1 with
  | nil => exact absurd hroute (lookInto_route_ne_nil h)
  | cons i route =>
    rw [hroute] at hat
    obtain ⟨child, hchild, htarget⟩ := at?_cons_eq_some hat
    have := sizeOf_lt (List.mem_of_getElem? hchild)
    have := sizeOf_le_of_at? htarget
    omega

end Node

theorem numbered_pairwise (i : Nat) (nodes : List Node) :
    (numbered i nodes).Pairwise fun a b => a.1.Before b.1 := by
  induction nodes generalizing i with
  | nil => exact .nil
  | cons node rest ih =>
    refine List.Pairwise.cons (fun e he => ?_) (ih (i + 1))
    obtain ⟨j, -, hroute⟩ := mem_numbered.1 he
    rw [hroute]
    exact .of_lt (by omega) [] []

theorem decoratorArguments_pairwise (i : Nat) (decorators : List Node) :
    (decoratorArguments i decorators).Pairwise fun a b => a.1.Before b.1 := by
  induction decorators generalizing i with
  | nil => exact .nil
  | cons decorator rest ih =>
    have hsplit : decoratorArguments i (decorator :: rest) =
        argumentsOf i decorator ++ decoratorArguments (i + 1) rest := rfl
    rw [hsplit, List.pairwise_append]
    refine ⟨?_, ih (i + 1), fun a ha b hb => ?_⟩
    · cases decorator with
      | call span callee args types =>
        rw [argumentsOf, List.pairwise_map]
        exact (numbered_pairwise 1 args).imp fun h => h.append_left [i]
      | _ => exact .nil
    · obtain ⟨j, k, _, _, _, _, _, _, hb⟩ := mem_decoratorArguments.1 hb
      cases decorator with
      | call span callee args types =>
        obtain ⟨e, -, rfl⟩ := List.mem_map.1 ha
        rw [hb]
        exact .of_lt (by omega) _ _
      | _ => simp [argumentsOf] at ha

/-- the steps come in the order of the tree -/
theorem Node.lookInto_pairwise (region : Region) (node : Node) :
    (node.lookInto region).Pairwise fun a b => a.1.Before b.1 := by
  cases node with
  | cls form span decorators parts =>
    rw [lookInto]
    split
    · exact decoratorArguments_pairwise 0 decorators
    · exact numbered_pairwise 0 _
  | _ => exact numbered_pairwise 0 _

/-! ## The search follows the steps -/

theorem nodesMetadata_eq (region : Region) (nodes : List Node) :
    nodesMetadata region nodes = nodes.flatMap (·.metadata region) := by
  induction nodes with
  | nil => rfl
  | cons node rest ih => rw [nodesMetadata, ih, List.flatMap_cons]

theorem Key.metadata_eq (region : Region) (key : Key) :
    key.metadata region = key.children.flatMap (·.metadata region) := by
  cases key <;> simp [Key.metadata, Key.children]

theorem Item.metadata_eq (region : Region) (item : Item) :
    item.metadata region = item.children.flatMap (·.metadata region) := by
  cases item <;> simp [Item.metadata, Item.children]

theorem Property.metadata_eq (region : Region) (prop : Property) :
    prop.metadata region = prop.children.flatMap (·.metadata region) := by
  cases prop <;> simp [Property.metadata, Property.children, Key.metadata_eq, nodesMetadata_eq]

theorem itemsMetadata_eq (region : Region) (items : List Item) :
    itemsMetadata region items = (items.flatMap Item.children).flatMap (·.metadata region) := by
  induction items with
  | nil => rfl
  | cons item rest ih => rw [itemsMetadata, ih, Item.metadata_eq, List.flatMap_cons, List.flatMap_append]

theorem propsMetadata_eq (region : Region) (props : List Property) :
    propsMetadata region props = (props.flatMap Property.children).flatMap (·.metadata region) := by
  induction props with
  | nil => rfl
  | cons prop rest ih => rw [propsMetadata, ih, Property.metadata_eq, List.flatMap_cons, List.flatMap_append]

theorem flatMap_numbered {α : Type} (f : Node → List α) (i : Nat) (nodes : List Node) :
    (numbered i nodes).flatMap (fun e => f e.2) = nodes.flatMap f := by
  induction nodes generalizing i with
  | nil => rfl
  | cons node rest ih =>
    have hsplit : numbered i (node :: rest) = ([i], node) :: numbered (i + 1) rest := rfl
    rw [hsplit, List.flatMap_cons, List.flatMap_cons, ih]

theorem decoratorsMetadata_eq (i : Nat) (decorators : List Node) :
    decoratorsMetadata decorators =
      (decoratorArguments i decorators).flatMap fun e => e.2.metadata .argument := by
  induction decorators generalizing i with
  | nil => rfl
  | cons decorator rest ih =>
    have hsplit : decoratorArguments i (decorator :: rest) =
        argumentsOf i decorator ++ decoratorArguments (i + 1) rest := rfl
    rw [hsplit, List.flatMap_append, ← ih]
    cases decorator with
    | call span callee args types =>
      rw [decoratorsMetadata, nodesMetadata_eq, argumentsOf, List.flatMap_map,
        flatMap_numbered (fun arg => arg.metadata .argument)]
    | _ => rfl

namespace Node

/-- a node that is no metadata itself has the metadata that the search goes on to -/
theorem metadata_of_none {region : Region} {node : Node} (h : node.metadataHere? region = none) :
    node.metadata region = (node.lookInto region).flatMap fun e => e.2.metadata (node.inside region) := by
  cases node with
  | object span props =>
    cases region with
    | argument => simp [metadataHere?] at h
    | code =>
      show propsMetadata .code props =
        (numbered 0 (props.flatMap Property.children)).flatMap fun e => e.2.metadata .code
      rw [propsMetadata_eq, flatMap_numbered (·.metadata .code)]
  | array span items =>
    show itemsMetadata region items = (numbered 0 (items.flatMap Item.children)).flatMap fun e => e.2.metadata region
    rw [itemsMetadata_eq, flatMap_numbered (·.metadata region)]
  | call span callee args types =>
    show callee.metadata region ++ nodesMetadata region args ++ nodesMetadata region types =
      (numbered 0 (callee :: (args ++ types))).flatMap fun e => e.2.metadata region
    rw [nodesMetadata_eq, nodesMetadata_eq, flatMap_numbered (·.metadata region), List.flatMap_cons,
      List.flatMap_append, List.append_assoc]
  | cls form span decorators parts =>
    rw [metadata, lookInto, inside]
    split
    · rw [decoratorsMetadata_eq 0]
    · rw [nodesMetadata_eq, nodesMetadata_eq, flatMap_numbered (·.metadata region), List.flatMap_append]
  | other kind span parts =>
    show nodesMetadata region parts = (numbered 0 parts).flatMap fun e => e.2.metadata region
    rw [nodesMetadata_eq, flatMap_numbered (·.metadata region)]
  | _ => rfl

theorem metadata_of_here {region : Region} {node : Node} {span : Span} {props : List Property}
    (h : node.metadataHere? region = some (span, props)) :
    node = .object span props ∧ region = .argument := by
  cases node <;> cases region <;> simp_all [metadataHere?]

end Node

/-! ## Sites -/

/-- an object literal and the route to it -/
structure Site where
  route : Route
  span : Span
  props : List Property

/-- the site seen from a node further up -/
def Site.below (route : Route) (site : Site) : Site :=
  { site with route := route ++ site.route }

namespace Node

/-- the metadata in a node, with the routes to it -/
def sites (region : Region) (node : Node) : List Site :=
  match node.metadataHere? region with
  | some (span, props) => [⟨[], span, props⟩]
  | none =>
    (node.lookInto region).attach.flatMap fun ⟨e, _⟩ => (e.2.sites (node.inside region)).map (Site.below e.1)
termination_by sizeOf node
decreasing_by
  rename_i h
  exact sizeOf_lt_of_mem_lookInto h

theorem sites_of_here {region : Region} {node : Node} {span : Span} {props : List Property}
    (h : node.metadataHere? region = some (span, props)) : node.sites region = [⟨[], span, props⟩] := by
  rw [sites, h]

theorem sites_of_none {region : Region} {node : Node} (h : node.metadataHere? region = none) :
    node.sites region =
      (node.lookInto region).flatMap fun e => (e.2.sites (node.inside region)).map (Site.below e.1) := by
  rw [sites, h]
  simp only [List.flatMap_subtype, List.unattach_attach]

/-- an induction along the steps of the search -/
theorem searchInduction {motive : Region → Node → Prop}
    (here : ∀ region node span props, node.metadataHere? region = some (span, props) → motive region node)
    (step : ∀ region node, node.metadataHere? region = none →
      (∀ e ∈ node.lookInto region, motive (node.inside region) e.2) → motive region node)
    (region : Region) (node : Node) : motive region node := by
  cases h : node.metadataHere? region with
  | some found => exact here region node found.1 found.2 h
  | none => exact step region node h fun e he => searchInduction here step (node.inside region) e.2
termination_by sizeOf node
decreasing_by exact sizeOf_lt_of_mem_lookInto he

/-- the sites are what the search finds, in the order in which it finds it -/
theorem metadata_eq_sites (region : Region) (node : Node) :
    node.metadata region = (node.sites region).map (·.props) := by
  induction region, node using searchInduction with
  | here region node span props h =>
    obtain ⟨rfl, rfl⟩ := metadata_of_here h
    rw [sites_of_here h]
    rfl
  | step region node h ih =>
    rw [metadata_of_none h, sites_of_none h, List.map_flatMap]
    refine List.flatMap_congr fun e he => ?_
    rw [ih e he, List.map_map]
    rfl

/-- the route of a site leads to its object literal -/
theorem sites_at (region : Region) (node : Node) :
    ∀ site ∈ node.sites region, node.at? site.route = some (.object site.span site.props) := by
  induction region, node using searchInduction with
  | here region node span props h =>
    obtain ⟨rfl, rfl⟩ := metadata_of_here h
    rw [sites_of_here h]
    intro site hsite
    rw [List.mem_singleton.1 hsite, at?_nil]
  | step region node h ih =>
    rw [sites_of_none h]
    intro site hsite
    obtain ⟨e, he, hsite⟩ := List.mem_flatMap.1 hsite
    obtain ⟨below, hbelow, rfl⟩ := List.mem_map.1 hsite
    rw [Site.below, at?_append (at?_of_mem_lookInto he)]
    exact ih e he below hbelow

/-- the sites come in the order of the tree, and none is inside another one -/
theorem sites_pairwise (region : Region) (node : Node) :
    (node.sites region).Pairwise fun a b => a.route.Before b.route := by
  induction region, node using searchInduction with
  | here region node span props h =>
    rw [sites_of_here h]
    exact List.pairwise_singleton _ _
  | step region node h ih =>
    rw [sites_of_none h, List.pairwise_flatMap]
    constructor
    · intro e he
      rw [List.pairwise_map]
      exact (ih e he).imp fun hab => hab.append_left e.1
    · refine (node.lookInto_pairwise region).imp fun hab a ha b hb => ?_
      obtain ⟨a, -, rfl⟩ := List.mem_map.1 ha
      obtain ⟨b, -, rfl⟩ := List.mem_map.1 hb
      exact hab.append_right a.route b.route

end Node

end ResourceInliner
