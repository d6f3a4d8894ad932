/-
How the properties of an edited object read. The patches of one change turn the text of the property into one that shows
what becomes of it.

- `Entry.Shows`, `Key.Shows`, `Property.Shows`: how the entries of an edited list, a key and an edited property read.
- `rewrites_list`: a list of style sheets in its text, with the entries that move behind them.
- `rewrites_change`: one change in its text.
-/
import Mathlib.Data.List.Perm.Basic
import ResourceInliner.Proofs.Metadata.Plan
import ResourceInliner.Proofs.Patch.Lists

namespace ResourceInliner

open Metadata

/-! ## How an edited object reads -/

namespace Metadata

/-- an entry of an edited list -/
inductive Entry where
  /-- a style sheet that is inlined -/
  | inlined (sheet : Sheet)
  /-- an entry that was in the `styles` array -/
  | moved (item : Item)
  /-- a `styles` value that is no array, spread into the list -/
  | spread (value : Node)

/-- the entry in the tree -/
def Entry.item : Entry → Item
  | .inlined sheet => sheet.reference
  | .moved item => item
  | .spread value => .spread .dummy value

/-- the entries that a value adds to a list -/
def movedEntries : Node → List Entry
  | .array _ items => (items.filter fun item => item.span?.isSome).map .moved
  | other => [.spread other]

/-- the entries that move behind the style sheets -/
def entriesOf (moved : Option Node) : List Entry :=
  (moved.map movedEntries).getD []

/-- how an entry of an edited list reads -/
inductive Entry.Shows (source : List Char) (base : UInt32) : Entry → List Char → Prop where
  | inlined (sheet : Sheet) : Shows source base (.inlined sheet) (Path.requireCall sheet.value).toList
  | moved {item : Item} {span : Span} {text : List Char} (hspan : item.span? = some span)
    (htext : span.Reads source base text) : Shows source base (.moved item) text
  | spread {value : Node} {text : List Char} (htext : value.span.Reads source base text) :
    Shows source base (.spread value) ("...".toList ++ text)

end Metadata

/-- how a key reads that may be renamed -/
inductive Key.Shows (source : List Char) (base : UInt32) (key : Key) : Key → List Char → Prop where
  | same {text : List Char} (htext : key.span.Reads source base text) : Shows source base key key text
  | renamed {span : Span} {old : String} (hkey : key = .name span old) (name : String) :
    Shows source base key (.name span name) name.toList

/-- how a property of an edited object reads; `props` are the properties before the edit -/
inductive Property.Shows (source : List Char) (base : UInt32) (props : List Property) :
    Property → List Char → Prop where
  | same {prop : Property} {text : List Char} (hmem : prop ∈ props) (htext : prop.span.Reads source base text) :
    Shows source base props prop text
  | template {key key' : Key} {span : Span} {value raw : String} {name gap : List Char}
    (hmem : .keyValue key (.string span value raw) ∈ props) (hkey : key.Shows source base key' name)
    (hgap : Colon gap) (hsame : Span.Reads source base ⟨key.span.hi, span.lo⟩ gap) :
    Shows source base props (.keyValue key' (requireNode value span)) (name ++ gap ++ (Path.requireCall value).toList)
  | list {key key' : Key} {span : Span} {sheets : List Sheet} {moved : Option Node} {name gap inner : List Char}
    (hmem : .keyValue key (.array span (sheets.map Sheet.literal)) ∈ props) (hkey : key.Shows source base key' name)
    (hgap : Colon gap) (hsame : Span.Reads source base ⟨key.span.hi, span.lo⟩ gap)
    (hmoved : ∀ value, moved = some value → ∃ gone ∈ props, gone.name? = some styles ∧ value? gone = some value)
    (hentries : Separated (fun _ => Entry.Shows source base) 0 (sheets.map .inlined ++ entriesOf moved) inner) :
    Shows source base props
      (.keyValue key' (.array span ((sheets.map Entry.inlined ++ entriesOf moved).map Entry.item)))
      (name ++ gap ++ ('[' :: inner ++ [']']))

/-! ## One change in its text -/

section

variable {source : List Char} {base : UInt32} {pos : Nat}

theorem renderChunks_text (content : String) : renderChunks source base [.text content] = .ok content.toList := by
  simp [renderChunks, Chunk.render, bind, Except.bind, pure, Except.pure]

theorem turns_replace {span : Span} {text : List Char} (hcovers : span.Covers pos text) (htext : text ≠ [])
    (content : String) : Turns source base pos [.replace span content] [] text content.toList :=
  .replace hcovers htext (renderChunks_text content)

theorem turns_key (rename : Bool) (name : String) {key : Key} {text : List Char} (hcovers : key.span.Covers pos text)
    (htext : text ≠ []) (hin : StandsIn source base pos text) :
    ∃ text', Turns source base pos (keyEdit rename name key).2 [] text text' ∧
      key.Shows source base (keyEdit rename name key).1 text' := by
  have hsame : ∃ text', Turns source base pos [] [] text text' ∧ key.Shows source base key text' :=
    ⟨text, .keep text, .same (hin.reads hcovers)⟩
  cases rename with
  | false => exact hsame
  | true =>
    cases key with
    | name span old => exact ⟨_, turns_replace hcovers htext name, .renamed rfl name⟩
    | _ => exact hsame

/-- the text of a key and a value, with the colon between them as it was -/
theorem turns_keyValue {r r' i : List Patch} {key key' value value' gap : List Char}
    (hkey : Turns source base pos r [] key key')
    (hvalue : Turns source base (pos + byteLength key + byteLength gap) r' i value value') :
    Turns source base pos (r' ++ r) i (key ++ gap ++ value) (key' ++ gap ++ value') := by
  rw [List.append_assoc, List.append_assoc]
  exact (hkey.append (.after gap hvalue)).perm List.perm_append_comm (.refl _)

/-- the colon stands where the spans of the key and of the value leave it -/
theorem reads_gap {key : Key} {span : Span} {name gap text : List Char} (hkey : key.span.Covers pos name)
    (hvalue : span.Covers (pos + byteLength name + byteLength gap) text)
    (hin : StandsIn source base pos (name ++ gap ++ text)) : Span.Reads source base ⟨key.span.hi, span.lo⟩ gap :=
  hin.left.right.reads ⟨hkey.2, hvalue.1⟩

theorem covers_literal {sheet : Sheet} {text : List Char} (h : Item.StandsAt pos sheet.literal text) :
    sheet.span.Covers pos text ∧ text ≠ [] := by
  cases h with
  | entry hspan hcovers htext =>
    rw [Sheet.literal, Item.span?, Option.some.injEq] at hspan
    rw [← hspan] at hcovers
    exact ⟨hcovers, htext⟩

/-- a style sheet in its text -/
theorem rewrites_sheet (sheet : Sheet) :
    Rewrites source base Item.StandsAt (Entry.Shows source base) sheet.literal (.inlined sheet) [sheet.patch] [] := by
  intro pos text hin hstands
  obtain ⟨hcovers, htext⟩ := covers_literal hstands
  exact ⟨_, turns_replace hcovers htext _, .inlined sheet⟩

theorem renderChunks_cons_eq_ok {chunk : Chunk} {rest : List Chunk} {out : List Char} :
    renderChunks source base (chunk :: rest) = .ok out ↔ ∃ front back, chunk.render source base = .ok front ∧
      renderChunks source base rest = .ok back ∧ out = front ++ back := by
  rw [renderChunks]
  cases chunk.render source base <;> cases renderChunks source base rest <;>
    simp [bind, Except.bind, pure, Except.pure, eq_comm]

theorem renderChunks_append {a b : List Chunk} {x y : List Char} (ha : renderChunks source base a = .ok x)
    (hb : renderChunks source base b = .ok y) : renderChunks source base (a ++ b) = .ok (x ++ y) := by
  induction a generalizing x with
  | nil =>
    cases ha
    exact hb
  | cons chunk rest ih =>
    obtain ⟨front, back, hfront, hback, rfl⟩ := renderChunks_cons_eq_ok.1 ha
    rw [List.append_assoc]
    exact renderChunks_cons_eq_ok.2 ⟨front, back ++ y, hfront, ih hback, rfl⟩

theorem renderChunks_joinGroups {groups : List (List Chunk)} {texts : List (List Char)}
    (h : List.Forall₂ (fun group text => renderChunks source base group = .ok text) groups texts) (comma : Bool) :
    renderChunks source base (joinGroups comma groups) = .ok (joinTexts comma texts) := by
  induction h generalizing comma with
  | nil => cases comma <;> rfl
  | cons hgroup hrest ih =>
    cases comma with
    | false => exact renderChunks_append hgroup (ih true)
    | true =>
      refine renderChunks_cons_eq_ok.2 ⟨", ".toList, _, rfl, renderChunks_append hgroup (ih true), ?_⟩
      rfl

/-- the value that moves can be read, entry by entry if it is an array -/
def Movable (source : List Char) (base : UInt32) (value : Node) : Prop :=
  (∃ text, value.span.Reads source base text) ∧
    ∀ span items, value = .array span items → ∀ item ∈ items, ∀ entry, item.span? = some entry →
      ∃ text, entry.Reads source base text

theorem renderChunks_source {span : Span} {text : List Char} (h : span.Reads source base text) :
    renderChunks source base [.source span] = .ok text :=
  renderChunks_cons_eq_ok.2 ⟨text, [], h.render, rfl, by rw [List.append_nil]⟩

/-- the source of the entries that move reads as they do -/
theorem renderChunks_moved {value : Node} (h : Movable source base value) :
    ∃ texts, List.Forall₂ (Entry.Shows source base) (movedEntries value) texts ∧
      List.Forall₂ (fun group text => renderChunks source base group = .ok text) (mergedChunks value) texts := by
  have hspread : ∃ texts, List.Forall₂ (Entry.Shows source base) [.spread value] texts ∧
      List.Forall₂ (fun group text => renderChunks source base group = .ok text)
        [[.text "...", .source value.span]] texts := by
    obtain ⟨text, htext⟩ := h.1
    refine ⟨["...".toList ++ text], .cons (.spread htext) .nil, .cons ?_ .nil⟩
    exact renderChunks_cons_eq_ok.2 ⟨_, _, rfl, renderChunks_source htext, rfl⟩
  cases value with
  | array span items =>
    have hitems := h.2 span items rfl
    rw [movedEntries, mergedChunks]
    clear h hspread
    induction items with
    | nil => exact ⟨[], .nil, .nil⟩
    | cons item rest ih =>
      obtain ⟨texts, hshows, hchunks⟩ := ih fun other hother => hitems other (List.mem_cons_of_mem _ hother)
      cases hspan : item.span? with
      | none =>
        rw [List.filter_cons_of_neg (by simp [hspan]), List.filterMap_cons, hspan]
        exact ⟨texts, hshows, hchunks⟩
      | some entry =>
        obtain ⟨text, htext⟩ := hitems item List.mem_cons_self entry hspan
        rw [List.filter_cons_of_pos (by simp [hspan]), List.map_cons, List.filterMap_cons, hspan]
        exact ⟨text :: texts, .cons (.moved hspan htext) hshows, .cons (renderChunks_source htext) hchunks⟩
  | _ => exact hspread

theorem items_movedEntries (value : Node) : (movedEntries value).map Entry.item = mergedItems value := by
  cases value with
  | array span items =>
    rw [movedEntries, List.map_map]
    exact List.map_id _
  | _ => rfl

theorem items_entriesOf (sheets : List Sheet) (moved : Option Node) :
    (sheets.map Entry.inlined ++ entriesOf moved).map Entry.item = sheets.map Sheet.reference ++ movedItems moved := by
  rw [List.map_append, List.map_map]
  cases moved with
  | none => rfl
  | some value =>
    rw [entriesOf, Option.map_some, Option.getD_some, items_movedEntries]
    rfl

/-! ### The entries of a list -/

theorem turns_brackets {r i : List Patch} {inner inner' : List Char} (h : Turns source base (pos + 1) r i inner inner') :
    Turns source base pos r i ('[' :: inner ++ [']']) ('[' :: inner' ++ [']']) := by
  have hbracket : Turns source base pos r i (['['] ++ inner) (['['] ++ inner') := .after ['['] h
  have hall := hbracket.append (.keep [']'])
  rw [List.append_nil, List.append_nil] at hall
  exact hall

/-- the closing bracket is the last byte -/
theorem bracket_of_covers {span : Span} {inner : List Char} (h : span.Covers pos ('[' :: inner ++ [']'])) :
    (span.hi - 1).toNat = pos + 1 + byteLength inner := by
  have hhi : span.hi.toNat = pos + (1 + byteLength (inner ++ [']'])) := h.2
  have hlast : byteLength (inner ++ [']']) = byteLength inner + 1 := byteLength_append ..
  have hone : (1 : UInt32) ≤ span.hi := by
    rw [UInt32.le_iff_toNat_le, UInt32.toNat_one]
    omega
  rw [UInt32.toNat_sub_of_le _ _ hone, UInt32.toNat_one]
  omega

theorem insertionPoint_literals (span : Span) (sheets : List Sheet) : insertionPoint span (sheets.map Sheet.literal) =
    (sheets.getLast?.map fun sheet => sheet.span.hi).getD (span.hi - 1) := by
  rw [insertionPoint, List.getLast?_map]
  cases sheets.getLast? <;> rfl

/-- without entries that move there is no patch for them, and an array of holes has none -/
theorem movedPatches_of_empty (span : Span) (items : List Item) {moved : Option Node}
    (h : ∀ value, moved = some value → mergedChunks value = []) : movedPatches span items moved = [] := by
  cases moved with
  | none => rfl
  | some value =>
    rw [movedPatches, Option.map_some, Option.getD_some, insertion, h value rfl]
    rfl

/-- the entries of a list in their text, with those that move behind them -/
theorem rewrites_list {span : Span} {sheets : List Sheet} {moved : Option Node} {inner : List Char}
    (hcovers : span.Covers pos ('[' :: inner ++ [']']))
    (hitems : Separated Item.StandsAt (pos + 1) (sheets.map Sheet.literal) inner)
    (hin : StandsIn source base pos ('[' :: inner ++ [']']))
    (hmoved : ∀ value, moved = some value → Movable source base value) :
    ∃ inner', Turns source base pos (sheets.map Sheet.patch) (movedPatches span (sheets.map Sheet.literal) moved)
        ('[' :: inner ++ [']']) ('[' :: inner' ++ [']']) ∧
      Separated (fun _ => Entry.Shows source base) 0 (sheets.map .inlined ++ entriesOf moved) inner' := by
  have hinner : StandsIn source base (pos + 1) inner := StandsIn.right (a := ['[']) hin.left
  have hrows : ∀ sheet ∈ sheets, Rewrites source base Item.StandsAt (Entry.Shows source base) sheet.literal
      (.inlined sheet) [sheet.patch] [] := fun sheet _ => rewrites_sheet sheet
  have hend : ∀ sheet ∈ sheets, ∀ pos text, Item.StandsAt pos sheet.literal text →
      sheet.span.hi.toNat = pos + byteLength text := fun sheet _ pos text hstands => (covers_literal hstands).1.2
  have hreplaced : sheets.flatMap (fun sheet => [sheet.patch]) = sheets.map Sheet.patch := List.map_eq_flatMap.symm
  have hinserted : sheets.flatMap (fun _ => []) = ([] : List Patch) := List.flatMap_eq_nil_iff.2 fun _ _ => rfl
  by_cases hempty : ∀ value, moved = some value → mergedChunks value = []
  · have hentries : entriesOf moved = [] := by
      cases moved with
      | none => rfl
      | some value =>
        obtain ⟨texts, hshows, hchunks⟩ := renderChunks_moved (hmoved value rfl)
        rw [hempty value rfl] at hchunks
        cases hchunks
        exact List.forall₂_nil_right_iff.1 hshows
    obtain ⟨inner', hturns, hlist⟩ := hitems.edited hinner hrows
    rw [hreplaced, hinserted] at hturns
    rw [movedPatches_of_empty span _ hempty, hentries, List.append_nil]
    exact ⟨inner', turns_brackets hturns, hlist⟩
  · push Not at hempty
    obtain ⟨value, rfl, hgroups⟩ := hempty
    obtain ⟨texts, hshows, hchunks⟩ := renderChunks_moved (hmoved value rfl)
    obtain ⟨inner', hturns, hlist⟩ := hitems.extended hinner hrows hend (bracket_of_covers hcovers) hshows
      (renderChunks_joinGroups hchunks (!sheets.isEmpty))
    rw [hreplaced, hinserted, List.nil_append] at hturns
    refine ⟨inner', turns_brackets ?_, hlist⟩
    rw [movedPatches, Option.map_some, Option.getD_some, insertion, if_neg (by simpa using hgroups),
      insertionPoint_literals, List.isEmpty_map]
    exact hturns

/-! ### One change -/

/-- a change that is legal, in its text -/
theorem rewrites_change {props : List Property} {moved : Option Node} {change : Change} (hlegal : change.Legal moved)
    (hmem : change.old ∈ props) (hmovable : ∀ value, moved = some value → Movable source base value)
    (hmoved : ∀ value, moved = some value → ∃ gone ∈ props, gone.name? = some styles ∧ value? gone = some value) :
    Rewrites source base Property.StandsAt (Property.Shows source base props) change.old change.new change.replaced
      change.inserted := by
  intro pos text hin hstands
  cases hlegal with
  | keep prop => exact ⟨text, .keep text, .same hmem (hin.reads hstands.covers.1)⟩
  | template rename key span value raw =>
    cases hstands with
    | other hprop => exact absurd rfl (hprop _ _)
    | keyValue hkey hname hgap hvalue =>
      obtain ⟨hcovers, htext⟩ := hvalue.covers
      obtain ⟨name, hturn, hshows⟩ := turns_key rename template hkey hname hin.left.left
      refine ⟨_, turns_keyValue hturn (turns_replace hcovers htext _), ?_⟩
      exact .template hmem hshows hgap (reads_gap hkey hcovers hin)
  | list rename key span sheets =>
    cases hstands with
    | other hprop => exact absurd rfl (hprop _ _)
    | keyValue hkey hname hgap hvalue =>
      cases hvalue with
      | other hnode => exact absurd rfl (hnode _ _)
      | array hcovers hitems =>
        obtain ⟨name, hturn, hshows⟩ := turns_key rename styles hkey hname hin.left.left
        have hlist := hin.right
        rw [byteLength_append, ← Nat.add_assoc] at hlist
        obtain ⟨inner, hturns, hentries⟩ := rewrites_list hcovers hitems hlist hmovable
        refine ⟨_, turns_keyValue hturn hturns, ?_⟩
        rw [Change.ofList, ← items_entriesOf]
        exact .list hmem hshows hgap (reads_gap hkey hcovers hin) hmoved hentries

/-- the value of a property that stands in the source can be read -/
theorem movable_of_mem {props : List Property} {inner : List Char}
    (hprops : Separated Property.StandsAt pos props inner) (hin : StandsIn source base pos inner) {gone : Property}
    (hgone : gone ∈ props) {value : Node} (hvalue : value? gone = some value) : Movable source base value := by
  obtain ⟨at_, text, hstands, hpart⟩ := hprops.mem hin hgone
  cases hstands with
  | keyValue hkey hname hgap hnode =>
    cases hvalue
    have hright := hpart.right
    rw [byteLength_append, ← Nat.add_assoc] at hright
    refine ⟨⟨_, hright.reads hnode.covers.1⟩, fun span items harray item hitem entry hentry => ?_⟩
    cases hnode with
    | other hnode => exact absurd harray (hnode _ _)
    | array hcovers hitems =>
      cases harray
      obtain ⟨place, found, hfound, hstandsIn⟩ := hitems.mem (StandsIn.right (a := ['[']) hright.left) hitem
      cases hfound with
      | hole => cases hentry
      | entry hspan hcovers htext =>
        rw [hspan, Option.some.injEq] at hentry
        rw [← hentry]
        exact ⟨_, hstandsIn.reads hcovers⟩
  | other hprop hcovers htext =>
    cases gone with
    | keyValue => exact absurd rfl (hprop _ _)
    | shorthand span name =>
      cases hvalue
      exact ⟨⟨_, hpart.reads hcovers⟩, nofun⟩
    | _ => cases hvalue

end

end ResourceInliner
