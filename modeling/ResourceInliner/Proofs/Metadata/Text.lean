/-
What the text of an object literal becomes. Where the spans of the properties describe the text, applying the patches of
an edit leaves everything outside the literal as it is, and turns the literal into one that lists the edited properties,
in their order.

- `Followed.dropped`, `Separated.dropped`: a property taken out from between the others, with one comma beside it.
- `edited_text`: the whole literal.
-/
import ResourceInliner.Proofs.Metadata.Reading

namespace ResourceInliner

open Metadata

/-! ## A property taken out -/

section

variable {source : List Char} {base : UInt32} {pos : Nat}

theorem Turns.remove {lo hi : UInt32} {text : List Char} (hlo : lo.toNat = pos) (hhi : hi.toNat = pos + byteLength text)
    (htext : text ≠ []) : Turns source base pos [Patch.remove lo hi] [] text [] := by
  refine .replace ?_ htext rfl
  rw [Patch.remove, Span.between_of_le (by omega)]
  exact ⟨hlo, hhi⟩

variable {props : List Property} {gone : Property} {before after : List Change}

/-- the patches of these changes turn each property into one that shows what becomes of it -/
def Metadata.Rewritten (source : List Char) (base : UInt32) (props : List Property) (changes : List Change) : Prop :=
  ∀ change ∈ changes, Rewrites source base Property.StandsAt (Property.Shows source base props) change.old change.new
    change.replaced change.inserted

/-- the first of the properties that follow takes the place of the one taken out -/
theorem Followed.advanced {change : Change} {text tail : List Char} (hgone : gone.StandsAt pos text)
    (h : Followed Property.StandsAt (pos + byteLength text) ((change :: after).map Change.old) tail)
    (hin : StandsIn source base pos (text ++ tail)) (hrows : Rewritten source base props (change :: after))
    (last : Option Span) :
    ∃ part tail', Turns source base pos
        ((change :: after).flatMap Change.replaced ++ [takeOut last gone.span (some change.old.span)])
        ((change :: after).flatMap Change.inserted) (text ++ tail) (part ++ tail') ∧
      Property.Shows source base props change.new part ∧
      Followed (fun _ => Property.Shows source base props) 0 (after.map Change.new) tail' := by
  cases h with
  | @next _ _ _ back front part tail hback hfront hpart htail =>
    rw [List.append_assoc] at hin ⊢
    obtain ⟨part', hturn, hshows⟩ := hrows change List.mem_cons_self _ _ hin.right.right.left hpart
    obtain ⟨tail', hturns, hlist⟩ := htail.edited hin.right.right.right fun other hother =>
      hrows other (List.mem_cons_of_mem _ hother)
    have hlength : byteLength (text ++ (back ++ ',' :: front)) = byteLength text + byteLength (back ++ ',' :: front) :=
      byteLength_append ..
    have hcomma : Turns source base pos [takeOut last gone.span (some change.old.span)] []
        (text ++ (back ++ ',' :: front)) [] := by
      obtain ⟨hcovers, htext⟩ := hgone.covers
      refine .remove hcovers.1 ?_ (by simp [htext])
      rw [hlength, ← Nat.add_assoc]
      exact hpart.covers.1.1
    have hrest := hturn.append hturns
    rw [Nat.add_assoc, ← hlength] at hrest
    have hall := hcomma.append hrest
    rw [List.append_assoc text] at hall
    exact ⟨part', tail', hall.perm List.perm_append_comm (.refl _), hshows, hlist.move 0⟩

/-- a property taken out from behind others, the last of which ends at the position -/
theorem Followed.dropped {last : Span} {text : List Char} (hlast : last.hi.toNat = pos)
    (h : Followed Property.StandsAt pos (before.map Change.old ++ gone :: after.map Change.old) text)
    (hin : StandsIn source base pos text) (hrows : Rewritten source base props (before ++ after)) :
    ∃ text', Turns source base pos ((before ++ after).flatMap Change.replaced ++
        [takeOut (some (((before.map Change.old).getLast?.map Property.span).getD last)) gone.span
          ((after.map Change.old).head?.map Property.span)])
        ((before ++ after).flatMap Change.inserted) text text' ∧
      Followed (fun _ => Property.Shows source base props) 0 ((before ++ after).map Change.new) text' := by
  induction before generalizing pos text last with
  | nil =>
    cases h with
    | @next _ _ _ back front part tail hback hfront hpart htail =>
      cases after with
      | nil =>
        -- nothing follows, so the comma in front of the property goes
        have hcomma : Turns source base pos [takeOut (some last) gone.span none] []
            (back ++ ',' :: front ++ part) [] := by
          refine .remove hlast ?_ (by simp)
          rw [byteLength_append, ← Nat.add_assoc]
          exact hpart.covers.1.2
        refine ⟨tail, hcomma.append (.keep tail), ?_⟩
        cases htail with
        | last hgap => exact .last hgap
        | comma hback hgap => exact .comma hback hgap
      | cons change after =>
        rw [List.append_assoc] at hin ⊢
        obtain ⟨part', tail', hturns, hshows, hlist⟩ := htail.advanced hpart hin.right hrows (some last)
        refine ⟨_, .after _ hturns, ?_⟩
        rw [← List.append_assoc]
        exact .next hback hfront hshows (hlist.move _)
  | cons change before ih =>
    cases h with
    | next hback hfront hpart htail =>
      rw [List.map_cons, getLast?_cons_getD, List.cons_append, List.flatMap_cons, List.flatMap_cons, List.append_assoc]
      refine Followed.step hback hfront hin hpart (hrows change List.mem_cons_self) fun hrest => ?_
      exact ih hpart.covers.1.2 htail hrest fun other hother => hrows other (List.mem_cons_of_mem _ hother)

/-- a property taken out from between others -/
theorem Separated.dropped {text : List Char} (hothers : before ++ after ≠ [])
    (h : Separated Property.StandsAt pos (before.map Change.old ++ gone :: after.map Change.old) text)
    (hin : StandsIn source base pos text) (hrows : Rewritten source base props (before ++ after)) :
    ∃ text', Turns source base pos ((before ++ after).flatMap Change.replaced ++
        [takeOut ((before.map Change.old).getLast?.map Property.span) gone.span
          ((after.map Change.old).head?.map Property.span)])
        ((before ++ after).flatMap Change.inserted) text text' ∧
      Separated (fun _ => Property.Shows source base props) 0 ((before ++ after).map Change.new) text' := by
  cases before with
  | nil =>
    cases after with
    | nil => exact absurd rfl hothers
    | cons change after =>
      cases h with
      | parts hfront hpart htail =>
        rw [List.append_assoc] at hin ⊢
        obtain ⟨part', tail', hturns, hshows, hlist⟩ := htail.advanced hpart hin.right hrows none
        refine ⟨_, .after _ hturns, ?_⟩
        rw [← List.append_assoc]
        exact .parts hfront hshows (hlist.move _)
  | cons change before =>
    cases h with
    | parts hfront hpart htail =>
      have hlast : ((change :: before).map Change.old).getLast?.map Property.span =
          some (((before.map Change.old).getLast?.map Property.span).getD change.old.span) := by
        rw [List.map_cons, List.getLast?_cons]
        cases (before.map Change.old).getLast? <;> rfl
      rw [hlast, List.cons_append, List.flatMap_cons, List.flatMap_cons, List.append_assoc change.replaced]
      refine Separated.step hfront hin hpart (hrows change List.mem_cons_self) fun hrest => ?_
      exact htail.dropped hpart.covers.1.2 hrest fun other hother => hrows other (List.mem_cons_of_mem _ hother)

/-! ## The whole literal -/

/-- the properties of an object in their text -/
theorem turns_props {text : List Char} (h : Separated Property.StandsAt pos props text)
    (hin : StandsIn source base pos text) (keepUrl : Bool) :
    ∃ replaced inserted text', (inlineMetadata keepUrl props).patches.Perm (replaced ++ inserted) ∧
      inserted.length ≤ 1 ∧ Turns source base pos replaced inserted text text' ∧
      Separated (fun _ => Property.Shows source base props) 0 (inlineMetadata keepUrl props).result text' := by
  have hplan := plan keepUrl props
  generalize (inlineMetadata keepUrl props).result = result, (inlineMetadata keepUrl props).patches = patches at hplan ⊢
  cases hplan with
  | @whole changes _ legal hold hpatches =>
    have hrows : Rewritten source base props changes := by
      intro change hchange
      refine rewrites_change (legal change hchange) ?_ nofun nofun
      rw [← hold]
      exact List.mem_map_of_mem hchange
    rw [← hold] at h
    obtain ⟨text', hturns, hlist⟩ := h.edited hin hrows
    rw [inserted_of_legal_none legal] at hturns
    refine ⟨_, [], text', ?_, Nat.zero_le _, hturns, hlist⟩
    rwa [List.append_nil]
  | @less before after gone value inserted _ hname hvalue hothers legal hold hinserted hsingle hpatches =>
    have hgone : gone ∈ props := by
      rw [← hold]
      exact List.mem_append_right _ List.mem_cons_self
    have hrows : Rewritten source base props (before ++ after) := by
      intro change hchange
      refine rewrites_change (legal change hchange) ?_ ?_ ?_
      · have hmem := List.mem_map_of_mem (f := Change.old) hchange
        rw [List.map_append, List.mem_append] at hmem
        rw [← hold, List.mem_append]
        exact hmem.imp_right (List.mem_cons_of_mem _)
      · rintro _ ⟨⟩
        exact movable_of_mem h hin hgone hvalue
      · rintro _ ⟨⟩
        exact ⟨gone, hgone, hname, hvalue⟩
    rw [← hold] at h
    obtain ⟨text', hturns, hlist⟩ := h.dropped hothers hin hrows
    refine ⟨_, inserted, text', ?_, hsingle, hturns.perm (.refl _) hinserted.symm, hlist⟩
    refine hpatches.trans ?_
    rw [List.append_assoc, List.append_assoc]
    exact List.Perm.append_left _ List.perm_append_comm

end

/-- **Main result.** Applying the patches of an edit gives the source with the edited properties in the literal. -/
theorem edited_text {source : String} {base : UInt32} {before inner after : List Char} {props : List Property}
    (hsource : source.toList = before ++ '{' :: inner ++ '}' :: after)
    (hprops : Separated Property.StandsAt (base.toNat + byteLength before + 1) props inner) (keepUrl : Bool) :
    ∃ inner', applyPatches source base (inlineMetadata keepUrl props).patches =
        .ok (String.ofList (before ++ '{' :: inner' ++ '}' :: after)) ∧
      Separated (fun _ => Property.Shows source.toList base props) 0 (inlineMetadata keepUrl props).result inner' := by
  have hfront : byteLength (before ++ ['{']) = byteLength before + 1 := byteLength_append ..
  have hparts : source.toList = (before ++ ['{']) ++ (inner ++ '}' :: after) := by rw [hsource]; simp
  have hin : StandsIn source.toList base (base.toNat + byteLength before + 1) inner := by
    refine ⟨before ++ ['{'], '}' :: after, ?_, ?_⟩
    · rw [hparts, List.append_assoc (before ++ ['{'])]
    · rw [hfront, Nat.add_assoc]
  obtain ⟨replaced, inserted, inner', hperm, hsingle, hturns, hlist⟩ := turns_props hprops hin keepUrl
  rw [Nat.add_assoc, ← hfront] at hturns
  have hall := Turns.after _ (hturns.append (.keep ('}' :: after)))
  rw [List.append_nil, List.append_nil, ← hparts] at hall
  refine ⟨inner', ?_, hlist⟩
  rw [hall.apply hsingle hperm]
  simp

/-- a small literal: a `styles` that stands for itself, and one style sheet -/
def sampleLiteral : String := "\x7bstyles, styleUrls: ['a']\x7d"

/-- its properties, at base position 1 -/
def sampleProps : List Property :=
  [.shorthand ⟨2, 8⟩ "styles",
    .keyValue (.name ⟨10, 19⟩ "styleUrls") (.array ⟨21, 26⟩ [.element (.string ⟨22, 25⟩ "a" "'a'")])]

theorem sampleProps_stand : Separated Property.StandsAt 2 sampleProps "styles, styleUrls: ['a']".toList := by
  have hitem : Item.StandsAt 22 (.element (.string ⟨22, 25⟩ "a" "'a'")) "'a'".toList :=
    .entry rfl (by decide) (by decide)
  have hitems : Separated Item.StandsAt 22 _ ([] ++ "'a'".toList ++ []) := .parts .none hitem (.last .none)
  have harray : Node.StandsAt 21 (.array ⟨21, 26⟩ _) ('[' :: _ ++ [']']) := .array (by decide) hitems
  have hcolon : Colon ([] ++ ':' :: [' ']) := .mk .none trivia_blank
  have hlist : Property.StandsAt 10 (.keyValue (.name ⟨10, 19⟩ "styleUrls") _) ("styleUrls".toList ++ _ ++ _) :=
    .keyValue (by decide) (by decide) hcolon harray
  have hfirst : Property.StandsAt 2 (.shorthand ⟨2, 8⟩ "styles") "styles".toList := .other nofun (by decide) (by decide)
  have hnext : Followed Property.StandsAt 8 [_] ([] ++ ',' :: [' '] ++ _ ++ []) :=
    .next .none trivia_blank hlist (.last .none)
  exact .parts .none hfirst hnext

theorem edited_text_sample :
    sampleLiteral.toList = [] ++ '{' :: "styles, styleUrls: ['a']".toList ++ '}' :: [] ∧
    Separated Property.StandsAt ((1 : UInt32).toNat + byteLength [] + 1) sampleProps "styles, styleUrls: ['a']".toList ∧
    ∃ inner, applyPatches sampleLiteral 1 (inlineMetadata false sampleProps).patches =
        .ok (String.ofList ([] ++ '{' :: inner ++ '}' :: [])) ∧
      Separated (fun _ => Property.Shows sampleLiteral.toList 1 sampleProps) 0
        (inlineMetadata false sampleProps).result inner := by
  have hsource : sampleLiteral.toList = [] ++ '{' :: "styles, styleUrls: ['a']".toList ++ '}' :: [] := by decide
  have hstands : Separated Property.StandsAt ((1 : UInt32).toNat + byteLength [] + 1) sampleProps
      "styles, styleUrls: ['a']".toList := sampleProps_stand
  exact ⟨hsource, hstands, edited_text hsource hstands false⟩

example : applyPatches "\x7bstyles, styleUrls: ['a']\x7d" 1 (inlineMetadata false [.shorthand ⟨2, 8⟩ "styles",
      .keyValue (.name ⟨10, 19⟩ "styleUrls") (.array ⟨21, 26⟩ [.element (.string ⟨22, 25⟩ "a" "'a'")])]).patches =
    .ok "\x7bstyles: [require('./a'), ...styles]\x7d" := by cbv

end ResourceInliner
