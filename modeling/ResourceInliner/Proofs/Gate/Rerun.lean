/-
A second pass over a module that was edited before, with renamed keys. It finds the same objects, and edits those in
which a resource stood behind the first of its name.

- `edit_again_exact`: how many objects the second pass changes, and when it changes nothing.
- `unsettled_of_single`: with one `templateUrl` and one `styleUrls` at most there is nothing left to change.
- `edit_again_not_neutral`: a module that the second pass changes.
-/
import ResourceInliner.Proofs.Gate.Replace
import ResourceInliner.Proofs.Metadata.Rerun

namespace ResourceInliner

open Metadata

/-- does an object have resources left after an edit with renamed keys? -/
def Metadata.unsettled (props : List Property) : Bool :=
  templateBehind props || sheetsBehind props

theorem Metadata.patches_again_eq_nil_iff (props : List Property) :
    (inlineMetadata false (inlineMetadata false props).result).patches = [] ↔ unsettled props = false := by
  rw [patches_eq_nil_iff, templateReady_result, sheetsReady_result, unsettled, Bool.or_eq_false_iff]

/-- names that do not repeat leave nothing behind -/
theorem Metadata.unsettled_of_single {props : List Property} (htemplate : (named templateUrl props).length ≤ 1)
    (hsheets : (named styleUrls props).length ≤ 1) : unsettled props = false := by
  have hbehind : ∀ name, (named name props).length ≤ 1 → (named name props)[1]? = none :=
    fun name h => List.getElem?_eq_none h
  rw [unsettled, templateBehind, sheetsBehind, hbehind _ htemplate, hbehind _ hsheets]
  simp

section

variable (tree : Node)

/-- the module after one pass, and what a second pass makes of it -/
def editedTwice : InlinedModule :=
  inlineModule false (inlineModule false tree).tree

/-- the edits of the second pass -/
theorem editedTwice_patches : (editedTwice tree).patches =
    (tree.metadata .code).flatMap fun props => (inlineMetadata false (inlineMetadata false props).result).patches := by
  rw [editedTwice, inlineModule, inlineModule, Node.metadata_inline]
  simp only [List.map_map, List.flatMap_map]
  rfl

theorem editedTwice_editCount :
    (editedTwice tree).editCount = ((tree.metadata .code).filter Metadata.unsettled).length := by
  have hcount : ∀ props, (!(inlineMetadata false (inlineMetadata false props).result).patches.isEmpty) =
      Metadata.unsettled props := by
    intro props
    cases h : Metadata.unsettled props with
    | false => simpa using (Metadata.patches_again_eq_nil_iff props).2 h
    | true =>
      have : (inlineMetadata false (inlineMetadata false props).result).patches ≠ [] := by
        rw [Ne, Metadata.patches_again_eq_nil_iff, h]
        decide
      simpa using this
  rw [editedTwice, inlineModule, inlineModule, Node.metadata_inline]
  simp only [List.map_map, List.filter_map, List.length_map]
  congr 2
  funext props
  exact hcount props

/-- **Main result.** A second pass changes exactly the objects that have resources left, so it is without effect
exactly if no object has. -/
theorem edit_again_exact :
    (editedTwice tree).editCount = ((tree.metadata .code).filter Metadata.unsettled).length ∧
      ((editedTwice tree).patches = [] ∧ (editedTwice tree).editCount = 0 ∧
          (editedTwice tree).tree = (inlineModule false tree).tree ↔
        ∀ props ∈ tree.metadata .code, Metadata.unsettled props = false) := by
  refine ⟨editedTwice_editCount tree, ?_, fun h => ?_⟩
  · rintro ⟨-, hcount, -⟩ props hprops
    rw [editedTwice_editCount, List.length_eq_zero_iff, List.filter_eq_nil_iff] at hcount
    simpa using hcount props hprops
  · have hpatches : ∀ props ∈ tree.metadata .code,
        (inlineMetadata false (inlineMetadata false props).result).patches = [] :=
      fun props hprops => (Metadata.patches_again_eq_nil_iff props).2 (h props hprops)
    refine ⟨?_, ?_, ?_⟩
    · rw [editedTwice_patches, List.flatMap_eq_nil_iff]
      exact hpatches
    · rw [editedTwice_editCount, List.length_eq_zero_iff, List.filter_eq_nil_iff]
      exact fun props hprops => by rw [h props hprops]; exact Bool.false_ne_true
    · refine Node.inline_eq_self false .code _ fun props hprops => ?_
      rw [inlineModule, Node.metadata_inline] at hprops
      obtain ⟨before, hbefore, rfl⟩ := List.mem_map.1 hprops
      exact (unchanged_iff false _).1 (hpatches before hbefore)

end

/-- the tree of `@C({templateUrl: 'a', templateUrl: 'b'}) class A {}` in a file at position 1 -/
def twoTemplates : Node :=
  .other .module ⟨1, 52⟩ [.cls .declaration ⟨1, 52⟩ [.call ⟨2, 41⟩ (.name ⟨2, 3⟩ "C") [.object ⟨4, 40⟩
    [.keyValue (.name ⟨5, 16⟩ "templateUrl") (.string ⟨18, 21⟩ "a" "'a'"),
      .keyValue (.name ⟨23, 34⟩ "templateUrl") (.string ⟨36, 39⟩ "b" "'b'")]] []] []]

/-- a second pass need not be without effect: it meets a repeated name -/
theorem edit_again_not_neutral :
    ¬ ∀ tree : Node, (editedTwice tree).patches = [] ∧ (editedTwice tree).editCount = 0 ∧
      (editedTwice tree).tree = (inlineModule false tree).tree := by
  intro h
  have hcount := (h twoTemplates).2.1
  revert hcount
  decide

end ResourceInliner
