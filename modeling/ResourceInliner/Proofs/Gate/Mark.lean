/-
A byte order mark in front of a text. Inlining sets one mark aside, and so does the parser. A second mark is gone from the
positions of the tree then, but not from the text that is patched.

- `Transparent`: with a mark in front, the same is made of a text as without it, behind the mark.
- `BlankMark`: what is asked of the parser where a text keeps a mark: it reads the text behind the mark the same way.
- `transparent_iff`: for any parser, a mark is transparent in front of every text, except where it is put in front of
  exactly one other mark and patches that land too early make a difference. In front of two marks or more, blank marks
  are a premise; `not_transparent_of_runLine` is about a text that has none.
-/
import ResourceInliner.Proofs.Gate.Placement
import ResourceInliner.Proofs.Metadata.Moved
import ResourceInliner.Proofs.Tree.Equal

namespace ResourceInliner

/-! ## Results behind a mark -/

/-- the second result is the first one behind a mark; where one is a failure, both are -/
def BehindMark {ε : Type} (plain marked : Except ε String) : Prop :=
  match plain with
  | .ok code => marked = .ok (String.singleton byteOrderMark ++ code)
  | .error _ => ∃ error, marked = .error error

section

variable (parser : Parser)

/-- a mark in front of a text stays there, and changes nothing else -/
def Transparent (config : Config) (text : List Char) : Prop :=
  BehindMark (inlineResources config (String.ofList text) parser).1
    (inlineResources config (String.ofList (byteOrderMark :: text)) parser).1

/-- the text with the patches for a tree -/
def patched (config : Config) (tree : Node) (text : List Char) : Except PatchError String :=
  applyPatches (String.ofList text) basePosition (inlineModule config.keepUrl tree).patches

theorem applyPatches_nil (text : List Char) (base : UInt32) :
    applyPatches (String.ofList text) base [] = .ok (String.ofList text) := by
  have hall := slice_append [] text []
  rw [List.nil_append, List.append_nil, byteLength_nil, Nat.zero_add] at hall
  rw [applyPatches, String.toList_ofList, sortPatches, List.mergeSort_nil, applyFrom, hall]
  rfl

/-- what is made of a text, from its parts before and after the mark -/
theorem inlineResources_parts (config : Config) {text mark body : List Char} (h : splitMark text = (mark, body)) :
    (inlineResources config (String.ofList text) parser).1 =
      (parseModule config.dialect body parser).bind fun tree =>
        ((patched config tree body).mapError .patch).map (String.ofList mark ++ ·) := by
  have hparts : mark ++ body = text := by
    rw [splitMark.eq_def] at h
    split at h
    · split at h <;> cases h <;> rfl
    · cases h
      rfl
  simp only [inlineResources, String.toList_ofList, h]
  cases parseModule config.dialect body parser with
  | error error => rfl
  | ok tree =>
    simp only [patched, Except.bind]
    cases hpatches : (inlineModule config.keepUrl tree).patches with
    | nil =>
      rw [applyPatches_nil, ← hparts, String.ofList_append]
      rfl
    | cons patch patches =>
      simp only [List.isEmpty_cons, Bool.false_eq_true, if_false]
      cases applyPatches (String.ofList body) basePosition (patch :: patches) <;> rfl

end

/-! ## Trees behind a mark -/

/-- the tree of a module behind some bytes; the module starts where the file does -/
def Node.behind (bytes : UInt32) : Node → Node
  | .other kind span parts => .other kind ⟨span.lo, span.hi + bytes⟩ (nodesMoved bytes parts)
  | node => node.moved bytes

/-- the bytes of a mark -/
def markBytes : UInt32 := 3

theorem Node.metadata_behind (bytes : UInt32) (tree : Node) :
    (tree.behind bytes).metadata .code = (tree.metadata .code).map (propsMoved bytes) := by
  rw [← Node.metadata_mapSpans]
  cases tree <;> rfl

/-- The parser takes a mark in front of the text for a blank, and the metadata stands in the text where its spans say.
The text is short enough for every position in it to be a number of 32 bits. A text that starts with a line for the
system, such as `#!node`, is ruled out: this is such a line at the very start only, so behind a mark the parser refuses
it, and two marks in front of it are not transparent (`not_transparent_of_runLine`). -/
structure BlankMark (parser : Parser) (dialect : Dialect) (text : List Char) : Prop where
  room : byteLength text + 4 < UInt32.size
  fails : ∀ failure, parser dialect text = .error failure →
    ∃ failure', parser dialect (byteOrderMark :: text) = .error failure'
  parses : ∀ tree, parser dialect text = .ok tree → tree.MetadataPlaced text basePosition ∧
    parser dialect (byteOrderMark :: text) = .ok (tree.behind markBytes)

section

variable {text : List Char} {tree : Node} (hroom : byteLength text + 4 < UInt32.size)
  (hplaced : tree.MetadataPlaced text basePosition)

include hroom

theorem Span.Readable.movable {span : Span} (h : span.Readable text basePosition) :
    span.Movable basePosition markBytes := by
  obtain ⟨old, before, after, rfl, hlo, hhi⟩ := h
  have hbase : basePosition.toNat = 1 := rfl
  have hmark : markBytes.toNat = 3 := rfl
  have hsize : UInt32.size = 4294967296 := rfl
  rw [byteLength_append, byteLength_append] at hroom
  refine ⟨UInt32.le_iff_toNat_le.2 ?_, ?_, ?_⟩ <;> omega

include hplaced

theorem patches_behind (keepUrl : Bool) : (inlineModule keepUrl (tree.behind markBytes)).patches =
    (inlineModule keepUrl tree).patches.map (Patch.moved markBytes) := by
  have hprops : ∀ props ∈ tree.metadata .code, ∀ prop ∈ props, prop.span.Movable basePosition markBytes := by
    intro props hprops prop hprop
    obtain ⟨span, hobject⟩ := hplaced props hprops
    exact (hobject.readable prop hprop).movable hroom
  simp only [inlineModule, Node.metadata_behind, List.map_map, List.flatMap_map, List.map_flatMap]
  exact List.flatMap_congr fun props hmem => Metadata.patches_moved keepUrl (hprops props hmem)

theorem patches_movable (keepUrl : Bool) :
    ∀ patch ∈ (inlineModule keepUrl tree).patches, patch.Movable basePosition markBytes := by
  intro patch hpatch
  rw [inlineModule, List.flatMap_map] at hpatch
  obtain ⟨props, hprops, hpatch⟩ := List.mem_flatMap.1 hpatch
  obtain ⟨span, hobject⟩ := hplaced props hprops
  obtain ⟨hfits, hcopies⟩ := Metadata.edit_placed keepUrl hobject
  exact ⟨(hfits.readable patch hpatch).movable hroom,
    fun span hspan => (hcopies patch hpatch span hspan).1.movable hroom⟩

/-- patches of the moved tree do to a text behind a mark what those of the tree do to the text -/
theorem patched_behind (config : Config) (body : List Char) :
    patched config (tree.behind markBytes) (byteOrderMark :: body) =
      ((patched config tree body).mapError (PatchError.moved markBytes)).map (String.singleton byteOrderMark ++ ·) := by
  have hbytes : markBytes.toNat = byteLength [byteOrderMark] := rfl
  have hmoved := applyPatches_moved body hbytes (patches_movable hroom hplaced config.keepUrl)
  rwa [← patches_behind hroom hplaced] at hmoved

end

/-! ## Marks in front of marks -/

theorem splitMark_cons (text : List Char) : splitMark (byteOrderMark :: text) = ([byteOrderMark], text) := by
  rw [splitMark, if_pos rfl]

theorem splitMark_of_head {text : List Char} (h : text.head? ≠ some byteOrderMark) : splitMark text = ([], text) := by
  cases text with
  | nil => rfl
  | cons c rest => rw [splitMark, if_neg fun hc => h (by rw [hc]; rfl)]

theorem behindMark_map_iff {ε ε' : Type} (f : ε → ε') (a b : Except ε String) :
    BehindMark ((a.mapError f).map (String.ofList [byteOrderMark] ++ ·))
      ((b.mapError f).map (String.ofList [byteOrderMark] ++ ·)) ↔ BehindMark a b := by
  cases a with
  | ok code =>
    cases b with
    | ok code' => simp [BehindMark, Except.map]
    | error error => simp [BehindMark, Except.map]
  | error error => cases b <;> simp [BehindMark, Except.map]

section

variable (parser : Parser)

/-- in front of a text without a mark -/
theorem transparent_of_head (config : Config) {text : List Char} (h : text.head? ≠ some byteOrderMark) :
    Transparent parser config text := by
  rw [Transparent, inlineResources_parts parser config (splitMark_of_head h),
    inlineResources_parts parser config (splitMark_cons text)]
  cases parseModule config.dialect text parser with
  | error error => exact ⟨error, rfl⟩
  | ok tree =>
    simp only [Except.bind]
    cases patched config tree text with
    | error error => exact ⟨_, rfl⟩
    | ok code => simp [BehindMark, Except.map]

/-- a mark in front of one mark: the same tree, and one more mark in the text that is patched -/
theorem transparent_of_one (config : Config) {rest : List Char} (h : rest.head? ≠ some byteOrderMark) :
    Transparent parser config (byteOrderMark :: rest) ↔ ∀ tree, parseModule config.dialect rest parser = .ok tree →
      BehindMark (patched config tree rest) (patched config tree (byteOrderMark :: rest)) := by
  have hsame : parseModule config.dialect (byteOrderMark :: rest) parser = parseModule config.dialect rest parser := by
    rw [parseModule, parseModule, splitMark_cons, splitMark_of_head h]
  rw [Transparent, inlineResources_parts parser config (splitMark_cons rest),
    inlineResources_parts parser config (splitMark_cons (byteOrderMark :: rest)), hsame]
  cases parseModule config.dialect rest parser with
  | error error => exact iff_of_true ⟨error, rfl⟩ nofun
  | ok tree => simpa [Except.bind] using behindMark_map_iff InlineError.patch _ _

/-- a mark in front of more marks: the tree moves along with the text -/
theorem transparent_of_more (config : Config) {rest : List Char} (h : BlankMark parser config.dialect rest) :
    Transparent parser config (byteOrderMark :: byteOrderMark :: rest) := by
  rw [Transparent, inlineResources_parts parser config (splitMark_cons (byteOrderMark :: rest)),
    inlineResources_parts parser config (splitMark_cons (byteOrderMark :: byteOrderMark :: rest)), parseModule, parseModule,
    splitMark_cons, splitMark_cons]
  cases hparse : parser config.dialect rest with
  | error failure =>
    obtain ⟨failure', hfails⟩ := h.fails failure hparse
    rw [hfails]
    exact ⟨_, rfl⟩
  | ok tree =>
    obtain ⟨hplaced, hparses⟩ := h.parses tree hparse
    rw [hparses]
    simp only [mapError_ok, Except.bind, patched_behind h.room hplaced]
    cases patched config tree (byteOrderMark :: rest) with
    | error error => exact ⟨_, rfl⟩
    | ok code => rfl

/-- a mark in front of more marks, where the parser reads the text behind them, but not with a mark in front of it -/
theorem not_transparent_of_refused (config : Config) {rest : List Char} {tree : Node} {code : String}
    {failure : Script.Failure} (hparse : parser config.dialect rest = .ok tree)
    (hpatched : patched config tree (byteOrderMark :: rest) = .ok code)
    (hrefused : parser config.dialect (byteOrderMark :: rest) = .error failure) :
    ¬ Transparent parser config (byteOrderMark :: byteOrderMark :: rest) := by
  rw [Transparent, inlineResources_parts parser config (splitMark_cons (byteOrderMark :: rest)),
    inlineResources_parts parser config (splitMark_cons (byteOrderMark :: byteOrderMark :: rest)), parseModule, parseModule,
    splitMark_cons, splitMark_cons, hparse, hrefused]
  simp only [mapError_ok, Except.bind, hpatched]
  exact nofun

/-- **Main result.** A mark is transparent in front of every text but one that starts with exactly one mark and is parsed.
There it is transparent exactly if the patches for the text behind that mark make the same change with the mark in front
of the text, where they land three bytes too early. -/
theorem transparent_iff (config : Config) (text : List Char)
    (hblank : ∀ rest, text = byteOrderMark :: byteOrderMark :: rest → BlankMark parser config.dialect rest) :
    Transparent parser config text ↔ ∀ rest tree, text = byteOrderMark :: rest → rest.head? ≠ some byteOrderMark →
      parseModule config.dialect rest parser = .ok tree →
      BehindMark (patched config tree rest) (patched config tree (byteOrderMark :: rest)) := by
  by_cases htext : text.head? = some byteOrderMark
  · obtain ⟨rest, rfl⟩ := List.head?_eq_some_iff.1 htext
    by_cases hrest : rest.head? = some byteOrderMark
    · obtain ⟨rest, rfl⟩ := List.head?_eq_some_iff.1 hrest
      refine iff_of_true (transparent_of_more parser config (hblank rest rfl)) ?_
      rintro _ tree hsame hhead -
      cases hsame
      exact absurd rfl hhead
    · rw [transparent_of_one parser config hrest]
      constructor
      · rintro h _ tree hsame - hparse
        cases hsame
        exact h tree hparse
      · exact fun h tree hparse => h rest tree rfl hrest hparse
  · refine iff_of_true (transparent_of_head parser config htext) ?_
    rintro rest tree rfl
    exact absurd rfl htext

end

/-! ## Small modules behind marks -/

theorem eq_ok_of_toOption {ε α : Type} {result : Except ε α} {value : α} (h : result.toOption = some value) :
    result = .ok value := by
  cases result with
  | error error => cases h
  | ok found => exact congrArg Except.ok (Option.some.inj h)

theorem parse_sampleText : Script.parse .typescript sampleText = .ok sampleTree :=
  eq_ok_of_toOption (by decide +kernel)

theorem parse_sampleText_behind :
    Script.parse .typescript (byteOrderMark :: sampleText) = .ok (sampleTree.behind markBytes) :=
  eq_ok_of_toOption (by decide +kernel)

/-- a text that is nothing but a line for the system -/
def runLine : List Char := "#!node".toList

/-- Two marks in front of a line for the system are not blank: with one more mark the text is no module. -/
theorem not_transparent_of_runLine :
    ¬ Transparent Script.parse Config.default (byteOrderMark :: byteOrderMark :: runLine) := by
  have hparse : Script.parse .typescript runLine = .ok (.other .module ⟨1, 7⟩ []) := eq_ok_of_toOption (by decide +kernel)
  have hrefused : (Script.parse .typescript (byteOrderMark :: runLine)).toOption.isSome = false := by decide +kernel
  cases hmarked : Script.parse .typescript (byteOrderMark :: runLine) with
  | error failure =>
    exact not_transparent_of_refused Script.parse Config.default hparse
      (applyPatches_nil (byteOrderMark :: runLine) basePosition) hmarked
  | ok tree =>
    rw [hmarked] at hrefused
    cases hrefused

theorem sampleText_blankMark : BlankMark Script.parse .typescript sampleText where
  room := by decide +kernel
  fails failure hfails := by
    rw [parse_sampleText] at hfails
    cases hfails
  parses tree hparses := by
    rw [parse_sampleText, Except.ok.injEq] at hparses
    rw [← hparses]
    exact ⟨sampleTree_wellPlaced.metadata, parse_sampleText_behind⟩

theorem transparent_iff_sample : BlankMark Script.parse .typescript sampleText ∧
    Transparent Script.parse Config.default (byteOrderMark :: byteOrderMark :: sampleText) := by
  have hblank : ∀ rest, byteOrderMark :: byteOrderMark :: sampleText = byteOrderMark :: byteOrderMark :: rest →
      BlankMark Script.parse Config.default.dialect rest := by
    intro rest hrest
    have hsame : sampleText = rest := (List.cons.inj (List.cons.inj hrest).2).2
    rw [← hsame]
    exact sampleText_blankMark
  refine ⟨sampleText_blankMark, ?_⟩
  rw [transparent_iff Script.parse Config.default _ hblank]
  intro rest tree hrest hhead
  have hsame : byteOrderMark :: sampleText = rest := (List.cons.inj hrest).2
  rw [← hsame] at hhead
  exact absurd rfl hhead

/-- a module with nothing but a template -/
def templateText : List Char := "@C(\x7btemplateUrl: 'a'\x7d) class A \x7b\x7d".toList

/-- its tree, at the base position of a file -/
def templateTree : Node :=
  .other .module ⟨1, 34⟩ [.cls .declaration ⟨1, 34⟩ [.call ⟨2, 23⟩ (.name ⟨2, 3⟩ "C") [.object ⟨4, 22⟩
    [.keyValue (.name ⟨5, 16⟩ "templateUrl") (.string ⟨18, 21⟩ "a" "'a'")]] []] []]

theorem parse_templateText : Script.parse .typescript templateText = .ok templateTree :=
  eq_ok_of_toOption (by decide +kernel)

theorem sortPatches_pair {a b : Patch} (h : a.span.le b.span = false) : sortPatches [a, b] = [b, a] := by
  simp [sortPatches, List.mergeSort, List.MergeSort.Internal.splitInTwo, h]

/-- the patches for it, in the order in which they are applied -/
theorem patched_templateTree (text : List Char) : patched Config.default templateTree text =
    (applyFrom (String.ofList text).toList basePosition 0
      [.replace ⟨5, 16⟩ "template", .replace ⟨18, 21⟩ "require('./a')"]).map String.ofList := by
  have hpatches : (inlineModule Config.default.keepUrl templateTree).patches =
      [.replace ⟨18, 21⟩ "require('./a')", .replace ⟨5, 16⟩ "template"] := rfl
  rw [patched, applyPatches, hpatches, sortPatches_pair (by decide)]

/-- A mark in front of one mark: the patches tear the text apart. -/
theorem not_transparent_of_one : ¬ Transparent Script.parse Config.default (byteOrderMark :: templateText) := by
  have hplain : patched Config.default templateTree templateText =
      .ok "@C(\x7btemplate: require('./a')\x7d) class A \x7b\x7d" := by
    rw [patched_templateTree]
    rfl
  have hmarked : patched Config.default templateTree (byteOrderMark :: templateText) =
      .ok "\uFEFF@templateUrrequire('./a')'a'\x7d) class A \x7b\x7d" := by
    rw [patched_templateTree]
    rfl
  have hparse : parseModule .typescript templateText = .ok templateTree := by
    rw [parseModule, splitMark_of_head (by decide), parse_templateText]
    rfl
  have hhead : templateText.head? ≠ some byteOrderMark := by decide
  rw [transparent_of_one Script.parse Config.default hhead]
  intro h
  have hbehind := h templateTree hparse
  rw [hplain, hmarked] at hbehind
  have hsame := Except.ok.inj hbehind
  revert hsame
  decide

end ResourceInliner
