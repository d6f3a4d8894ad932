/-
Settings printed as a query and read back. A setting is one value or a list of values; each value is an argument of its
own, and the arguments stand in any order that keeps the order of each list.

- `Settings`: a map that can be printed. `Settings.Interleaved`: its arguments in some order.
- `Assignment.text`: how one argument is printed. `Joined`: how arguments are put together.
- `parse_joined`: such a query is read as exactly the map.
-/
import ResourceInliner.Proofs.Json.Entries
import ResourceInliner.Proofs.Text.Percent
import ResourceInliner.Query

namespace ResourceInliner.Query

/-! ## Settings -/

/-- one value: a boolean, or a text that is neither of the two words for one -/
inductive Scalar where
  | flag (value : Bool)
  | text (value : String) (noFlag : value ≠ "true" ∧ value ≠ "false")

/-- the word for a value -/
def Scalar.word : Scalar → List Char
  | .flag true => "true".toList
  | .flag false => "false".toList
  | .text value _ => value.toList

/-- the value in JSON -/
def Scalar.json : Scalar → Json
  | .flag value => .bool value
  | .text value _ => .string value

/-- what a name is set to -/
inductive Setting where
  | single (value : Scalar)
  /-- a list of at least one value -/
  | list (first : Scalar) (rest : List Scalar)

/-- the setting in JSON -/
def Setting.json : Setting → Json
  | .single value => value.json
  | .list first rest => .array ((first :: rest).map Scalar.json)

/-- the brackets behind the name of a list -/
def brackets : List Char := ['[', ']']

/-- settings by name; a name that ends in the brackets of a list is that of a list -/
structure Settings where
  entries : Entries Setting
  ascending : entries.Ascending
  plain : ∀ name value, entries.get? name = some (.single value) → ¬ brackets <:+ name.toList

/-- the map in JSON -/
def Settings.json (settings : Settings) : Entries Json :=
  settings.entries.map fun entry => (entry.1, entry.2.json)

/-! ## Printing -/

/-- one value given to a name, or put at the end of its list -/
structure Assignment where
  name : String
  isItem : Bool
  value : Scalar

namespace Assignment

/-- the argument as it is printed -/
def text (a : Assignment) : List Char :=
  percentEncode a.name.toList ++ (if a.isItem then brackets else []) ++ '=' :: percentEncode a.value.word

/-- what it says -/
def argument (a : Assignment) : Argument :=
  if a.isItem then .push a.name a.value.json else .set a.name a.value.json

end Assignment

/-- the arguments for a setting, in their order -/
def Setting.assignments (name : String) : Setting → List Assignment
  | .single value => [⟨name, false, value⟩]
  | .list first rest => (first :: rest).map fun value => ⟨name, true, value⟩

/-- these are the arguments for the settings; those of one name stand in their order -/
def Settings.Interleaved (settings : Settings) (args : List Assignment) : Prop :=
  ∀ name, args.filter (fun a => a.name == name) =
    ((settings.entries.get? name).map (Setting.assignments name)).getD []

/-- characters between arguments -/
def isSeparator (c : Char) : Bool :=
  c == '&' || c == ','

/-- arguments with separators around them, of which at least one stands between two arguments -/
inductive Joined : Bool → List (List Char) → List Char → Prop where
  | done {atStart : Bool} {gap : List Char} (hgap : ∀ c ∈ gap, isSeparator c = true) : Joined atStart [] gap
  | piece {atStart : Bool} {gap piece rest : List Char} {pieces : List (List Char)}
    (hgap : ∀ c ∈ gap, isSeparator c = true) (hapart : atStart = true ∨ gap ≠ [])
    (hrest : Joined false pieces rest) : Joined atStart (piece :: pieces) (gap ++ piece ++ rest)

/-! ## Arguments in a query -/

theorem cut_append {piece : List Char} (h : ∀ c ∈ piece, isSeparator c = false) (rest : List Char) :
    ∃ first pieces, cut isSeparator rest = first :: pieces ∧
      cut isSeparator (piece ++ rest) = (piece ++ first) :: pieces := by
  induction piece with
  | nil =>
    cases rest with
    | nil => exact ⟨[], [], rfl, rfl⟩
    | cons c rest =>
      rw [List.nil_append, cut]
      split
      · exact ⟨_, _, rfl, rfl⟩
      · split <;> exact ⟨_, _, rfl, rfl⟩
  | cons c piece ih =>
    obtain ⟨first, pieces, hrest, hcut⟩ := ih fun d hd => h d (List.mem_cons_of_mem _ hd)
    refine ⟨first, pieces, hrest, ?_⟩
    rw [List.cons_append, cut, h c List.mem_cons_self, hcut]
    rfl

theorem arguments_gap {gap : List Char} (h : ∀ c ∈ gap, isSeparator c = true) (rest : List Char) :
    arguments (gap ++ rest) = arguments rest := by
  induction gap with
  | nil => rfl
  | cons c gap ih =>
    have hcut : cut isSeparator (c :: (gap ++ rest)) = [] :: cut isSeparator (gap ++ rest) := by
      rw [cut, h c List.mem_cons_self]
      rfl
    rw [← ih fun d hd => h d (List.mem_cons_of_mem _ hd)]
    exact congrArg (List.filter fun piece => !piece.isEmpty) hcut

theorem Joined.starts {pieces : List (List Char)} {text : List Char} (h : Joined false pieces text) :
    text = [] ∨ ∃ c rest, text = c :: rest ∧ isSeparator c = true := by
  cases h with
  | done hgap =>
    cases text with
    | nil => exact .inl rfl
    | cons c rest => exact .inr ⟨c, rest, rfl, hgap c List.mem_cons_self⟩
  | @piece _ gap piece rest pieces hgap hapart hrest =>
    cases gap with
    | nil => simp at hapart
    | cons c gap => exact .inr ⟨c, gap ++ piece ++ rest, rfl, hgap c List.mem_cons_self⟩

theorem arguments_piece {piece rest : List Char} (hne : piece ≠ []) (hplain : ∀ c ∈ piece, isSeparator c = false)
    (hrest : rest = [] ∨ ∃ c tail, rest = c :: tail ∧ isSeparator c = true) :
    arguments (piece ++ rest) = piece :: arguments rest := by
  obtain ⟨first, pieces, hcut, hall⟩ := cut_append hplain rest
  have hfirst : first = [] := by
    rcases hrest with rfl | ⟨c, tail, rfl, hc⟩
    · exact (List.cons.inj hcut).1.symm
    · rw [cut, hc] at hcut
      exact (List.cons.inj hcut).1.symm
  rw [hfirst] at hcut hall
  calc arguments (piece ++ rest) = ((piece ++ []) :: pieces).filter (fun p => !p.isEmpty) := by rw [← hall]; rfl
    _ = piece :: ([] :: pieces).filter (fun p => !p.isEmpty) := by simp [hne]
    _ = piece :: arguments rest := by rw [← hcut]; rfl

/-- the arguments of a query are what it was put together from -/
theorem arguments_joined {atStart : Bool} {pieces : List (List Char)} {body : List Char}
    (h : Joined atStart pieces body) (hplain : ∀ p ∈ pieces, p ≠ [] ∧ ∀ c ∈ p, isSeparator c = false) :
    arguments body = pieces := by
  induction h with
  | @done _ gap hgap =>
    rw [← List.append_nil gap, arguments_gap hgap]
    rfl
  | piece hgap hapart hrest ih =>
    obtain ⟨hne, hp⟩ := hplain _ List.mem_cons_self
    rw [List.append_assoc, arguments_gap hgap, arguments_piece hne hp hrest.starts,
      ih fun p hp => hplain p (List.mem_cons_of_mem _ hp)]

/-- the characters of a query are separators, or stand in an argument -/
theorem Joined.mem {atStart : Bool} {pieces : List (List Char)} {body : List Char} (h : Joined atStart pieces body)
    {c : Char} (hc : c ∈ body) : isSeparator c = true ∨ ∃ p ∈ pieces, c ∈ p := by
  induction h with
  | done hgap => exact .inl (hgap c hc)
  | piece hgap hapart hrest ih =>
    rcases List.mem_append.1 hc with hc | hc
    · rcases List.mem_append.1 hc with hc | hc
      · exact .inl (hgap c hc)
      · exact .inr ⟨_, List.mem_cons_self, hc⟩
    · exact (ih hc).imp_right fun ⟨p, hp, hcp⟩ => ⟨p, List.mem_cons_of_mem _ hp, hcp⟩

/-! ## Reading one argument -/

theorem not_mem_percentEncode {c : Char} (h : isUnreserved c = false) (h' : c ≠ '%') (text : List Char) :
    c ∉ percentEncode text := by
  intro hc
  rcases mem_percentEncode hc with hc | hc
  · rw [h] at hc
    cases hc
  · exact h' hc

theorem decode_percentEncode_append (text : List Char) {tail : List Char} (hplus : '+' ∉ tail)
    (hpercent : percentDecode (utf8Bytes tail) = utf8Bytes tail) :
    decode (percentEncode text ++ tail) = .ok (text ++ tail) := by
  have hsame : (percentEncode text ++ tail).map (fun c => if c = '+' then ' ' else c) = percentEncode text ++ tail := by
    refine (List.map_congr_left fun c hc => if_neg ?_).trans (List.map_id _)
    rintro rfl
    rcases List.mem_append.1 hc with hc | hc
    · exact not_mem_percentEncode (by decide) (by decide) text hc
    · exact hplus hc
  rw [decode, hsame, utf8Bytes_append, percentDecode_percentEncode, hpercent, ← utf8Bytes_append,
    decodeUtf8_utf8Bytes]

theorem decode_percentEncode (text : List Char) : decode (percentEncode text) = .ok text := by
  have hplus : '+' ∉ ([] : List Char) := List.not_mem_nil
  have h := decode_percentEncode_append text hplus rfl
  rwa [List.append_nil, List.append_nil] at h

theorem decode_listName (text : List Char) : decode (percentEncode text ++ brackets) = .ok (text ++ brackets) :=
  decode_percentEncode_append text (by decide) (by decide)

theorem splitPair_append {name : List Char} (h : '=' ∉ name) (value : List Char) :
    splitPair (name ++ '=' :: value) = some (name, value) := by
  have hname : ∀ c ∈ name, (c != '=') = true := fun c hc => by
    rw [bne_iff_ne]
    rintro rfl
    exact h hc
  rw [splitPair, if_pos (by simp), List.takeWhile_append_of_pos hname, List.dropWhile_append_of_pos hname]
  simp

theorem listName?_append (name : List Char) : listName? (name ++ brackets) = some name := by
  simp [listName?, brackets]

theorem listName?_eq_none {name : List Char} (h : ¬ brackets <:+ name) : listName? name = none := by
  rw [listName?]
  split
  · rename_i rest hrest
    refine absurd ⟨rest.reverse, ?_⟩ h
    rw [← List.reverse_reverse name, hrest]
    simp [brackets]
  · rfl

/-- the words of the booleans are read as these, all other texts as texts -/
theorem typed_word (value : Scalar) : typed value.word = value.json := by
  cases value with
  | flag value => cases value <;> rfl
  | text value noFlag =>
    have hne : ∀ word : String, value ≠ word → ¬ value.toList = word.toList :=
      fun word hword h => hword (String.toList_inj.1 h)
    rw [typed, Scalar.word, if_neg (hne _ noFlag.1), if_neg (hne _ noFlag.2), String.ofList_toList]
    rfl

/-- a printed argument is read as what it says -/
theorem readArgument_text {a : Assignment} (h : a.isItem = false → ¬ brackets <:+ a.name.toList) :
    readArgument a.text = .ok a.argument := by
  obtain ⟨name, isItem, value⟩ := a
  have hequals : '=' ∉ percentEncode name.toList ++ (if isItem then brackets else []) := by
    rw [List.mem_append, not_or]
    exact ⟨not_mem_percentEncode (by decide) (by decide) _, by cases isItem <;> decide⟩
  rw [readArgument, Assignment.text, splitPair_append hequals]
  cases isItem with
  | true =>
    simp only [reduceIte, decode_listName, decode_percentEncode, bind, Except.bind, pure, Except.pure,
      listName?_append, String.ofList_toList, typed_word]
    rfl
  | false =>
    simp only [Bool.false_eq_true, reduceIte, List.append_nil, decode_percentEncode, bind, Except.bind, pure,
      Except.pure, listName?_eq_none (h rfl), String.ofList_toList, typed_word]
    rfl

theorem mapM_readArgument {args : List Assignment}
    (h : ∀ a ∈ args, a.isItem = false → ¬ brackets <:+ a.name.toList) :
    (args.map Assignment.text).mapM readArgument = .ok (args.map Assignment.argument) := by
  induction args with
  | nil => rfl
  | cons a args ih =>
    rw [List.map_cons, List.mapM_cons, readArgument_text (h a List.mem_cons_self),
      ih fun b hb => h b (List.mem_cons_of_mem _ hb)]
    rfl

/-- the characters of an argument -/
theorem Assignment.mem_text {a : Assignment} {c : Char} (h : c ∈ a.text) :
    isUnreserved c = true ∨ c ∈ ['%', '[', ']', '='] := by
  have hencoded : ∀ text : List Char, c ∈ percentEncode text → isUnreserved c = true ∨ c ∈ ['%', '[', ']', '='] :=
    fun text hc => (mem_percentEncode hc).imp_right fun hc => by simp [hc]
  rw [Assignment.text, List.mem_append, List.mem_append, List.mem_cons] at h
  rcases h with (h | h) | rfl | h
  · exact hencoded _ h
  · split at h
    · exact .inr (by rw [brackets] at h; simp at h ⊢; tauto)
    · cases h
  · exact .inr (by simp)
  · exact hencoded _ h

theorem Assignment.text_ne_nil (a : Assignment) : a.text ≠ [] := by
  simp [text]

theorem Assignment.text_plain (a : Assignment) : ∀ c ∈ a.text, isSeparator c = false := by
  intro c hc
  refine Bool.eq_false_iff.2 fun hseparator => ?_
  rw [isSeparator, Bool.or_eq_true, beq_iff_eq, beq_iff_eq] at hseparator
  have := a.mem_text hc
  rcases hseparator with rfl | rfl <;> revert this <;> decide

/-! ## What a list of arguments sets -/

/-- the name that an argument is about -/
def Argument.name : Argument → String
  | .set name _ | .push name _ => name

/-- what a name holds after an argument, if it held this before -/
def Argument.onto (old : Option Json) : Argument → Json
  | .set _ value => value
  | .push _ value =>
    match old with
    | some (.array items) => .array (items ++ [value])
    | _ => .array [value]

/-- an argument sets its name to what that holds after it -/
theorem Argument.apply_eq (entries : Entries Json) (a : Argument) :
    a.apply entries = entries.set a.name (a.onto (entries.get? a.name)) := by
  cases a with
  | set name value => rfl
  | push name value =>
    simp only [apply, Argument.name, onto]
    cases entries.get? name with
    | none => rfl
    | some old => cases old <;> rfl

theorem get?_apply (entries : Entries Json) (a : Argument) (name : String) :
    (a.apply entries).get? name = if a.name = name then some (a.onto (entries.get? name)) else entries.get? name := by
  rw [Argument.apply_eq, Entries.get?_set]
  split
  · rename_i h
    rw [h]
  · rfl

/-- what a name holds after some arguments depends on those about it -/
theorem get?_foldl (args : List Argument) (entries : Entries Json) (name : String) :
    (args.foldl Argument.apply entries).get? name =
      (args.filter fun a => a.name == name).foldl (fun old a => some (a.onto old)) (entries.get? name) := by
  induction args generalizing entries with
  | nil => rfl
  | cons a args ih =>
    rw [List.foldl_cons, ih, get?_apply]
    by_cases h : a.name = name
    · rw [if_pos h, List.filter_cons_of_pos (by simpa using h), List.foldl_cons]
    · rw [if_neg h, List.filter_cons_of_neg (by simpa using h)]

theorem ascending_foldl (args : List Argument) {entries : Entries Json} (h : entries.Ascending) :
    (args.foldl Argument.apply entries).Ascending := by
  induction args generalizing entries with
  | nil => exact h
  | cons a args ih =>
    rw [List.foldl_cons, Argument.apply_eq]
    exact ih (h.set _ _)

theorem foldl_items (name : String) (values : List Scalar) (items : List Json) :
    ((values.map fun value => Assignment.mk name true value).map Assignment.argument).foldl
        (fun old a => some (Argument.onto old a)) (some (.array items)) =
      some (.array (items ++ values.map Scalar.json)) := by
  induction values generalizing items with
  | nil => rw [List.map_nil, List.map_nil, List.map_nil, List.append_nil]; rfl
  | cons value values ih =>
    rw [List.map_cons, List.map_cons, List.foldl_cons]
    refine (ih (items ++ [value.json])).trans ?_
    rw [List.append_assoc]
    rfl

/-- the arguments for a setting set its name to it -/
theorem foldl_assignments (name : String) (setting : Setting) :
    ((setting.assignments name).map Assignment.argument).foldl (fun old a => some (Argument.onto old a)) none =
      some setting.json := by
  cases setting with
  | single value => rfl
  | list first rest => exact foldl_items name rest [first.json]

/-! ## Reading the whole query -/

section

variable {settings : Settings} {args : List Assignment}

theorem Settings.Interleaved.plain (h : settings.Interleaved args) {a : Assignment} (ha : a ∈ args)
    (hsingle : a.isItem = false) : ¬ brackets <:+ a.name.toList := by
  have hmem : a ∈ args.filter fun b => b.name == a.name := List.mem_filter.2 ⟨ha, by simp⟩
  rw [h] at hmem
  cases hget : settings.entries.get? a.name with
  | none =>
    rw [hget] at hmem
    cases hmem
  | some setting =>
    rw [hget] at hmem
    cases setting with
    | single value => exact settings.plain a.name value hget
    | list first rest =>
      obtain ⟨value, -, hvalue⟩ := List.mem_map.1 hmem
      rw [← hvalue] at hsingle
      cases hsingle

theorem get?_map_json (entries : Entries Setting) (name : String) :
    Entries.get? (entries.map fun entry => (entry.1, entry.2.json)) name = (entries.get? name).map Setting.json := by
  induction entries with
  | nil => rfl
  | cons entry rest ih =>
    rw [List.map_cons, Entries.get?_cons, Entries.get?_cons, ih]
    split <;> rfl

/-- the arguments of a map set every name to what the map has for it -/
theorem foldl_interleaved (h : settings.Interleaved args) :
    (args.map Assignment.argument).foldl Argument.apply [] = settings.json := by
  have hascending : Entries.Ascending settings.json := List.pairwise_map.2 settings.ascending
  refine (ascending_foldl _ List.Pairwise.nil).ext hascending fun name => ?_
  have hname : ∀ a : Assignment, a.argument.name = a.name := fun a => by
    rw [Assignment.argument]
    split <;> rfl
  have hfilter : (args.map Assignment.argument).filter (fun a => a.name == name) =
      (args.filter fun a => a.name == name).map Assignment.argument := by
    rw [List.filter_map]
    simp only [Function.comp_def, hname]
  rw [get?_foldl, hfilter, h, Settings.json, get?_map_json]
  cases settings.entries.get? name with
  | none => rfl
  | some setting => exact foldl_assignments name setting

/-- **Main result.** Settings printed as a query are read as exactly these settings. -/
theorem parse_joined {body : List Char} (hargs : settings.Interleaved args)
    (hbody : Joined true (args.map Assignment.text) body) :
    parse (String.ofList ('?' :: body)) = .ok settings.json := by
  have hbrace : '{' ∉ body := fun hc => by
    rcases hbody.mem hc with hc | ⟨p, hp, hc⟩
    · revert hc
      decide
    · obtain ⟨a, -, rfl⟩ := List.mem_map.1 hp
      have := a.mem_text hc
      revert this
      decide
  have hjson : isJson body = false := by
    cases body with
    | nil => rfl
    | cons c body =>
      have hc : c ≠ '{' := fun hc => hbrace (by simp [hc])
      simp [isJson, hc]
  have hpieces : arguments body = args.map Assignment.text := arguments_joined hbody fun p hp => by
    obtain ⟨a, -, rfl⟩ := List.mem_map.1 hp
    exact ⟨a.text_ne_nil, a.text_plain⟩
  have hread := mapM_readArgument fun a ha hsingle => hargs.plain ha hsingle
  rw [parse, String.toList_ofList]
  simp only [parseBody, hjson, parseArguments, hpieces, hread, Bool.false_eq_true, reduceIte, bind, Except.bind, pure,
    Except.pure, foldl_interleaved hargs]
  rfl

end

/-- a list and a text, with characters that have to be encoded -/
def sampleSettings : Settings where
  entries := [("a b", .list (.text "x,y" (by decide)) [.flag true]), ("é", .single (.text "ü&" (by decide)))]
  ascending := by decide
  plain := by
    intro name value h
    rw [Entries.get?_cons, Entries.get?_cons] at h
    split at h
    · cases h
    · split at h
      · rename_i hname
        rw [← hname]
        decide
      · cases h

/-- their arguments, with the list taken apart -/
def sampleArguments : List Assignment :=
  [⟨"a b", true, .text "x,y" (by decide)⟩, ⟨"é", false, .text "ü&" (by decide)⟩, ⟨"a b", true, .flag true⟩]

theorem parse_joined_sample : sampleSettings.Interleaved sampleArguments ∧
    Joined true (sampleArguments.map Assignment.text) ",a%20b[]=x%2Cy&,%C3%A9=%C3%BC%26,a%20b[]=true&".toList ∧
    parse "?,a%20b[]=x%2Cy&,%C3%A9=%C3%BC%26,a%20b[]=true&" =
      .ok [("a b", .array [.string "x,y", .bool true]), ("é", .string "ü&")] := by
  have hargs : sampleSettings.Interleaved sampleArguments := by
    intro name
    by_cases hlist : "a b" = name
    · subst hlist
      rfl
    · by_cases htext : "é" = name
      · subst htext
        rfl
      · simp [sampleArguments, sampleSettings, hlist, htext, Entries.get?]
  have hcomma : ∀ c ∈ [','], isSeparator c = true := List.forall_mem_singleton.2 rfl
  have hampersand : ∀ c ∈ ['&'], isSeparator c = true := List.forall_mem_singleton.2 rfl
  have hboth : ∀ c ∈ ['&', ','], isSeparator c = true := List.forall_mem_cons.2 ⟨rfl, hcomma⟩
  have hbody : Joined true (sampleArguments.map Assignment.text)
      (",a%20b[]=x%2Cy&,%C3%A9=%C3%BC%26,a%20b[]=true&".toList) :=
    .piece hcomma (.inl rfl) <| .piece hboth (.inr (List.cons_ne_nil _ _)) <|
      .piece hcomma (.inr (List.cons_ne_nil _ _)) <| .done hampersand
  exact ⟨hargs, hbody, parse_joined hargs hbody⟩

end ResourceInliner.Query
