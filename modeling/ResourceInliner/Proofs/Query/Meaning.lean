/-
What a query means that is not written as an object. Each key holds what the pieces about it leave there: the values
pushed to it since it was set last, or else what it was set to.

- `Leaves`: what assignments to a key leave there. `leaves_held`: they leave that, by induction on them.
- `Swapped`: neighbours about different keys. `entriesOf_rearranged`: they may change places.
- `parse_by_pieces`: what a query comes to, in terms of its pieces.
-/
import Mathlib.Data.List.Induction
import Mathlib.Logic.Relation
import ResourceInliner.Proofs.Config.Surfaces
import ResourceInliner.Proofs.Query.Pieces

namespace ResourceInliner.Query

/-! ## What a key holds -/

/-- what the assignments about one key leave there -/
inductive Leaves : List Assignment → Option Json → Prop where
  /-- nothing names the key -/
  | absent : Leaves [] none
  /-- the key is set last -/
  | single (before : List Assignment) {last : Assignment} (hlast : last.isItem = false) :
    Leaves (before ++ [last]) (some last.value.json)
  /-- values are pushed after the key is set last, or without the key being set at all -/
  | list {before items : List Assignment} (hbefore : ∀ last, before.getLast? = some last → last.isItem = false)
    (hitems : ∀ a ∈ items, a.isItem = true) (hsome : items ≠ []) :
    Leaves (before ++ items) (some (.array (items.map fun a => a.value.json)))

/-- what a key holds after assignments to it -/
def held (args : List Assignment) : Option Json :=
  (args.map Assignment.argument).foldl (fun old a => some (Argument.onto old a)) none

theorem held_concat (args : List Assignment) (a : Assignment) :
    held (args ++ [a]) = some (a.argument.onto (held args)) := by
  rw [held, List.map_append, List.foldl_append]
  rfl

theorem held_of_set (args : List Assignment) {a : Assignment} (ha : a.isItem = false) :
    held (args ++ [a]) = some a.value.json := by
  rw [held_concat, Assignment.argument, ha]
  rfl

theorem onto_push (old : Option Json) {a : Assignment} (ha : a.isItem = true) :
    a.argument.onto old = match old with
      | some (.array items) => .array (items ++ [a.value.json])
      | _ => .array [a.value.json] := by
  rw [Assignment.argument, ha]
  rfl

/-- assignments to a key leave the values pushed since the key was set last, or else what it was set to -/
theorem leaves_held (args : List Assignment) : Leaves args (held args) := by
  induction args using List.reverseRecOn with
  | nil => exact .absent
  | append_singleton args a ih =>
    cases ha : a.isItem with
    | false =>
      rw [held_of_set args ha]
      exact .single args ha
    | true =>
      rw [held_concat, onto_push _ ha]
      generalize held args = old at ih
      have hitem : ∀ b ∈ [a], b.isItem = true := List.forall_mem_singleton.2 ha
      cases ih with
      | absent => exact @Leaves.list [] [a] nofun hitem (List.cons_ne_nil a [])
      | @single before last hlast =>
        have hbefore : ∀ b, (before ++ [last]).getLast? = some b → b.isItem = false := by
          intro b hb
          rw [List.getLast?_concat, Option.some.injEq] at hb
          rw [← hb, hlast]
        have hscalar : (match some last.value.json with
            | some (.array items) => Json.array (items ++ [a.value.json])
            | _ => Json.array [a.value.json]) = .array [a.value.json] := by
          cases last.value <;> rfl
        rw [hscalar]
        exact .list hbefore hitem (List.cons_ne_nil a [])
      | @list before items hbefore hitems hsome =>
        have hall : ∀ b ∈ items ++ [a], b.isItem = true := List.forall_mem_append.2 ⟨hitems, hitem⟩
        have hlist := Leaves.list hbefore hall (List.append_ne_nil_of_left_ne_nil hsome [a])
        rw [List.map_append, ← List.append_assoc] at hlist
        exact hlist

/-- the assignments about a key, in their order -/
def about (key : String) (args : List Assignment) : List Assignment :=
  args.filter fun a => a.name == key

theorem about_append (key : String) (a b : List Assignment) : about key (a ++ b) = about key a ++ about key b :=
  List.filter_append ..

/-- a key holds what the assignments about it leave -/
theorem get?_assigned (args : List Assignment) (key : String) :
    ((args.map Assignment.argument).foldl Argument.apply []).get? key = held (about key args) := by
  have hname : ∀ a : Assignment, a.argument.name = a.name := fun a => by
    rw [Assignment.argument]
    split <;> rfl
  rw [get?_foldl, List.filter_map, held, about]
  simp only [Function.comp_def, hname]
  rfl

/-! ## Pieces in another order -/

/-- two neighbours that do not say something about the same key change places -/
inductive Swapped : List (List Char) → List (List Char) → Prop where
  | intro {before after : List (List Char)} {p q : List Char}
    (hkeys : ∀ a b, Says p a → Says q b → a.name ≠ b.name) :
    Swapped (before ++ p :: q :: after) (before ++ q :: p :: after)

/-- assignments are known by those about each key -/
theorem foldl_eq_of_about {args others : List Assignment} (h : ∀ key, about key args = about key others) :
    (args.map Assignment.argument).foldl Argument.apply [] =
      (others.map Assignment.argument).foldl Argument.apply [] := by
  refine (ascending_foldl _ List.Pairwise.nil).ext (ascending_foldl _ List.Pairwise.nil) fun key => ?_
  rw [get?_assigned, get?_assigned, h]

theorem Swapped.symm {ps qs : List (List Char)} (h : Swapped ps qs) : Swapped qs ps := by
  cases h with
  | intro hkeys => exact .intro fun a b ha hb => (hkeys b a hb ha).symm

/-- **Step.** Two neighbours about different keys may change places. -/
theorem Swapped.entriesOf {ps qs : List (List Char)} {entries : Entries Json} (h : Swapped ps qs)
    (hread : entriesOf ps = .ok entries) : entriesOf qs = .ok entries := by
  cases h with
  | @intro before after p q hkeys =>
    obtain ⟨args, hall, hentries⟩ := entriesOf_eq_ok_iff.1 hread
    obtain ⟨front, back, rfl, hfront, hback⟩ := forall₂_append_left hall
    cases hback with
    | @cons _ a _ _ ha hback =>
      cases hback with
      | @cons _ b _ back hb hback =>
        refine entriesOf_eq_ok_iff.2 ⟨front ++ b :: a :: back, List.rel_append hfront (.cons hb (.cons ha hback)), ?_⟩
        rw [← hentries]
        refine foldl_eq_of_about fun key => ?_
        have hne := hkeys a b ha hb
        rw [about_append, about_append]
        congr 1
        by_cases hak : a.name = key
        · have hbk : b.name ≠ key := fun hbk => hne (hak.trans hbk.symm)
          simp [about, hak, hbk]
        · simp [about, List.filter_cons, hak]

/-- **Run.** Pieces may be brought into any order that keeps the order of those about one key. -/
theorem entriesOf_rearranged {ps qs : List (List Char)} (h : Relation.ReflTransGen Swapped ps qs)
    (entries : Entries Json) : entriesOf ps = .ok entries ↔ entriesOf qs = .ok entries := by
  induction h with
  | refl => exact Iff.rfl
  | tail _ hstep ih => exact ih.trans ⟨hstep.entriesOf, hstep.symm.entriesOf⟩

/-! ## Other separators -/

/-- a comma separates as an ampersand does -/
def asAmpersand (c : Char) : Char := if c = ',' then '&' else c

theorem pieces_asAmpersand (body : List Char) : pieces (body.map asAmpersand) = pieces body := by
  have hsplit : (body.map asAmpersand).splitOnP isSeparator = body.splitOnP isSeparator := by
    induction body with
    | nil => rfl
    | cons c rest ih =>
      have hsame : isSeparator (asAmpersand c) = isSeparator c := by
        by_cases hc : c = ','
        · rw [hc]
          rfl
        · rw [asAmpersand, if_neg hc]
      rw [List.map_cons, List.splitOnP_cons_eq_if_modifyHead, List.splitOnP_cons_eq_if_modifyHead, ih, hsame]
      split
      · rfl
      · rename_i hplain
        have hc : c ≠ ',' := by
          rintro rfl
          exact hplain rfl
        rw [asAmpersand, if_neg hc]
  rw [pieces, hsplit, pieces]

theorem asAmpersand_eq_iff {c d : Char} (hd : isSeparator d = false) : asAmpersand c = d ↔ c = d := by
  rw [asAmpersand]
  split
  · rename_i hc
    subst hc
    constructor <;> rintro rfl <;> cases hd
  · exact Iff.rfl

theorem isJson_asAmpersand (body : List Char) : isJson (body.map asAmpersand) = isJson body := by
  have hsome : ∀ (found : Option Char) (brace : Char), isSeparator brace = false →
      (found.map asAmpersand == some brace) = (found == some brace) := by
    intro found brace hbrace
    cases found with
    | none => rfl
    | some c => simp [asAmpersand_eq_iff hbrace]
  rw [isJson, isJson, List.head?_map, List.getLast?_map, hsome _ _ rfl, hsome _ _ rfl]

/-! ## The whole query -/

theorem isJson_eq_false_iff {text : String} : isJson text.toList = false ↔ ¬ Braced text := by
  rw [isJson, Braced, Bool.and_eq_false_iff, beq_eq_false_iff_ne, beq_eq_false_iff_ne]
  tauto

theorem parseBody_of_not_braced {text : String} (h : ¬ Braced text) :
    parseBody text.toList = (entriesOf (pieces text.toList)).mapError .illFormed := by
  rw [parseBody, isJson_eq_false_iff.2 h, parseArguments, arguments_eq_pieces, entriesOf]
  cases (pieces text.toList).mapM readArgument <;> rfl

theorem parse_body (text : String) :
    parse ("?" ++ text) = (parseBody text.toList).mapError (.invalidQuery ("?" ++ text)) := by
  rw [parse, String.toList_append]
  rfl

theorem parse_eq_ok_iff {text : String} (h : ¬ Braced text) {entries : Entries Json} :
    parse ("?" ++ text) = .ok entries ↔ entriesOf (pieces text.toList) = .ok entries := by
  rw [parse_body, parseBody_of_not_braced h]
  cases entriesOf (pieces text.toList) <;> simp [Except.mapError]

theorem parse_eq_error_iff {text : String} (h : ¬ Braced text) {error : ConfigError} :
    parse ("?" ++ text) = .error error ↔ ∃ fault, entriesOf (pieces text.toList) = .error fault ∧
      error = .invalidQuery ("?" ++ text) (.illFormed fault) := by
  rw [parse_body, parseBody_of_not_braced h]
  cases entriesOf (pieces text.toList) <;> simp [Except.mapError, eq_comm]

/-- the separators may be exchanged for one another -/
theorem parseBody_eq_of_asAmpersand {text other : String} (h : ¬ Braced text)
    (hsame : other.toList.map asAmpersand = text.toList.map asAmpersand) :
    parseBody other.toList = parseBody text.toList := by
  have hother : ¬ Braced other := by
    rwa [← isJson_eq_false_iff, ← isJson_asAmpersand, hsame, isJson_asAmpersand, isJson_eq_false_iff]
  have hpieces : pieces other.toList = pieces text.toList := by
    rw [← pieces_asAmpersand, hsame, pieces_asAmpersand]
  rw [parseBody_of_not_braced hother, parseBody_of_not_braced h, hpieces]

/-- **Main result.** What a query means that is not written as an object. It is refused exactly if a text in it is not
legible, for the first such text. Otherwise each piece says what it says of one key, and each key holds what the pieces
about it leave there. Pieces about different keys may change places, and the separators may be exchanged. -/
theorem parse_by_pieces (text : String) (h : ¬ Braced text) :
    let query := "?" ++ text
    let ps := pieces text.toList
    let raws := ps.flatMap rawTexts
    ((∃ error, parse query = .error error) ↔ ∃ raw ∈ raws, ¬ Legible raw) ∧
    (∀ error, parse query = .error error ↔ ∃ front bad back fault, raws = front ++ bad :: back ∧
      (∀ raw ∈ front, Legible raw) ∧ decode bad = .error fault ∧ error = .invalidQuery query (.illFormed fault)) ∧
    ((∀ raw ∈ raws, Legible raw) → ∃ args, List.Forall₂ Says ps args) ∧
    (∀ args, List.Forall₂ Says ps args → ∃ entries, parse query = .ok entries ∧ entries.Ascending ∧
      ∀ key, Leaves (about key args) (entries.get? key)) ∧
    (∀ other, ¬ Braced other → Relation.ReflTransGen Swapped ps (pieces other.toList) →
      ∀ entries, parse query = .ok entries ↔ parse ("?" ++ other) = .ok entries) ∧
    (∀ other, other.toList.map asAmpersand = text.toList.map asAmpersand →
      ∃ result : Except QueryFault (Entries Json), parse query = result.mapError (.invalidQuery query) ∧
        parse ("?" ++ other) = result.mapError (.invalidQuery ("?" ++ other))) := by
  intro query ps raws
  have hfails : (∃ error, parse query = .error error) ↔ ∃ raw ∈ raws, ¬ Legible raw := by
    simp only [query, parse_eq_error_iff h, exists_not_legible_iff, ← entriesOf_eq_error_iff, raws]
    exact ⟨fun ⟨_, fault, hfault, _⟩ => ⟨fault, hfault⟩, fun ⟨fault, hfault⟩ => ⟨_, fault, hfault, rfl⟩⟩
  refine ⟨hfails, fun error => ?_, fun hlegible => ?_, fun args hargs => ?_, fun other hother hswaps entries => ?_,
    fun other hsame => ?_⟩
  · rw [parse_eq_error_iff h]
    simp only [entriesOf_eq_error_iff]
    constructor
    · rintro ⟨fault, ⟨front, bad, back, hsplit, hfront, hbad⟩, rfl⟩
      exact ⟨front, bad, back, fault, hsplit, hfront, hbad, rfl⟩
    · rintro ⟨front, bad, back, fault, hsplit, hfront, hbad, rfl⟩
      exact ⟨fault, ⟨front, bad, back, hsplit, hfront, hbad⟩, rfl⟩
  · cases hparse : parse query with
    | error error =>
      obtain ⟨raw, hraw, hbad⟩ := hfails.1 ⟨error, hparse⟩
      exact absurd (hlegible raw hraw) hbad
    | ok entries =>
      obtain ⟨args, hargs, -⟩ := entriesOf_eq_ok_iff.1 ((parse_eq_ok_iff h).1 hparse)
      exact ⟨args, hargs⟩
  · refine ⟨_, (parse_eq_ok_iff h).2 (entriesOf_eq_ok_iff.2 ⟨args, hargs, rfl⟩),
      ascending_foldl _ List.Pairwise.nil, fun key => ?_⟩
    rw [get?_assigned]
    exact leaves_held _
  · rw [parse_eq_ok_iff h, parse_eq_ok_iff hother]
    exact entriesOf_rearranged hswaps entries
  · refine ⟨parseBody text.toList, parse_body text, ?_⟩
    rw [parse_body, parseBody_eq_of_asAmpersand h hsame]

/-- `a` is set and then pushed to, with a flag in between, and a flag with brackets is no list -/
def sampleText : String := "a=1&-b,a[]=x+y&c[],a[]=true"

def sampleAssignments : List Assignment :=
  [⟨"a", false, .text "1" (by decide)⟩, ⟨"b", false, .flag false⟩, ⟨"a", true, .text "x y" (by decide)⟩,
    ⟨"c[]", false, .flag true⟩, ⟨"a", true, .flag true⟩]

theorem sampleText_says : List.Forall₂ Says (pieces sampleText.toList) sampleAssignments := by
  have hpieces : pieces sampleText.toList =
      ["a=1".toList, "-b".toList, "a[]=x+y".toList, "c[]".toList, "a[]=true".toList] := by decide
  rw [hpieces]
  refine .cons ?_ (.cons ?_ (.cons ?_ (.cons ?_ (.cons ?_ .nil))))
  · exact @Says.sets ['a'] ['1'] _ _ (by decide) (by decide) (by decide) (by decide)
  · exact .flags (by decide) (by decide)
  · exact @Says.pushes "a[]".toList "x+y".toList _ _ (by decide) (by decide) (by decide)
  · exact .flags (by decide) (by decide)
  · exact @Says.pushes "a[]".toList "true".toList _ _ (by decide) (by decide) (by decide)

/-- what `a` is set to is gone, and the list is what is pushed to it after that -/
theorem parse_by_pieces_sample : ¬ Braced sampleText ∧ List.Forall₂ Says (pieces sampleText.toList) sampleAssignments ∧
    ∃ entries, parse ("?" ++ sampleText) = .ok entries ∧
      Leaves [⟨"a", false, .text "1" (by decide)⟩, ⟨"a", true, .text "x y" (by decide)⟩, ⟨"a", true, .flag true⟩]
        (entries.get? "a") := by
  have hbraced : ¬ Braced sampleText := isJson_eq_false_iff.1 (by decide)
  obtain ⟨entries, hparse, -, hkeys⟩ := (parse_by_pieces sampleText hbraced).2.2.2.1 _ sampleText_says
  exact ⟨hbraced, sampleText_says, entries, hparse, hkeys "a"⟩

end ResourceInliner.Query
