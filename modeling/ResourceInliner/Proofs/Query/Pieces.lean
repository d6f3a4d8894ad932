/-
The pieces of a query body, and what each of them says. A piece is a flag, or a name and a value on the two sides of an
equals sign; it says something about one key, or is refused because one of its texts is no UTF-8.

- `pieces`, `rawTexts`: the pieces, and the texts in a piece. `Legible`: a text that is read.
- `Says`: what a piece says. `readArgument_eq_ok_iff`: it is read as that.
- `entriesOf`: what pieces come to. `entriesOf_eq_ok_iff`, `entriesOf_eq_error_iff`: when they come to entries, and for
  which of their texts they are refused.
-/
import Mathlib.Data.List.Forall2
import Mathlib.Data.List.TakeDrop
import Mathlib.Data.List.TakeWhile
import ResourceInliner.Proofs.Query.RoundTrip

namespace ResourceInliner.Query

/-! ## Pieces and their texts -/

/-- the pieces of a body: what stands between two separators, if anything does -/
def pieces (body : List Char) : List (List Char) :=
  (body.splitOnP isSeparator).filter fun piece => !piece.isEmpty

/-- the text with its plus signs read as blanks and its percent signs read as bytes -/
def unescaped (raw : List Char) : List UInt8 :=
  percentDecode (utf8Bytes (raw.map fun c => if c = '+' then ' ' else c))

/-- the raw text stands for this text -/
def StandsFor (raw text : List Char) : Prop := utf8Bytes text = unescaped raw

instance (raw text : List Char) : Decidable (StandsFor raw text) := inferInstanceAs (Decidable (_ = _))

/-- the raw text stands for some text: what it is read as is UTF-8 -/
def Legible (raw : List Char) : Prop := ∃ text, StandsFor raw text

/-- a flag without its sign -/
def unsigned : List Char → List Char
  | '-' :: name => name
  | '+' :: name => name
  | name => name

/-- the raw texts of a piece in reading order: the name and the value on the two sides of the first equals sign, or only
the name of a flag -/
def rawTexts (piece : List Char) : List (List Char) :=
  match piece.span (· != '=') with
  | (name, _ :: value) => [name, value]
  | (name, []) => [unsigned name]

/-- what a piece says -/
inductive Says : List Char → Assignment → Prop where
  /-- a name is set to a value -/
  | sets {name value key : List Char} {scalar : Scalar} (hname : '=' ∉ name) (hkey : StandsFor name key)
    (hvalue : StandsFor value scalar.word) (hplain : ¬ brackets <:+ key) :
    Says (name ++ '=' :: value) ⟨String.ofList key, false, scalar⟩
  /-- a value is pushed to the list of a name -/
  | pushes {name value key : List Char} {scalar : Scalar} (hname : '=' ∉ name) (hkey : StandsFor name (key ++ brackets))
    (hvalue : StandsFor value scalar.word) : Says (name ++ '=' :: value) ⟨String.ofList key, true, scalar⟩
  /-- a name is set to true, or to false behind a minus sign; brackets are part of the name -/
  | flags {piece key : List Char} (hpiece : '=' ∉ piece) (hkey : StandsFor (unsigned piece) key) :
    Says piece ⟨String.ofList key, false, .flag (piece.head? != some '-')⟩

/-! ## Lists of results -/

theorem forall₂_append_left {α β : Type} {R : α → β → Prop} {l₁ l₂ : List α} {u : List β}
    (h : List.Forall₂ R (l₁ ++ l₂) u) : ∃ u₁ u₂, u = u₁ ++ u₂ ∧ List.Forall₂ R l₁ u₁ ∧ List.Forall₂ R l₂ u₂ := by
  induction l₁ generalizing u with
  | nil => exact ⟨[], u, rfl, .nil, h⟩
  | cons a l₁ ih =>
    cases h with
    | cons hfirst hrest =>
      obtain ⟨u₁, u₂, rfl, h₁, h₂⟩ := ih hrest
      exact ⟨_ :: u₁, u₂, rfl, .cons hfirst h₁, h₂⟩

theorem exists_of_forall₂ {α β : Type} {R : α → β → Prop} {l : List α} {u : List β} (h : List.Forall₂ R l u) {a : α}
    (ha : a ∈ l) : ∃ b, R a b := by
  induction h with
  | nil => cases ha
  | cons hfirst _ ih =>
    rcases List.mem_cons.1 ha with rfl | ha
    · exact ⟨_, hfirst⟩
    · exact ih ha

section Except

variable {ε α β : Type} {f : α → Except ε β}

theorem mapM_eq_ok_iff {l : List α} {results : List β} :
    l.mapM f = .ok results ↔ List.Forall₂ (fun a b => f a = .ok b) l results := by
  induction l generalizing results with
  | nil =>
    rw [List.forall₂_nil_left_iff, List.mapM_nil]
    simp [pure, Except.pure, eq_comm]
  | cons a l ih =>
    rw [List.forall₂_cons_left_iff, List.mapM_cons]
    cases hfirst : f a with
    | error e => simp [bind, Except.bind]
    | ok b =>
      cases hrest : l.mapM f with
      | error e => simp [bind, Except.bind, ← ih, hrest]
      | ok others => simp [bind, Except.bind, pure, Except.pure, ← ih, hrest, eq_comm]

theorem bind_pure_eq_error_iff {x : Except ε α} {g : α → β} {e : ε} :
    (x >>= fun a => pure (g a)) = .error e ↔ x = .error e := by
  cases x <;> simp [bind, Except.bind, pure, Except.pure]

/-- the first failure decides -/
theorem mapM_eq_error_iff {l : List α} {e : ε} : l.mapM f = .error e ↔
    ∃ front bad back, l = front ++ bad :: back ∧ (∀ a ∈ front, ∃ b, f a = .ok b) ∧ f bad = .error e := by
  induction l with
  | nil => simp [pure, Except.pure]
  | cons a l ih =>
    rw [List.mapM_cons]
    cases hfirst : f a with
    | error other =>
      simp only [bind, Except.bind, Except.error.injEq]
      constructor
      · rintro rfl
        exact ⟨[], a, l, rfl, by simp, hfirst⟩
      · rintro ⟨front, bad, back, hsplit, hfront, hbad⟩
        cases front with
        | nil =>
          cases hsplit
          rw [hfirst] at hbad
          exact Except.error.inj hbad
        | cons first front =>
          cases hsplit
          obtain ⟨b, hb⟩ := hfront a List.mem_cons_self
          rw [hfirst] at hb
          cases hb
    | ok b =>
      change (l.mapM f >>= fun bs => pure (b :: bs)) = .error e ↔ _
      rw [bind_pure_eq_error_iff, ih]
      constructor
      · rintro ⟨front, bad, back, rfl, hfront, hbad⟩
        exact ⟨a :: front, bad, back, rfl, List.forall_mem_cons.2 ⟨⟨b, hfirst⟩, hfront⟩, hbad⟩
      · rintro ⟨front, bad, back, hsplit, hfront, hbad⟩
        cases front with
        | nil =>
          cases hsplit
          rw [hfirst] at hbad
          cases hbad
        | cons first front =>
          cases hsplit
          exact ⟨front, bad, back, rfl, (List.forall_mem_cons.1 hfront).2, hbad⟩

end Except

/-! ## The pieces of a body -/

theorem cut_eq_splitOnP (separates : Char → Bool) (body : List Char) :
    cut separates body = body.splitOnP separates := by
  induction body with
  | nil => rfl
  | cons c rest ih =>
    rw [cut, ih, List.splitOnP_cons_eq_if_modifyHead]
    split
    · rfl
    · cases h : rest.splitOnP separates with
      | nil => exact absurd h (List.splitOnP_ne_nil _ _)
      | cons piece pieces => rfl

theorem arguments_eq_pieces (body : List Char) : arguments body = pieces body := by
  rw [pieces, ← cut_eq_splitOnP]
  rfl

/-! ## The texts of a piece -/

theorem decode_eq_ok_iff {raw text : List Char} : decode raw = .ok text ↔ StandsFor raw text :=
  decodeUtf8_eq_ok_iff

theorem legible_iff {raw : List Char} : Legible raw ↔ ∃ text, decode raw = .ok text :=
  exists_congr fun _ => decode_eq_ok_iff.symm

/-- a piece is a flag, or has a first equals sign -/
theorem piece_cases (piece : List Char) : '=' ∉ piece ∨ ∃ name value, '=' ∉ name ∧ piece = name ++ '=' :: value := by
  by_cases h : '=' ∈ piece
  · obtain ⟨name, value, hpiece, hname⟩ := List.eq_append_cons_of_mem h
    exact .inr ⟨name, value, hname, hpiece⟩
  · exact .inl h

theorem rawTexts_flag {piece : List Char} (h : '=' ∉ piece) : rawTexts piece = [unsigned piece] := by
  have hplain : ∀ c ∈ piece, (c != '=') = true := fun c hc => bne_iff_ne.2 fun heq => h (heq ▸ hc)
  rw [rawTexts, List.span_eq_takeWhile_dropWhile, List.takeWhile_eq_self_iff.2 hplain,
    List.dropWhile_eq_nil_iff.2 hplain]

theorem rawTexts_pair {name : List Char} (h : '=' ∉ name) (value : List Char) :
    rawTexts (name ++ '=' :: value) = [name, value] := by
  have hplain : ∀ c ∈ name, (c != '=') = true := fun c hc => bne_iff_ne.2 fun heq => h (heq ▸ hc)
  rw [rawTexts, List.span_eq_takeWhile_dropWhile, List.takeWhile_append_of_pos hplain,
    List.dropWhile_append_of_pos hplain]
  simp

theorem flag_eq (piece : List Char) : flag piece = (unsigned piece, piece.head? != some '-') := by
  unfold flag
  split
  · rfl
  · rfl
  · rename_i hminus _
    cases piece with
    | nil => rfl
    | cons c rest =>
      have hc : c ≠ '-' := by
        rintro rfl
        exact hminus rest rfl
      simp [unsigned, hc]

theorem readArgument_flag {piece : List Char} (h : '=' ∉ piece) :
    readArgument piece =
      (decode (unsigned piece)).map fun key => .set (String.ofList key) (.bool (piece.head? != some '-')) := by
  rw [readArgument, splitPair, if_neg h]
  simp only [flag_eq]
  cases decode (unsigned piece) <;> rfl

theorem readArgument_pair {name : List Char} (h : '=' ∉ name) (value : List Char) :
    readArgument (name ++ '=' :: value) = (do
      let key ← decode name
      let text ← decode value
      match listName? key with
      | some list => return .push (String.ofList list) (typed text)
      | none => return .set (String.ofList key) (typed text)) := by
  rewrite [readArgument, splitPair_append h]
  rfl

/-- every text is the word for one value -/
theorem exists_word (text : List Char) : ∃ scalar : Scalar, scalar.word = text := by
  by_cases htrue : text = "true".toList
  · exact ⟨.flag true, htrue.symm⟩
  · by_cases hfalse : text = "false".toList
    · exact ⟨.flag false, hfalse.symm⟩
    · refine ⟨.text (String.ofList text) ⟨?_, ?_⟩, String.toList_ofList⟩
      · rintro heq
        exact htrue (by rw [← heq, String.toList_ofList])
      · rintro heq
        exact hfalse (by rw [← heq, String.toList_ofList])

/-- a piece is read as what it says -/
theorem readArgument_eq_ok_iff {piece : List Char} {argument : Argument} :
    readArgument piece = .ok argument ↔ ∃ a, Says piece a ∧ a.argument = argument := by
  constructor
  · intro hread
    rcases piece_cases piece with hflag | ⟨name, value, hname, rfl⟩
    · rw [readArgument_flag hflag] at hread
      cases hkey : decode (unsigned piece) with
      | error fault =>
        rw [hkey] at hread
        cases hread
      | ok key =>
        rw [hkey] at hread
        cases hread
        exact ⟨_, .flags hflag (decode_eq_ok_iff.1 hkey), rfl⟩
    · rw [readArgument_pair hname] at hread
      cases hkey : decode name with
      | error fault =>
        rw [hkey] at hread
        cases hread
      | ok key =>
        cases htext : decode value with
        | error fault =>
          rw [hkey, htext] at hread
          cases hread
        | ok text =>
          obtain ⟨scalar, rfl⟩ := exists_word text
          rw [hkey, htext] at hread
          by_cases hlist : brackets <:+ key
          · obtain ⟨list, rfl⟩ := hlist
            simp only [bind, Except.bind, listName?_append, typed_word] at hread
            cases hread
            exact ⟨_, .pushes hname (decode_eq_ok_iff.1 hkey) (decode_eq_ok_iff.1 htext), rfl⟩
          · simp only [bind, Except.bind, listName?_eq_none hlist, typed_word] at hread
            cases hread
            exact ⟨_, .sets hname (decode_eq_ok_iff.1 hkey) (decode_eq_ok_iff.1 htext) hlist, rfl⟩
  · rintro ⟨a, hsays, rfl⟩
    cases hsays with
    | sets hname hkey hvalue hplain =>
      rw [readArgument_pair hname, decode_eq_ok_iff.2 hkey, decode_eq_ok_iff.2 hvalue]
      simp only [bind, Except.bind, listName?_eq_none hplain, typed_word]
      rfl
    | pushes hname hkey hvalue =>
      rw [readArgument_pair hname, decode_eq_ok_iff.2 hkey, decode_eq_ok_iff.2 hvalue]
      simp only [bind, Except.bind, listName?_append, typed_word]
      rfl
    | flags hpiece hkey =>
      rw [readArgument_flag hpiece, decode_eq_ok_iff.2 hkey]
      rfl

/-- a piece is refused for the first of its texts that is refused -/
theorem readArgument_eq_error_iff {piece : List Char} {fault : Utf8Fault} :
    readArgument piece = .error fault ↔ (rawTexts piece).mapM decode = .error fault := by
  rcases piece_cases piece with hflag | ⟨name, value, hname, rfl⟩
  · rw [readArgument_flag hflag, rawTexts_flag hflag, List.mapM_cons]
    cases decode (unsigned piece) with
    | error other => simp [Except.map, bind, Except.bind]
    | ok key => exact iff_of_false nofun nofun
  · rw [readArgument_pair hname, rawTexts_pair hname, List.mapM_cons, List.mapM_cons]
    cases decode name with
    | error other => simp [bind, Except.bind]
    | ok key =>
      cases decode value with
      | error other => simp [bind, Except.bind]
      | ok text =>
        refine iff_of_false ?_ nofun
        simp only [bind, Except.bind]
        split <;> nofun

/-! ## All pieces -/

/-- the pieces are refused for the first of their texts that is refused -/
theorem mapM_readArgument_eq_error_iff {ps : List (List Char)} {fault : Utf8Fault} :
    ps.mapM readArgument = .error fault ↔ (ps.flatMap rawTexts).mapM decode = .error fault := by
  induction ps with
  | nil => exact iff_of_false nofun nofun
  | cons piece ps ih =>
    have hpiece : ∀ other, readArgument piece = .error other ↔ (rawTexts piece).mapM decode = .error other :=
      fun other => readArgument_eq_error_iff
    rw [List.flatMap_cons, List.mapM_append, List.mapM_cons]
    cases hread : readArgument piece with
    | error other =>
      rw [(hpiece other).1 hread]
      simp [bind, Except.bind]
    | ok argument =>
      cases htexts : (rawTexts piece).mapM decode with
      | error other =>
        rw [(hpiece other).2 htexts] at hread
        cases hread
      | ok texts =>
        change (ps.mapM readArgument >>= fun others => pure (argument :: others)) = .error fault ↔
          ((ps.flatMap rawTexts).mapM decode >>= fun others => pure (texts ++ others)) = .error fault
        rw [bind_pure_eq_error_iff, bind_pure_eq_error_iff, ih]

/-- the entries that pieces come to -/
def entriesOf (ps : List (List Char)) : Except Utf8Fault (Entries Json) :=
  (ps.mapM readArgument).map fun arguments => arguments.foldl Argument.apply []

theorem entriesOf_eq_ok_iff {ps : List (List Char)} {entries : Entries Json} :
    entriesOf ps = .ok entries ↔
      ∃ args, List.Forall₂ Says ps args ∧ (args.map Assignment.argument).foldl Argument.apply [] = entries := by
  have hread : ∀ arguments, ps.mapM readArgument = .ok arguments ↔
      ∃ args, List.Forall₂ Says ps args ∧ args.map Assignment.argument = arguments := by
    intro arguments
    rw [mapM_eq_ok_iff]
    simp only [readArgument_eq_ok_iff]
    constructor
    · intro h
      induction h with
      | nil => exact ⟨[], .nil, rfl⟩
      | cons hfirst _ ih =>
        obtain ⟨a, hsays, rfl⟩ := hfirst
        obtain ⟨args, hall, rfl⟩ := ih
        exact ⟨a :: args, .cons hsays hall, rfl⟩
    · rintro ⟨args, hall, rfl⟩
      rw [List.forall₂_map_right_iff]
      exact hall.imp fun piece a hsays => ⟨a, hsays, rfl⟩
  rw [entriesOf]
  constructor
  · intro h
    cases hps : ps.mapM readArgument with
    | error fault =>
      rw [hps] at h
      cases h
    | ok arguments =>
      rw [hps] at h
      cases h
      obtain ⟨args, hall, rfl⟩ := (hread arguments).1 hps
      exact ⟨args, hall, rfl⟩
  · rintro ⟨args, hall, rfl⟩
    rw [(hread _).2 ⟨args, hall, rfl⟩]
    rfl

theorem entriesOf_eq_error_iff {ps : List (List Char)} {fault : Utf8Fault} :
    entriesOf ps = .error fault ↔ ∃ front bad back, ps.flatMap rawTexts = front ++ bad :: back ∧
      (∀ raw ∈ front, Legible raw) ∧ decode bad = .error fault := by
  simp only [legible_iff, ← mapM_eq_error_iff, ← mapM_readArgument_eq_error_iff]
  rw [entriesOf]
  cases ps.mapM readArgument <;> simp [Except.map]

theorem exists_not_legible_iff {raws : List (List Char)} : (∃ raw ∈ raws, ¬ Legible raw) ↔
    ∃ fault front bad back, raws = front ++ bad :: back ∧ (∀ raw ∈ front, Legible raw) ∧ decode bad = .error fault := by
  simp only [legible_iff, ← mapM_eq_error_iff]
  constructor
  · rintro ⟨raw, hraw, hbad⟩
    cases hall : raws.mapM decode with
    | error fault => exact ⟨fault, rfl⟩
    | ok texts =>
      obtain ⟨text, htext⟩ := exists_of_forall₂ (mapM_eq_ok_iff.1 hall) hraw
      exact absurd ⟨text, htext⟩ hbad
  · rintro ⟨fault, hfault⟩
    obtain ⟨front, bad, back, rfl, -, hbad⟩ := mapM_eq_error_iff.1 hfault
    refine ⟨bad, by simp, ?_⟩
    rintro ⟨text, htext⟩
    rw [hbad] at htext
    cases htext

end ResourceInliner.Query
