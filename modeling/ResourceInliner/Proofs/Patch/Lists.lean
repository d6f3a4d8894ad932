/-
Editing the parts of a list in its text. If the patches of each part turn its text into one that shows what becomes of
the part, the patches of all parts turn the list into the list of what becomes of them, with the commas, blanks and
comments between them as they were.

- `Followed.step`, `Separated.step`: one part, and what comes after it.
- `Separated.edited`: the parts are changed in their places.
- `Separated.extended`: parts are put in behind the last one as well.
-/
import ResourceInliner.Proofs.Patch.Turns
import ResourceInliner.Proofs.Text.Layout

namespace ResourceInliner

/-- texts with commas between them, and one in front if parts come before -/
def joinTexts : Bool → List (List Char) → List Char
  | _, [] => []
  | false, text :: rest => text ++ joinTexts true rest
  | true, text :: rest => ',' :: ' ' :: text ++ joinTexts true rest

/-- the patches of a part turn its text into one that shows what becomes of it -/
def Rewrites {α β : Type} (source : List Char) (base : UInt32) (Reads : Nat → α → List Char → Prop)
    (Shows : β → List Char → Prop) (old : α) (new : β) (replaced inserted : List Patch) : Prop :=
  ∀ pos text, StandsIn source base pos text → Reads pos old text →
    ∃ text', Turns source base pos replaced inserted text text' ∧ Shows new text'

section

variable {source : List Char} {base : UInt32} {pos : Nat}

theorem Turns.after {r i : List Patch} {old new : List Char} (gap : List Char)
    (h : Turns source base (pos + byteLength gap) r i old new) :
    Turns source base pos r i (gap ++ old) (gap ++ new) := by
  have := Turns.append (.keep gap) h
  rwa [List.nil_append, List.nil_append] at this

/-- where a part shows the same wherever it stands, so does the list -/
theorem Followed.move {β : Type} {Shows : β → List Char → Prop} {parts : List β} {text : List Char}
    (h : Followed (fun _ => Shows) pos parts text) (pos' : Nat) : Followed (fun _ => Shows) pos' parts text := by
  induction h generalizing pos' with
  | last hgap => exact .last hgap
  | comma hback hgap => exact .comma hback hgap
  | next hback hfront htext htail ih => exact .next hback hfront htext (ih _)

section

variable {α β : Type} {Reads : Nat → α → List Char → Prop} {Shows : β → List Char → Prop} {a : α} {b : β}
  {rest : List β} {r i r' i' : List Patch} {back front part tail : List Char}

/-- a part with a comma in front, and what comes after it -/
theorem Followed.step (hback : Trivia back) (hfront : Trivia front)
    (hin : StandsIn source base pos (back ++ ',' :: front ++ part ++ tail))
    (hpart : Reads (pos + byteLength (back ++ ',' :: front)) a part) (hrow : Rewrites source base Reads Shows a b r i)
    (htail : StandsIn source base (pos + byteLength (back ++ ',' :: front) + byteLength part) tail →
      ∃ tail', Turns source base (pos + byteLength (back ++ ',' :: front) + byteLength part) r' i' tail tail' ∧
        Followed (fun _ => Shows) 0 rest tail') :
    ∃ text', Turns source base pos (r ++ r') (i ++ i') (back ++ ',' :: front ++ part ++ tail) text' ∧
      Followed (fun _ => Shows) 0 (b :: rest) text' := by
  rw [List.append_assoc] at hin ⊢
  obtain ⟨part', hturn, hshows⟩ := hrow _ _ hin.right.left hpart
  obtain ⟨tail', hturns, hlist⟩ := htail hin.right.right
  refine ⟨_, .after _ (hturn.append hturns), ?_⟩
  rw [← List.append_assoc]
  exact .next hback hfront hshows (hlist.move _)

/-- the first part, and what comes after it -/
theorem Separated.step (hfront : Trivia front) (hin : StandsIn source base pos (front ++ part ++ tail))
    (hpart : Reads (pos + byteLength front) a part) (hrow : Rewrites source base Reads Shows a b r i)
    (htail : StandsIn source base (pos + byteLength front + byteLength part) tail →
      ∃ tail', Turns source base (pos + byteLength front + byteLength part) r' i' tail tail' ∧
        Followed (fun _ => Shows) 0 rest tail') :
    ∃ text', Turns source base pos (r ++ r') (i ++ i') (front ++ part ++ tail) text' ∧
      Separated (fun _ => Shows) 0 (b :: rest) text' := by
  rw [List.append_assoc] at hin ⊢
  obtain ⟨part', hturn, hshows⟩ := hrow _ _ hin.right.left hpart
  obtain ⟨tail', hturns, hlist⟩ := htail hin.right.right
  refine ⟨_, .after _ (hturn.append hturns), ?_⟩
  rw [← List.append_assoc]
  exact .parts hfront hshows (hlist.move _)

end

section

variable {ρ α β : Type} {old : ρ → α} {new : ρ → β} {replaced inserted : ρ → List Patch}
  {Reads : Nat → α → List Char → Prop} {Shows : β → List Char → Prop} {rows : List ρ} {text : List Char}

theorem Followed.edited (h : Followed Reads pos (rows.map old) text) (hin : StandsIn source base pos text)
    (hrows : ∀ row ∈ rows, Rewrites source base Reads Shows (old row) (new row) (replaced row) (inserted row)) :
    ∃ text', Turns source base pos (rows.flatMap replaced) (rows.flatMap inserted) text text' ∧
      Followed (fun _ => Shows) 0 (rows.map new) text' := by
  induction rows generalizing pos text with
  | nil =>
    cases h with
    | last hgap => exact ⟨_, .keep _, .last hgap⟩
    | comma hback hgap => exact ⟨_, .keep _, .comma hback hgap⟩
  | cons row rows ih =>
    cases h with
    | next hback hfront hpart htail =>
      refine Followed.step hback hfront hin hpart (hrows row List.mem_cons_self) fun hrest => ?_
      exact ih htail hrest fun other hother => hrows other (List.mem_cons_of_mem _ hother)

theorem Separated.edited (h : Separated Reads pos (rows.map old) text) (hin : StandsIn source base pos text)
    (hrows : ∀ row ∈ rows, Rewrites source base Reads Shows (old row) (new row) (replaced row) (inserted row)) :
    ∃ text', Turns source base pos (rows.flatMap replaced) (rows.flatMap inserted) text text' ∧
      Separated (fun _ => Shows) 0 (rows.map new) text' := by
  cases rows with
  | nil =>
    cases h with
    | empty hgap => exact ⟨_, .keep _, .empty hgap⟩
  | cons row rows =>
    cases h with
    | parts hfront hpart htail =>
      refine Separated.step hfront hin hpart (hrows row List.mem_cons_self) fun hrest => ?_
      exact htail.edited hrest fun other hother => hrows other (List.mem_cons_of_mem _ hother)

/-! ## Parts behind the last one -/

theorem covers_insert {at_ : UInt32} (h : at_.toNat = pos) (chunks : List Chunk) :
    (Patch.insert at_ chunks).span.Covers pos [] := by
  rw [Patch.insert, Span.between_of_le (Nat.le_refl _)]
  exact ⟨h, h⟩

theorem Turns.insertAt {at_ : UInt32} (h : at_.toNat = pos) {chunks : List Chunk} {new : List Char}
    (hchunks : renderChunks source base chunks = .ok new) :
    Turns source base pos [] [Patch.insert at_ chunks] [] new :=
  .insert (covers_insert h chunks) hchunks

theorem trivia_blank : Trivia [' '] := .blank (.inl (by decide)) .none

theorem followed_joinTexts {extra : List β} {texts : List (List Char)} (hextra : List.Forall₂ Shows extra texts)
    {tail : List Char} (htail : Followed (fun _ => Shows) 0 [] tail) :
    Followed (fun _ => Shows) 0 extra (joinTexts true texts ++ tail) := by
  induction hextra with
  | nil => exact htail
  | @cons part text rest texts hshows hrest ih =>
    have hnext : Followed (fun _ => Shows) 0 (part :: rest)
        ([] ++ ',' :: [' '] ++ text ++ (joinTexts true _ ++ tail)) :=
      .next .none trivia_blank hshows (ih.move _)
    simpa [joinTexts] using hnext

theorem separated_joinTexts {extra : List β} {texts : List (List Char)} (hextra : List.Forall₂ Shows extra texts)
    {gap : List Char} (hgap : Trivia gap) : Separated (fun _ => Shows) 0 extra (gap ++ joinTexts false texts) := by
  cases hextra with
  | nil => simpa [joinTexts] using Separated.empty hgap
  | @cons part text rest texts hshows hrest =>
    have hlist := followed_joinTexts hrest (.last .none)
    have hparts : Separated (fun _ => Shows) 0 (part :: rest) (gap ++ text ++ (joinTexts true texts ++ [])) :=
      .parts hgap hshows (hlist.move _)
    simpa [joinTexts] using hparts

theorem getLast?_cons_getD {γ : Type} (f : ρ → γ) (row : ρ) (rows : List ρ) (start : γ) :
    ((row :: rows).getLast?.map f).getD start = (rows.getLast?.map f).getD (f row) := by
  rw [List.getLast?_cons]
  cases rows.getLast? <;> rfl

/-- parts put in behind those that follow, or where they would start -/
theorem Followed.extended {endOf : ρ → UInt32} (h : Followed Reads pos (rows.map old) text)
    (hin : StandsIn source base pos text)
    (hrows : ∀ row ∈ rows, Rewrites source base Reads Shows (old row) (new row) (replaced row) (inserted row))
    (hend : ∀ row ∈ rows, ∀ pos part, Reads pos (old row) part → (endOf row).toNat = pos + byteLength part)
    {start : UInt32} (hstart : start.toNat = pos) {extra : List β} {texts : List (List Char)}
    (hextra : List.Forall₂ Shows extra texts) {chunks : List Chunk}
    (hchunks : renderChunks source base chunks = .ok (joinTexts true texts)) :
    ∃ text', Turns source base pos (rows.flatMap replaced)
        (rows.flatMap inserted ++ [Patch.insert ((rows.getLast?.map endOf).getD start) chunks]) text text' ∧
      Followed (fun _ => Shows) 0 (rows.map new ++ extra) text' := by
  induction rows generalizing pos text start with
  | nil =>
    refine ⟨joinTexts true texts ++ text, .append (.insertAt hstart hchunks) (.keep text), followed_joinTexts hextra ?_⟩
    cases h with
    | last hgap => exact .last hgap
    | comma hback hgap => exact .comma hback hgap
  | cons row rows ih =>
    cases h with
    | next hback hfront hpart htail =>
      rw [getLast?_cons_getD, List.flatMap_cons, List.flatMap_cons, List.append_assoc (inserted row)]
      refine Followed.step hback hfront hin hpart (hrows row List.mem_cons_self) fun hrest => ?_
      exact ih htail hrest (fun other hother => hrows other (List.mem_cons_of_mem _ hother))
        (fun other hother => hend other (List.mem_cons_of_mem _ hother)) (hend row List.mem_cons_self _ _ hpart)

theorem Separated.extended {endOf : ρ → UInt32} (h : Separated Reads pos (rows.map old) text)
    (hin : StandsIn source base pos text)
    (hrows : ∀ row ∈ rows, Rewrites source base Reads Shows (old row) (new row) (replaced row) (inserted row))
    (hend : ∀ row ∈ rows, ∀ pos part, Reads pos (old row) part → (endOf row).toNat = pos + byteLength part)
    {stop : UInt32} (hstop : stop.toNat = pos + byteLength text) {extra : List β} {texts : List (List Char)}
    (hextra : List.Forall₂ Shows extra texts) {chunks : List Chunk}
    (hchunks : renderChunks source base chunks = .ok (joinTexts (!rows.isEmpty) texts)) :
    ∃ text', Turns source base pos (rows.flatMap replaced)
        (rows.flatMap inserted ++ [Patch.insert ((rows.getLast?.map endOf).getD stop) chunks]) text text' ∧
      Separated (fun _ => Shows) 0 (rows.map new ++ extra) text' := by
  cases rows with
  | nil =>
    cases h with
    | empty hgap =>
      refine ⟨_, ?_, separated_joinTexts hextra hgap⟩
      have hturns := Turns.after text (.insertAt hstop hchunks)
      rw [List.append_nil] at hturns
      exact hturns
  | cons row rows =>
    cases h with
    | parts hfront hpart htail =>
      rw [getLast?_cons_getD, List.flatMap_cons, List.flatMap_cons, List.append_assoc (inserted row)]
      refine Separated.step hfront hin hpart (hrows row List.mem_cons_self) fun hrest => ?_
      exact htail.extended hrest (fun other hother => hrows other (List.mem_cons_of_mem _ hother))
        (fun other hother => hend other (List.mem_cons_of_mem _ hother)) (hend row List.mem_cons_self _ _ hpart) hextra
        hchunks

end

end

end ResourceInliner
