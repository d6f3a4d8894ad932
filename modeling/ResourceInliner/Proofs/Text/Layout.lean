/-
How a list of parts is written: blanks and comments around each part, exactly one comma between two parts, and one more
behind the last part if one likes.

- `Trivia`: blanks and comments. `Separated`: a list as it is written. `Followed`: what comes after one of its parts.
- `Node.StandsAt`, `Item.StandsAt`, `Property.StandsAt`: the spans of a value, an entry and a property describe a text.
- `Separated.mem`: a part of a list that stands in a source stands in it too.
-/
import ResourceInliner.Proofs.Text.Slice
import ResourceInliner.Script.Trivia
import ResourceInliner.Tree

namespace ResourceInliner

/-- blanks, line ends and comments -/
inductive Trivia : List Char → Prop where
  | none : Trivia []
  | blank {c : Char} {rest : List Char} (hc : Script.isBlank c = true ∨ Script.isLineEnd c = true)
    (hrest : Trivia rest) : Trivia (c :: rest)
  | lineComment {body rest : List Char} {stop : Char} (hbody : ∀ c ∈ body, Script.isLineEnd c = false)
    (hstop : Script.isLineEnd stop = true) (hrest : Trivia rest) : Trivia ('/' :: '/' :: body ++ stop :: rest)
  | blockComment {body rest : List Char} (hbody : ¬ ['*', '/'] <:+: body ++ ['*']) (hrest : Trivia rest) :
    Trivia ('/' :: '*' :: body ++ '*' :: '/' :: rest)

/-- a colon with blanks and comments around it -/
inductive Colon : List Char → Prop where
  | mk {before after : List Char} (hbefore : Trivia before) (hafter : Trivia after) : Colon (before ++ ':' :: after)

/-! ## Lists -/

section

variable {α : Type}

/-- what comes after a part of a list that ends at a position -/
inductive Followed (Reads : Nat → α → List Char → Prop) : Nat → List α → List Char → Prop where
  | last {pos : Nat} {gap : List Char} (hgap : Trivia gap) : Followed Reads pos [] gap
  | comma {pos : Nat} {back gap : List Char} (hback : Trivia back) (hgap : Trivia gap) :
    Followed Reads pos [] (back ++ ',' :: gap)
  | next {pos : Nat} {a : α} {rest : List α} {back front text tail : List Char} (hback : Trivia back)
    (hfront : Trivia front) (htext : Reads (pos + byteLength (back ++ ',' :: front)) a text)
    (htail : Followed Reads (pos + byteLength (back ++ ',' :: front) + byteLength text) rest tail) :
    Followed Reads pos (a :: rest) (back ++ ',' :: front ++ text ++ tail)

/-- the parts of a list, from a position on -/
inductive Separated (Reads : Nat → α → List Char → Prop) : Nat → List α → List Char → Prop where
  | empty {pos : Nat} {gap : List Char} (hgap : Trivia gap) : Separated Reads pos [] gap
  | parts {pos : Nat} {a : α} {rest : List α} {front text tail : List Char} (hfront : Trivia front)
    (htext : Reads (pos + byteLength front) a text)
    (htail : Followed Reads (pos + byteLength front + byteLength text) rest tail) :
    Separated Reads pos (a :: rest) (front ++ text ++ tail)

end

/-! ## Spans that describe a text -/

/-- an entry of an array literal covers its text; a hole has none -/
inductive Item.StandsAt : Nat → Item → List Char → Prop where
  | hole {pos : Nat} : StandsAt pos .hole []
  | entry {pos : Nat} {item : Item} {span : Span} {text : List Char} (hspan : item.span? = some span)
    (hcovers : span.Covers pos text) (htext : text ≠ []) : StandsAt pos item text

/-- the value of a property covers its text; the entries of an array stand between its brackets -/
inductive Node.StandsAt : Nat → Node → List Char → Prop where
  | array {pos : Nat} {span : Span} {items : List Item} {inner : List Char}
    (hcovers : span.Covers pos ('[' :: inner ++ [']'])) (hitems : Separated Item.StandsAt (pos + 1) items inner) :
    StandsAt pos (.array span items) ('[' :: inner ++ [']'])
  | other {pos : Nat} {node : Node} {text : List Char} (hnode : ∀ span items, node ≠ .array span items)
    (hcovers : node.span.Covers pos text) (htext : text ≠ []) : StandsAt pos node text

/-- a property covers its text; a key and its value have a colon between them -/
inductive Property.StandsAt : Nat → Property → List Char → Prop where
  | keyValue {pos : Nat} {key : Key} {value : Node} {name gap text : List Char} (hkey : key.span.Covers pos name)
    (hname : name ≠ []) (hgap : Colon gap) (hvalue : value.StandsAt (pos + byteLength name + byteLength gap) text) :
    StandsAt pos (.keyValue key value) (name ++ gap ++ text)
  | other {pos : Nat} {prop : Property} {text : List Char} (hprop : ∀ key value, prop ≠ .keyValue key value)
    (hcovers : prop.span.Covers pos text) (htext : text ≠ []) : StandsAt pos prop text

theorem Node.StandsAt.covers {pos : Nat} {node : Node} {text : List Char} (h : node.StandsAt pos text) :
    node.span.Covers pos text ∧ text ≠ [] := by
  cases h with
  | array hcovers => exact ⟨hcovers, by simp⟩
  | other _ hcovers htext => exact ⟨hcovers, htext⟩

theorem Property.StandsAt.covers {pos : Nat} {prop : Property} {text : List Char} (h : prop.StandsAt pos text) :
    prop.span.Covers pos text ∧ text ≠ [] := by
  cases h with
  | @keyValue key value name gap text hkey hname hgap hvalue =>
    have hend := hvalue.covers.1.2
    refine ⟨⟨hkey.1, ?_⟩, by simp [hname]⟩
    rw [Property.span, byteLength_append, byteLength_append]
    dsimp only
    omega
  | other _ hcovers htext => exact ⟨hcovers, htext⟩

/-! ## Parts of a source -/

/-- the text stands in the source at this position -/
def StandsIn (source : List Char) (base : UInt32) (pos : Nat) (text : List Char) : Prop :=
  ∃ before after, source = before ++ text ++ after ∧ pos = base.toNat + byteLength before

section

variable {source : List Char} {base : UInt32} {pos : Nat}

theorem StandsIn.left {a b : List Char} (h : StandsIn source base pos (a ++ b)) : StandsIn source base pos a := by
  obtain ⟨before, after, hsource, hpos⟩ := h
  exact ⟨before, b ++ after, by rw [hsource]; simp, hpos⟩

theorem StandsIn.right {a b : List Char} (h : StandsIn source base pos (a ++ b)) :
    StandsIn source base (pos + byteLength a) b := by
  obtain ⟨before, after, hsource, hpos⟩ := h
  exact ⟨before ++ a, after, by rw [hsource]; simp, by rw [byteLength_append]; omega⟩

theorem StandsIn.reads {span : Span} {text : List Char} (h : StandsIn source base pos text)
    (hcovers : span.Covers pos text) : span.Reads source base text := by
  obtain ⟨before, after, hsource, rfl⟩ := h
  exact ⟨before, after, hsource, hcovers⟩

section

variable {α : Type} {Reads : Nat → α → List Char → Prop}

theorem Followed.mem {parts : List α} {text : List Char} (h : Followed Reads pos parts text)
    (hin : StandsIn source base pos text) {a : α} (ha : a ∈ parts) :
    ∃ at_ part, Reads at_ a part ∧ StandsIn source base at_ part := by
  induction h with
  | last => cases ha
  | comma => cases ha
  | next hback hfront htext htail ih =>
    rcases List.mem_cons.1 ha with rfl | ha
    · exact ⟨_, _, htext, hin.left.right⟩
    · refine ih ?_ ha
      have hrest := hin.right
      rwa [byteLength_append, ← Nat.add_assoc] at hrest

/-- a part of a list that stands in a source stands in it -/
theorem Separated.mem {parts : List α} {text : List Char} (h : Separated Reads pos parts text)
    (hin : StandsIn source base pos text) {a : α} (ha : a ∈ parts) :
    ∃ at_ part, Reads at_ a part ∧ StandsIn source base at_ part := by
  cases h with
  | empty => cases ha
  | parts hfront htext htail =>
    rcases List.mem_cons.1 ha with rfl | ha
    · exact ⟨_, _, htext, hin.left.right⟩
    · refine htail.mem ?_ ha
      have hrest := hin.right
      rwa [byteLength_append, ← Nat.add_assoc] at hrest

end

end

end ResourceInliner
