/-
A path written between quotes and read back. A string literal stands for a sequence of 16-bit units and ends at the first
quote that is not escaped.

- `utf16`: the units of a text. `utf16_injective`: they determine it.
- `readLiteral`: the string literal at the start of a text, and the text after it.
- `readBody_escapeChar`: each character is read back from its escaped form.
- `readLiteral_quoted`: a quoted path is read back as the module that the path names.
- `requireCall_read_back`: so are the printed reference and the one in the tree, and they agree.
-/
import Mathlib.Tactic.SplitIfs
import ResourceInliner.Metadata
import ResourceInliner.Script.Escape

namespace ResourceInliner.Path

/-! ## Units -/

/-- the 16-bit units of a code point, a surrogate pair for one that does not fit in one unit -/
def units (point : Nat) : List UInt16 :=
  if point < 0x10000 then [.ofNat point]
  else [.ofNat (0xD800 + (point - 0x10000) / 0x400), .ofNat (0xDC00 + (point - 0x10000) % 0x400)]

/-- the 16-bit units of a text -/
def utf16 (text : List Char) : List UInt16 :=
  text.flatMap fun c => units c.toNat

/-- a unit that is no surrogate, or one of each half -/
theorem units_char (c : Char) :
    (∃ unit, units c.toNat = [unit] ∧ unit.toNat = c.toNat ∧ (unit.toNat < 0xD800 ∨ 0xDFFF < unit.toNat)) ∨
    (∃ lead trail, units c.toNat = [lead, trail] ∧ 0xD800 ≤ lead.toNat ∧ lead.toNat ≤ 0xDBFF ∧ 0xDC00 ≤ trail.toNat ∧
      c.toNat = 0x10000 + (lead.toNat - 0xD800) * 0x400 + (trail.toNat - 0xDC00)) := by
  have hvalid : c.toNat < 0xD800 ∨ 0xDFFF < c.toNat ∧ c.toNat < 0x110000 := c.valid
  by_cases hsmall : c.toNat < 0x10000
  · refine .inl ⟨_, if_pos hsmall, ?_⟩
    simp only [UInt16.toNat_ofNat']
    omega
  · refine .inr ⟨_, _, if_neg hsmall, ?_⟩
    simp only [UInt16.toNat_ofNat']
    omega

/-- the units of a text determine its first character -/
theorem units_append_inj {a b : Char} {s t : List UInt16} (h : units a.toNat ++ s = units b.toNat ++ t) :
    a = b ∧ s = t := by
  have hof : ∀ {m n : Nat}, m = n → a.toNat = m → b.toNat = n → a = b := by
    intro m n hmn ha hb
    exact Char.toNat_inj.1 (ha.trans (hmn.trans hb.symm))
  rcases units_char a with ⟨u, ha, hu, husur⟩ | ⟨lead, trail, ha, hlead, hlead', -, hpoint⟩
  · rcases units_char b with ⟨v, hb, hv, -⟩ | ⟨lead', trail', hb, hlo, hhi, -, -⟩
    · rw [ha, hb] at h
      obtain ⟨rfl, rfl⟩ : u = v ∧ s = t := by simpa using h
      exact ⟨hof rfl hu.symm hv.symm, rfl⟩
    · rw [ha, hb] at h
      obtain ⟨rfl, -⟩ : u = lead' ∧ s = trail' :: t := by simpa using h
      omega
  · rcases units_char b with ⟨v, hb, -, hvsur⟩ | ⟨lead', trail', hb, -, -, -, hpoint'⟩
    · rw [ha, hb] at h
      obtain ⟨rfl, -⟩ : lead = v ∧ trail :: s = t := by simpa using h
      omega
    · rw [ha, hb] at h
      obtain ⟨rfl, rfl, rfl⟩ : lead = lead' ∧ trail = trail' ∧ s = t := by simpa using h
      exact ⟨hof rfl hpoint hpoint', rfl⟩

theorem units_ne_nil (point : Nat) : units point ≠ [] := by
  unfold units
  split <;> simp

/-- different texts have different units -/
theorem utf16_injective {a b : List Char} (h : utf16 a = utf16 b) : a = b := by
  induction a generalizing b with
  | nil =>
    cases b with
    | nil => rfl
    | cons d b =>
      have hnil : units d.toNat ++ utf16 b = [] := h.symm
      exact absurd (List.append_eq_nil_iff.1 hnil).1 (units_ne_nil d.toNat)
  | cons c a ih =>
    cases b with
    | nil =>
      have hnil : units c.toNat ++ utf16 a = [] := h
      exact absurd (List.append_eq_nil_iff.1 hnil).1 (units_ne_nil c.toNat)
    | cons d b =>
      obtain ⟨rfl, hrest⟩ : c = d ∧ utf16 a = utf16 b := units_append_inj h
      rw [ih hrest]

/-! ## String literals -/

/-- where a reader stands in a string literal -/
inductive Mode where
  | plain
  /-- after a backslash -/
  | escape
  /-- after an escaped carriage return; a line feed belongs to it -/
  | carriage
  /-- after an escaped zero; no digit may follow -/
  | zero
  /-- in an escape of a fixed length: the number of digits still to come, and the value of those read -/
  | hex (missing value : Nat)
  /-- after an escaped `u` -/
  | unicode
  /-- in an escape in braces: the value, once a digit was read -/
  | braced (value : Option Nat)
  deriving DecidableEq, Repr

/-- can the literal end here? -/
def Mode.closes : Mode → Bool
  | .plain | .carriage | .zero => true
  | _ => false

/-- the character that a single letter stands for after a backslash -/
def singleEscape? (c : Char) : Option Nat :=
  if c = 'b' then some 0x08
  else if c = 't' then some 0x09
  else if c = 'n' then some 0x0A
  else if c = 'v' then some 0x0B
  else if c = 'f' then some 0x0C
  else if c = 'r' then some 0x0D
  else none

/-- a character that is not escaped -/
def stepPlain (c : Char) : Option (Mode × List UInt16) :=
  if c = '\\' then some (.escape, [])
  else if c = '\n' ∨ c = '\r' then none
  else some (.plain, units c.toNat)

/-- the character after a backslash: a line that is continued, an escape sequence, or the character itself -/
def stepEscape (c : Char) : Option (Mode × List UInt16) :=
  if c = '\r' then some (.carriage, [])
  else if c = '\n' ∨ c = '\u2028' ∨ c = '\u2029' then some (.plain, [])
  else if c = 'x' then some (.hex 2 0, [])
  else if c = 'u' then some (.unicode, [])
  else if c = '0' then some (.zero, units 0)
  else if c.isDigit then none
  else some (.plain, units ((singleEscape? c).getD c.toNat))

/-- a digit of an escape of a fixed length -/
def stepHex (missing value : Nat) (c : Char) : Option (Mode × List UInt16) :=
  (Script.hexDigit? c).map fun digit =>
    if missing ≤ 1 then (.plain, units (16 * value + digit)) else (.hex (missing - 1) (16 * value + digit), [])

/-- a digit of an escape in braces, or the brace at its end; the value stays in the code space -/
def stepBraced (value : Option Nat) (c : Char) : Option (Mode × List UInt16) :=
  if c = '}' then value.map fun point => (.plain, units point)
  else do
    let digit ← Script.hexDigit? c
    let point := 16 * value.getD 0 + digit
    if point ≤ 0x10FFFF then some (.braced (some point), []) else none

/-- one character of a literal: where the reader stands after it, and the units that it completes -/
def step : Mode → Char → Option (Mode × List UInt16)
  | .plain, c => stepPlain c
  | .escape, c => stepEscape c
  | .carriage, c => if c = '\n' then some (.plain, []) else stepPlain c
  | .zero, c => if c.isDigit then none else stepPlain c
  | .hex missing value, c => stepHex missing value c
  | .unicode, c => if c = '\x7b' then some (.braced none, []) else stepHex 4 0 c
  | .braced value, c => stepBraced value c

/-- the rest of a literal up to its quote, and the text after that -/
def readBody (quote : Char) : Mode → List Char → Option (List UInt16 × List Char)
  | _, [] => none
  | mode, c :: rest =>
    if mode.closes ∧ c = quote then some ([], rest)
    else do
      let (next, value) ← step mode c
      let (more, after) ← readBody quote next rest
      return (value ++ more, after)

/-- the string literal at the start of a text, as the units it stands for, and the text after it; `none` if the text
does not start with a literal that is well formed and closed -/
def readLiteral : List Char → Option (List UInt16 × List Char)
  | quote :: rest => if quote = '\'' ∨ quote = '"' then readBody quote .plain rest else none
  | [] => none

example : readLiteral "'\\x41\\u0042\\u\x7b43\x7d\\\n\\'\\0' + d".toList =
    some (utf16 "ABC'\x00".toList, " + d".toList) := by decide

example : readLiteral "'a\nb'".toList = none ∧ readLiteral "'\\01'".toList = none ∧ readLiteral "'a\\'".toList = none := by
  decide

/-- characters of a literal before its quote: where the reader stands after them, and the units that they complete -/
def pass (quote : Char) : Mode → List Char → Option (Mode × List UInt16)
  | mode, [] => some (mode, [])
  | mode, c :: rest =>
    if mode.closes ∧ c = quote then none
    else do
      let (next, value) ← step mode c
      let (last, more) ← pass quote next rest
      return (last, value ++ more)

theorem pass_cons {quote c : Char} {mode next last : Mode} {rest : List Char} {value more : List UInt16}
    (hopen : ¬ (mode.closes ∧ c = quote)) (hstep : step mode c = some (next, value))
    (hrest : pass quote next rest = some (last, more)) : pass quote mode (c :: rest) = some (last, value ++ more) := by
  simp only [pass, hopen, if_false, hstep, hrest, bind, Option.bind_some, pure]

/-- a reader that passes some characters goes on behind them -/
theorem readBody_append {quote : Char} {text : List Char} {mode last : Mode} {value : List UInt16}
    (h : pass quote mode text = some (last, value)) (rest : List Char) :
    readBody quote mode (text ++ rest) =
      (readBody quote last rest).map fun read => (value ++ read.1, read.2) := by
  induction text generalizing mode value with
  | nil =>
    obtain ⟨rfl, rfl⟩ : mode = last ∧ [] = value := by simpa [pass] using h
    cases hread : readBody quote mode rest <;> simp [hread]
  | cons c text ih =>
    unfold pass at h
    split at h
    · cases h
    · rename_i hopen
      obtain ⟨⟨next, first⟩, hstep, hrest⟩ := Option.bind_eq_some_iff.1 h
      obtain ⟨⟨last', more⟩, hmore, hpair⟩ := Option.bind_eq_some_iff.1 hrest
      obtain ⟨rfl, rfl⟩ : last' = last ∧ first ++ more = value := by simpa using hpair
      rw [List.cons_append, readBody, if_neg hopen, hstep]
      simp only [bind, Option.bind_some, ih hmore]
      cases readBody quote last' rest <;> simp [pure]

/-! ## Escaped characters -/

/-- **Step lemma.** Between single quotes, an escaped character stands for the character. The literal does not end in it,
and no escape is left open behind it. -/
theorem pass_escapeChar (c : Char) : pass '\'' .plain (escapeChar c) = some (.plain, units c.toNat) := by
  unfold escapeChar
  split_ifs with hmark hline hreturn hseparator hparagraph
  · rcases hmark with rfl | rfl | rfl <;> decide
  · subst hline; decide
  · subst hreturn; decide
  · subst hseparator; decide
  · subst hparagraph; decide
  · rw [not_or, not_or] at hmark
    have hstep : step .plain c = some (.plain, units c.toNat) := by
      simp [step, stepPlain, hmark.2.2, hline, hreturn]
    have hpass : pass '\'' .plain [c] = some (.plain, units c.toNat ++ []) :=
      pass_cons (by simp [hmark.2.1]) hstep rfl
    rwa [List.append_nil] at hpass

/-- **Run lemma.** A text of escaped characters stands for the text, and the reader goes on behind it. -/
theorem readBody_escaped (text rest : List Char) :
    readBody '\'' .plain (text.flatMap escapeChar ++ rest) =
      (readBody '\'' .plain rest).map fun read => (utf16 text ++ read.1, read.2) := by
  induction text with
  | nil => cases hread : readBody '\'' .plain rest <;> simp [hread, utf16]
  | cons c text ih =>
    rw [List.flatMap_cons, List.append_assoc, readBody_append (pass_escapeChar c), ih, Option.map_map]
    congr 1
    funext read
    simp [utf16]

/-! ## Quoted paths -/

/-- an escaped character is the character itself, or starts with a backslash -/
theorem escapeChar_cases (c : Char) : escapeChar c = [c] ∨ ∃ rest, escapeChar c = '\\' :: rest := by
  unfold escapeChar
  split_ifs
  · exact .inr ⟨_, rfl⟩
  · exact .inr ⟨_, rfl⟩
  · exact .inr ⟨_, rfl⟩
  · exact .inr ⟨_, rfl⟩
  · exact .inr ⟨_, rfl⟩
  · exact .inl rfl

theorem relative_cons {c : Char} (h : c ≠ '.') (rest : List Char) : relative (c :: rest) = '.' :: '/' :: c :: rest := by
  unfold relative
  split
  · rename_i heq
    exact absurd (List.cons.inj heq).1 h
  · rfl

/-- it does not matter whether a path is made relative before its characters are escaped or after that -/
theorem relative_escaped (path : List Char) :
    relative (path.flatMap escapeChar) = (relative path).flatMap escapeChar := by
  cases path with
  | nil => rfl
  | cons c rest =>
    by_cases hdot : c = '.'
    · subst hdot
      rfl
    · have hescaped : (relative (c :: rest)).flatMap escapeChar =
          '.' :: '/' :: (escapeChar c ++ rest.flatMap escapeChar) := by
        rw [relative_cons hdot]
        rfl
      -- what comes first does not become a dot by being escaped
      rw [hescaped, List.flatMap_cons]
      rcases escapeChar_cases c with hsame | ⟨mark, hmark⟩
      · rw [hsame, List.singleton_append, relative_cons hdot]
      · rw [hmark, List.cons_append, relative_cons (by decide)]

theorem escaped_toList (path : String) : (escaped path).toList = (specifier path).toList.flatMap escapeChar := by
  rw [escaped, specifier, String.toList_ofList, String.toList_ofList, relative_escaped]

/-- a quoted path stands for the module that the path names, whatever comes after it -/
theorem readLiteral_quoted (path : String) (after : List Char) :
    readLiteral ((quoted path).toList ++ after) = some (utf16 (specifier path).toList, after) := by
  have hend : readBody '\'' .plain ('\'' :: after) = some ([], after) := by
    simp [readBody, Mode.closes]
  calc readLiteral ((quoted path).toList ++ after)
      = readLiteral ('\'' :: ((specifier path).toList.flatMap escapeChar ++ '\'' :: after)) := by
        simp [quoted, escaped_toList]
    _ = readBody '\'' .plain ((specifier path).toList.flatMap escapeChar ++ '\'' :: after) := by
        rw [readLiteral, if_pos (.inl rfl)]
    _ = (readBody '\'' .plain ('\'' :: after)).map fun read => (utf16 (specifier path).toList ++ read.1, read.2) :=
        readBody_escaped _ _
    _ = some (utf16 (specifier path).toList, after) := by
        rw [hend, Option.map_some, List.append_nil]

theorem requireCall_eq (path : String) : requireCall path = "require(" ++ quoted path ++ ")" := by
  rw [← String.toList_inj]
  simp [requireCall, quoted]

theorem escaped_eq_iff (path other : String) : escaped path = escaped other ↔ specifier path = specifier other := by
  constructor
  · intro h
    have hread := readLiteral_quoted path []
    rw [quoted, h, ← quoted, readLiteral_quoted other []] at hread
    have hunits : utf16 (specifier other).toList = utf16 (specifier path).toList := by simpa using hread
    exact String.toList_inj.1 (utf16_injective hunits).symm
  · intro h
    rw [← String.toList_inj, escaped_toList, escaped_toList, h]

/-- **Main result.** Whatever stands after it, the printed reference is `require(`, a string literal and a closing
parenthesis, and the literal stands for the module that the path names. The reference in the tree holds that module with
the same literal as its source. Two paths are escaped alike exactly if they name the same module. -/
theorem requireCall_read_back (path : String) :
    (∀ after : List Char, ∃ opening : List Char,
      (requireCall path).toList ++ after = "require(".toList ++ '\'' :: opening ∧
      readLiteral ('\'' :: opening) = some (utf16 (specifier path).toList, ')' :: after)) ∧
    (∀ span : Span, ∃ value raw : String,
      Metadata.requireNode path span = .call span (.name .dummy "require") [.string span value raw] [] ∧
      value = specifier path ∧ requireCall path = "require(" ++ raw ++ ")" ∧
      ∀ after : List Char, readLiteral (raw.toList ++ after) = some (utf16 value.toList, after)) ∧
    ∀ other : String, escaped path = escaped other ↔ specifier path = specifier other := by
  refine ⟨fun after => ⟨(escaped path).toList ++ '\'' :: ')' :: after, ?_, ?_⟩, fun span => ?_, escaped_eq_iff path⟩
  · simp [requireCall]
  · have hquoted : '\'' :: ((escaped path).toList ++ '\'' :: ')' :: after) = (quoted path).toList ++ ')' :: after := by
      simp [quoted]
    rw [hquoted, readLiteral_quoted]
  · exact ⟨specifier path, quoted path, rfl, rfl, requireCall_eq path, readLiteral_quoted path⟩

end ResourceInliner.Path
