/-
JSON values. A whole number that fits in 64 bits is an integer; every other number is a binary64 float. The entries of
an object are kept in ascending order of their names, one entry a name.

- `Entries.set`: set a name, keeping the order; the last value set wins.
- `Entries.get?_set`: what a name holds after a `set`.
-/
namespace ResourceInliner

/-- a JSON number -/
inductive JsonNumber where
  /-- within the signed or the unsigned 64-bit range -/
  | integer (value : Int)
  | float (value : Float)

/-- a JSON value -/
inductive Json where
  | null
  | bool (value : Bool)
  | number (value : JsonNumber)
  | string (value : String)
  | array (items : List Json)
  | object (entries : List (String × Json))

/-- named values in ascending order of the names -/
abbrev Entries (α : Type) := List (String × α)

namespace Entries

variable {α : Type}

/-- the value of a name -/
def get? (entries : Entries α) (name : String) : Option α :=
  (entries.find? fun entry => entry.1 == name).map Prod.snd

/-- set a name to a value; the entries stay in order -/
def set : Entries α → String → α → Entries α
  | [], name, value => [(name, value)]
  | (other, old) :: rest, name, value =>
    if name = other then (name, value) :: rest
    else if name < other then (name, value) :: (other, old) :: rest
    else (other, old) :: set rest name value

theorem get?_cons (other name : String) (old : α) (rest : Entries α) :
    get? ((other, old) :: rest) name = if other = name then some old else get? rest name := by
  by_cases h : other = name <;> simp [get?, h]

/-- a name just set holds its value; every other name holds what it held -/
theorem get?_set (entries : Entries α) (name other : String) (value : α) :
    get? (set entries name value) other = if name = other then some value else get? entries other := by
  induction entries with
  | nil => simp [set, get?_cons]
  | cons entry rest ih =>
    obtain ⟨key, old⟩ := entry
    unfold set
    by_cases h : name = key
    · subst h
      by_cases h' : name = other <;> simp [get?_cons, h']
    · by_cases h' : name < key
      · simp [h, h', get?_cons]
      · simp only [h, h', if_false, get?_cons, ih]
        by_cases h2 : key = other
        · subst h2; simp [h]
        · simp [h2]

end Entries

end ResourceInliner
