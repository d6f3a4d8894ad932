/-
Reading a whole module.

- `grammar`: the readers of all constructs, tied together. Constructs are nested at most as deep as the bound says.
- `parse`: the tree of a module text, or the fault that it has. A fault that stops the reading goes before those that do
  not, and of these the first one met goes before the others.
-/
import ResourceInliner.Config
import ResourceInliner.Script.Markup
import ResourceInliner.Script.Module
import ResourceInliner.Script.Primary

namespace ResourceInliner.Script

/-- no construct may be nested any deeper -/
def noGrammar : Grammar where
  fuel := 0
  assignment := fail .tooDeep
  unary := fail .tooDeep
  leftHand := fail .tooDeep
  statement _ := fail .tooDeep
  moduleItem := fail .tooDeep
  pattern := fail .tooDeep
  type := fail .tooDeep
  typeOperand := fail .tooDeep
  decorators := fail .tooDeep
  element := fail .tooDeep

/-- the readers of all constructs, with a bound on how deep they are nested, for a text of at most `fuel` tokens -/
def grammar (fuel : Nat) : Nat → Grammar
  | 0 => noGrammar
  | depth + 1 =>
    { fuel := fuel
      assignment := fun c s => assignment (grammar fuel depth) c s
      unary := fun c s => unary (grammar fuel depth) c s
      leftHand := fun c s => leftHand (grammar fuel depth) c s
      statement := fun declarations c s => statement (grammar fuel depth) declarations c s
      moduleItem := fun c s => moduleItem (grammar fuel depth) c s
      pattern := fun c s => bindingPattern (grammar fuel depth) false c s
      type := fun c s => type (grammar fuel depth) c s
      typeOperand := fun c s =>
        let inner := grammar fuel depth
        operandType inner (plainType inner) c s
      decorators := fun c s => decoratorsBefore (grammar fuel depth) false c s
      element := fun c s => element (grammar fuel depth) c s }

/-- the text after a line at its start that tells a system how to run it, and the offset of that text -/
def skipRunLine : List Char → Nat × List Char
  | '#' :: '!' :: rest =>
    let line := rest.takeWhile fun c => !isLineEnd c
    (2 + byteLength line, rest.drop line.length)
  | text => (0, text)

/-- the items of a module up to the end of the text -/
def moduleItems (g : Grammar) : Read (List Node) :=
  collect g.fuel do
    if (← token) == .eof then return none
    return some (← moduleItem g)

/-- the tree of a module text, or its fault -/
def parse (dialect : Dialect) (text : List Char) : Except Failure Node :=
  let (offset, body) := skipRunLine text
  let fuel := 4 * text.length + 100
  let reader : Read (List Node) := do
    enter (lex offset body)
    moduleItems (grammar fuel fuel)
  match reader { typed := dialect.features.types } { now := ⟨.eof, 0, 0, [], [], false, none⟩ } with
  | .error failure _ => .error failure
  | .ok items s =>
    match s.failures.getLast? with
    | some failure => .error failure
    | none => .ok (.other .module ⟨place 0, place (byteLength text)⟩ items)

end ResourceInliner.Script
