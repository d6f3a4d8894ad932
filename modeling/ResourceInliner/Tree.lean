/-
Syntax trees of modules. String literals, names, array and object literals, calls and classes have constructors of their
own, because metadata is found and edited in terms of them; every other construct is a `Node.other` of some kind.

The parts of a node are listed in the order in which they are visited. For most constructs this is the order of the
text; a function has its parameters before its decorators and its body, a class its members before what it extends, and
a `do` loop its test before its body.
-/
import ResourceInliner.Span

namespace ResourceInliner

/-- where a class stands -/
inductive ClassForm where
  | declaration
  | defaultExport
  | expression
  deriving DecidableEq, Repr

/-- the constructs without a constructor of their own -/
inductive NodeKind where
  -- words and literals
  | thisWord | superWord | importWord | metaProperty | privateName
  | literal | number | regex | template | taggedTemplate
  -- expressions
  | paren | sequence | function | arrow | member | index | optionalChain | construct | unary | update
  | binary (operator : String) | conditional | assign (operator : String) | yieldExpr | awaitExpr | spread
  | nonNull | typed | instantiation | invalid
  -- patterns
  | arrayPattern | objectPattern | keyedPattern | defaultPattern | restPattern
  -- markup
  | element | fragment | attribute | markupSpread | container
  -- functions and classes
  | parameter | decorated | method | constructor | property | staticBlock | indexSignature
  -- types
  | typeNode | typeParameter
  -- statements
  | block | statement | expressionStatement | variableList | variable | labelled
  | enumeration | enumMember | interface | typeAlias | namespaceDecl | importDecl | exportDecl | attributes | module
  deriving DecidableEq, Repr

/-- how a property with a function is written -/
inductive MethodForm where
  | method
  | getter
  | setter
  deriving DecidableEq, Repr

mutual

/-- a syntax tree -/
inductive Node where
  | name (span : Span) (name : String)
  /-- a string literal: its value, with lone surrogates as replacement characters, and its text -/
  | string (span : Span) (value raw : String)
  | array (span : Span) (items : List Item)
  | object (span : Span) (props : List Property)
  /-- a plain call, that is, not one in an optional chain -/
  | call (span : Span) (callee : Node) (args types : List Node)
  /-- a class with the expressions of its decorators; the parts are its members and its heritage -/
  | cls (form : ClassForm) (span : Span) (decorators parts : List Node)
  | other (kind : NodeKind) (span : Span) (parts : List Node)

/-- an entry of an array literal -/
inductive Item where
  | hole
  | element (value : Node)
  | spread (dots : Span) (value : Node)

/-- an entry of an object literal -/
inductive Property where
  | keyValue (key : Key) (value : Node)
  | shorthand (span : Span) (name : String)
  /-- a name with a default, as patterns have it, and where the name itself stands -/
  | withDefault (span at_ : Span) (name : String) (value : Node)
  | method (form : MethodForm) (span : Span) (key : Key) (parts : List Node)
  | spread (dots : Span) (operand : Node)

/-- the key of a property -/
inductive Key where
  | name (span : Span) (name : String)
  | quoted (span : Span) (value : String)
  | number (span : Span)
  | computed (span : Span) (inner : Node)

end

namespace Node

/-- where a node stands -/
def span : Node → Span
  | name span _ | string span _ _ | array span _ | object span _ | call span _ _ _ | cls _ span _ _
  | other _ span _ => span

instance : Inhabited Node := ⟨other .invalid .dummy []⟩

/-- is the node of this kind? -/
def isKind (kind : NodeKind) : Node → Bool
  | other k _ _ => k == kind
  | _ => false

end Node

/-- where a key stands -/
def Key.span : Key → Span
  | .name span _ | .quoted span _ | .number span | .computed span _ => span

/-- where a property stands -/
def Property.span : Property → Span
  | .keyValue key value => ⟨key.span.lo, value.span.hi⟩
  | .shorthand span _ | .withDefault span _ _ _ | .method _ span _ _ => span
  | .spread dots operand => ⟨dots.lo, operand.span.hi⟩

/-- where an entry stands; a hole has no place -/
def Item.span? : Item → Option Span
  | .hole => none
  | .element value => some value.span
  | .spread dots value => some ⟨dots.lo, value.span.hi⟩

/-- the name a property is looked up by: that of an identifier key, a shorthand, a method or an accessor -/
def Property.name? : Property → Option String
  | .keyValue (.name _ name) _ | .shorthand _ name | .method _ _ (.name _ name) _ => some name
  | _ => none

end ResourceInliner
