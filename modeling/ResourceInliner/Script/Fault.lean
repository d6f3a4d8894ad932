/-
What can be wrong with the text of a module.

- `Rule`: the rules beyond the grammar that a text can break, each with the word it is about.
- `Fault`: a token that is missing or out of place, a text that ends too early, or a broken rule.
- `Fault.message`: a fault in words. A token out of place is named without the list of those that could stand there.
-/
namespace ResourceInliner.Script

/-- a rule beyond the grammar -/
inductive Rule where
  -- names
  | invalidName
  | escapedKeyword (word : String)
  | strictWord (word : String)
  | strictBinding
  | strictArguments
  | argumentsInClassField
  | reservedShorthand
  | nameAfterDot
  | spaceInPrivateName
  -- literals
  | malformedNumber
  | leadingZero
  | separator
  | malformedEscape
  | octalEscape
  | unknownFlags
  | repeatedFlag (flag : Char)
  | markupComment
  -- assignments and patterns
  | noTarget
  | noTypedTarget
  | noTargetKind
  | noPattern
  | defaultOutsidePattern
  | elementAfterRest
  | commaAfterRest
  | restWithoutName
  | defaultOfRest
  -- expressions
  | commaInKey
  | optionalProperty
  | spreadInParens
  | emptyParens
  | lineEndBeforeArrow
  | arrowAsOperand
  | templateInOptionalChain
  | newOfOptionalChain
  | targetOutsideFunction
  | deleteOfName
  | deleteOfNoMember
  | awaitStar
  | awaitOutOfPlace
  | yieldInParameter
  | powerOfUnary
  | mixedOperators
  -- functions
  | parameterAfterRest
  | optionalRest
  | optionalPattern
  | optionalWithDefault
  | defaultWithoutBody
  | propertyOutOfPlace
  | strictDirective
  | bodyInDeclaration
  | getterParameter
  | setterParameters
  | restOfSetter
  -- classes and interfaces
  | modifierOutOfPlace
  | modifierTwice (word : String)
  | modifierOrder (first second : String)
  | modifiersTogether (one other : String)
  | overrideWithoutBase
  | varianceOutOfPlace (word : String)
  | constOutOfPlace
  | modifierOfTypeParameter (word : String)
  | modifierOfConstructor (word : String)
  | modifierOfPrivateName (word : String)
  | accessOfPrivateName
  | privateConstructor
  | propertyConstructor
  | patternAsProperty
  | typeParametersOfConstructor
  | resultOfConstructor
  | asyncConstructor
  | accessorConstructor
  | generatorConstructor
  | secondConstructor
  | declaredMethod
  | readonlyMethod
  | readonlyAccessor
  | abstractBody
  | abstractValue
  | abstractOutOfPlace
  | className
  | interfaceName
  | interfaceBase
  | secondBase
  | extendsTwice
  | extendsAfterImplements
  | implementsTwice
  -- types
  | privateNameInType
  | indexParameters
  | requiredAfterOptional
  | noTypeArguments
  | stringExpected
  -- declarations
  | patternWithoutValue
  | constWithoutValue
  | trailingComma
  | usingNotKnown
  | usingPattern
  | usingWithoutValue
  | usingInKeyLoop
  | numberInEnum
  | computedInEnum
  | declareTwice
  | declarationOutOfPlace
  -- statements
  | breakOutOfPlace
  | breakLabel
  | continueOutOfPlace
  | continueLabel
  | lineEndAfterThrow
  | secondDefault
  | severalLoopVariables
  | valueInLoop
  | typeInLoop
  | patternInKeyLoop
  | asyncBeforeOf
  | awaitLoop
  | labelledFunction
  | labelTwice (label : String)
  | withStatement
  -- markup
  | closingTag (name : String)
  | markInText (mark : Char)
  -- imports and exports
  | itemInsideStatement
  | typeTwiceInImport
  | typeTwiceInExport
  | quotedImport (name : String)
  | quotedExport
  | exportWithoutSource (word : String)
  | decoratorsTwice
  deriving DecidableEq, Repr

/-- a broken rule in words -/
def Rule.message : Rule → String
  | .invalidName => "Invalid character in identifier"
  | .escapedKeyword word => "Unexpected escape sequence in reserved word: " ++ word
  | .strictWord word => "\x60" ++ word ++ "\x60 cannot be used as an identifier in strict mode"
  | .strictBinding => "'eval' and 'arguments' cannot be used as a binding identifier in strict mode"
  | .strictArguments => "Invalid use of 'arguments' in strict mode"
  | .argumentsInClassField => "'arguments' is only allowed in functions and class methods"
  | .reservedShorthand => "Cannot use a reserved word as a shorthand property"
  | .nameAfterDot => "Expected an identifier"
  | .spaceInPrivateName => "Unexpected space between # and identifier"
  | .malformedNumber => "Identifier cannot follow number"
  | .leadingZero => "Legacy octal literals are not available when targeting ECMAScript 5 and higher"
  | .separator => "A numeric separator is only allowed between two digits"
  | .malformedEscape => "Invalid string escape"
  | .octalEscape => "Legacy octal escape is not permitted in strict mode"
  | .unknownFlags => "Unknown regular expression flags."
  | .repeatedFlag flag => "Duplicated regular expression flag '" ++ String.singleton flag ++ "'."
  | .markupComment => "Legacy comments cannot be used in module code"
  | .noTarget => "Cannot assign to this"
  | .noTypedTarget => "The left-hand side of an assignment expression must be a variable or a property access."
  | .noTargetKind => "Invalid assignment target"
  | .noPattern => "Not a pattern"
  | .defaultOutsidePattern => "assignment property is invalid syntax"
  | .elementAfterRest => "Rest element must be final element"
  | .commaAfterRest => "Trailing comma isn't permitted after a rest element"
  | .restWithoutName => "\x60...\x60 must be followed by an identifier in declaration contexts"
  | .defaultOfRest => "A rest parameter cannot have an initializer"
  | .commaInKey => "A comma expression is not allowed in a computed property name"
  | .optionalProperty => "An object member cannot be declared optional"
  | .spreadInParens => "Parenthesized expression cannot contain spread operator"
  | .emptyParens => "Parenthesized expression cannot be empty"
  | .lineEndBeforeArrow => "Unexpected line break between arrow head and arrow"
  | .arrowAsOperand => "An arrow function is not allowed here"
  | .templateInOptionalChain => "Tagged template expression in an optional chain is not allowed"
  | .newOfOptionalChain => "Constructor in/after an optional chaining is not allowed"
  | .targetOutsideFunction =>
    "'new.target' is only allowed in the body of a function declaration, function expression, or class."
  | .deleteOfName => "'delete' cannot be called on an identifier in strict mode"
  | .deleteOfNoMember => "The operand of a delete operator must be a property reference."
  | .awaitStar => "await* has been removed from the async functions proposal. Use Promise.all() instead."
  | .awaitOutOfPlace => "await isn't allowed in non-async function"
  | .yieldInParameter => "'yield' cannot be used as a parameter within generator"
  | .powerOfUnary => "** cannot be applied to unary expression"
  | .mixedOperators => "Nullish coalescing operator(??) requires parens when mixing with logical operators"
  | .parameterAfterRest => "A rest parameter must be last in a parameter list"
  | .optionalRest => "A rest parameter cannot be optional"
  | .optionalPattern => "A binding pattern parameter cannot be optional in an implementation signature."
  | .optionalWithDefault => "Parameter cannot have question mark and initializer"
  | .defaultWithoutBody =>
    "A parameter initializer is only allowed in a function or constructor implementation"
  | .propertyOutOfPlace => "A parameter property is only allowed in a constructor implementation"
  | .strictDirective => "Illegal 'use strict' directive in function with non-simple parameter list."
  | .bodyInDeclaration => "An implementation cannot be declared in ambient contexts"
  | .getterParameter => "A \x60get\x60 accessor cannot have parameters"
  | .setterParameters => "A \x60set\x60 accessor must have exactly one parameter"
  | .restOfSetter => "Rest pattern is not allowed in setter"
  | .modifierOutOfPlace => "Modifiers cannot appear here"
  | .modifierTwice word => "'" ++ word ++ "' modifier already seen."
  | .modifierOrder first second => "'" ++ first ++ "' modifier must precede '" ++ second ++ "' modifier."
  | .modifiersTogether one other => "'" ++ one ++ "' modifier cannot be used with '" ++ other ++ "' modifier."
  | .overrideWithoutBase =>
    "This member cannot have an 'override' modifier because its containing class does not extend another class."
  | .varianceOutOfPlace word =>
    "'" ++ word ++ "' modifier can only appear on a type parameter of a class, interface or type alias"
  | .constOutOfPlace =>
    "'const' modifier can only appear on a type parameter of a function, method or class"
  | .modifierOfTypeParameter word => "'" ++ word ++ "' modifier cannot appear on a type parameter"
  | .modifierOfConstructor word => "'" ++ word ++ "' modifier cannot appear on a constructor declaration"
  | .modifierOfPrivateName word => "'" ++ word ++ "' modifier cannot be used with a private identifier"
  | .accessOfPrivateName => "An accessibility modifier cannot be used with a private identifier"
  | .privateConstructor => "Classes can't have a private field named '#constructor'."
  | .propertyConstructor => "Classes may not have a non-static field named 'constructor'"
  | .patternAsProperty => "Typescript parameter property must be an identifier or assignment pattern"
  | .typeParametersOfConstructor => "Type parameters cannot appear on a constructor declaration"
  | .resultOfConstructor => "Type annotation cannot appear on a constructor declaration"
  | .asyncConstructor => "Constructor can't be an async function"
  | .accessorConstructor => "Class constructor can't be an accessor"
  | .generatorConstructor => "Constructor can't be a generator"
  | .secondConstructor => "A class may only have one constructor"
  | .declaredMethod => "\x60declare\x60 modifier cannot appear on class elements of this kind"
  | .readonlyMethod => "A method cannot be readonly"
  | .readonlyAccessor => "A getter or a setter cannot be readonly"
  | .abstractBody => "Method cannot have an implementation because it is marked abstract."
  | .abstractValue => "Property cannot have an initializer because it is marked abstract."
  | .abstractOutOfPlace => "Abstract methods can only appear within an abstract class."
  | .className => "Invalid class name"
  | .interfaceName => "interface name is invalid"
  | .interfaceBase => "An interface can only extend an identifier/qualified-name with optional type arguments."
  | .secondBase => "Classes can only extend a single class"
  | .extendsTwice => "\x60extends\x60 clause already seen."
  | .extendsAfterImplements => "'extends' clause must precede 'implements' clause."
  | .implementsTwice => "\x60implements\x60 clause already seen"
  | .privateNameInType => "private names are not allowed in interface"
  | .indexParameters => "An index signature must have exactly one parameter"
  | .requiredAfterOptional => "A required element cannot follow an optional element."
  | .noTypeArguments => "Type argument list cannot be empty."
  | .stringExpected => "String literal expected"
  | .patternWithoutValue => "Destructuring bindings require initializers"
  | .constWithoutValue => "'const' declarations must be initialized"
  | .trailingComma => "Trailing comma is not allowed"
  | .usingNotKnown => "Using declaration is not enabled. Set jsc.parser.usingDecl to true"
  | .usingPattern => "Using declaration only allows identifiers"
  | .usingWithoutValue => "Using declaration requires initializer"
  | .usingInKeyLoop => "Using declaration is not allowed in for-in loop"
  | .numberInEnum => "An enum member cannot have a numeric name"
  | .computedInEnum => "Computed property names are not allowed in enums"
  | .declareTwice => "\x60declare\x60 modifier not allowed for code already in an ambient context"
  | .declarationOutOfPlace => "Declaration is not allowed"
  | .breakOutOfPlace => "A 'break' statement can only be used within an enclosing iteration or switch statement"
  | .breakLabel => "A 'break' statement can only jump to a label of an enclosing statement"
  | .continueOutOfPlace =>
    "A 'continue' statement can only jump to a label of an enclosing iteration statement"
  | .continueLabel => "Jump target cannot cross function boundary"
  | .lineEndAfterThrow => "LineBreak cannot follow 'throw'"
  | .secondDefault => "A switch block cannot have multiple defaults"
  | .severalLoopVariables => "Expected one variable binding"
  | .valueInLoop => "Unexpected initializer in for in/of loop"
  | .typeInLoop => "The left-hand side of a 'for...of' statement cannot use a type annotation"
  | .patternInKeyLoop => "The left-hand side of a 'for...in' statement cannot be a destructuring pattern"
  | .asyncBeforeOf => "The left-hand side of a \x60for...of\x60 statement may not be \x60async\x60"
  | .awaitLoop => "for await syntax is valid only for for-of statement"
  | .labelledFunction => "Function cannot be labelled in strict mode"
  | .labelTwice label => "Label " ++ label ++ " is already declared"
  | .withStatement => "With statement are not allowed in strict mode"
  | .closingTag name => "Expected corresponding JSX closing tag for <" ++ name ++ ">"
  | .markInText mark =>
    let other := if mark == '>' then "\x60&gt;\x60" else "\x60&rbrace;\x60"
    "Unexpected token. Did you mean \x60\x7b'" ++ String.singleton mark ++ "'\x7d\x60 or " ++ other ++ "?"
  | .itemInsideStatement => "'import', and 'export' are not permitted here"
  | .typeTwiceInImport =>
    "The 'type' modifier cannot be used on a named import when 'import type' is used on its import statement."
  | .typeTwiceInExport =>
    "The 'type' modifier cannot be used on a named export when 'export type' is used on its export statement."
  | .quotedImport name =>
    "A string literal cannot be used as an imported binding.\n- Did you mean \x60import \x7b \"" ++ name ++
      "\" as foo \x7d\x60?"
  | .quotedExport => "A string literal cannot be used as an exported binding without \x60from\x60."
  | .exportWithoutSource word => "\x60" ++ word ++ "\x60 cannot be used without \x60from\x60 clause"
  | .decoratorsTwice =>
    "Decorators may not appear after \x60export\x60 or \x60export default\x60 if they also appear " ++
      "before \x60export\x60."

/-- a fault of a text; most faults carry nothing but what was broken -/
inductive Fault where
  /-- a certain token was expected -/
  | expected (wanted got : String)
  | expectedName
  | expectedExpression
  | expectedSemicolon
  | expectedStatementEnd
  | endOfText
  | unterminatedString
  | unterminatedTemplate
  | unterminatedComment
  | unterminatedRegex
  | returnOutsideFunction
  /-- a token that cannot stand here -/
  | unexpected (got : String)
  /-- a rule is broken -/
  | rule (broken : Rule)
  /-- nested too deeply for the reader's bound -/
  | tooDeep
  deriving DecidableEq, Repr

/-- a fault in words -/
def Fault.message : Fault → String
  | .expected wanted got => "Expected '" ++ wanted ++ "', got '" ++ got ++ "'"
  | .expectedName => "Expected ident"
  | .expectedExpression => "Expression expected"
  | .expectedSemicolon => "Expected a semicolon"
  | .expectedStatementEnd => "Expected ';', '\x7d' or <eof>"
  | .endOfText => "Unexpected eof"
  | .unterminatedString => "Unterminated string constant"
  | .unterminatedTemplate => "Unterminated template"
  | .unterminatedComment => "Unterminated block comment"
  | .unterminatedRegex => "Unterminated regexp literal"
  | .returnOutsideFunction => "Return statement is not allowed here"
  | .unexpected got => "Unexpected token \x60" ++ got ++ "\x60"
  | .rule broken => broken.message
  | .tooDeep => "Nested too deeply"

/-- a fault with the byte offsets of the text it lies in -/
structure Failure where
  fault : Fault
  lo : Nat
  hi : Nat
  deriving DecidableEq, Repr

end ResourceInliner.Script
