/-
Loader queries, such as `?keepUrl=true` or an object in JSON after the question mark.

- `Query.arguments`: the pieces between `&` and `,`, empty ones left out.
- `Query.readArgument`: what one piece says: `name=value` sets a name, `name[]=value` adds to a list, and a bare name
  is a flag, off after a minus sign.
- `Query.parse`: the entries of a query.
- `Query.layer`: the layer they describe.
-/
import ResourceInliner.Config

namespace ResourceInliner.Query

/-- what one argument says -/
inductive Argument where
  /-- the name has this value, whatever it had before -/
  | set (name : String) (value : Json)
  /-- the value comes at the end of the name's list -/
  | push (name : String) (value : Json)

/-- cut a text at every character that separates; one piece more than there are separators -/
def cut (separates : Char → Bool) : List Char → List (List Char)
  | [] => [[]]
  | c :: rest =>
    if separates c then [] :: cut separates rest
    else match cut separates rest with
      | piece :: pieces => (c :: piece) :: pieces
      | [] => [[c]]

/-- the arguments of a query body -/
def arguments (body : List Char) : List (List Char) :=
  (cut (fun c => c == '&' || c == ',') body).filter fun piece => !piece.isEmpty

/-- the text that a name or value stands for: a plus sign is a blank, and bytes may be written with a percent sign -/
def decode (raw : List Char) : Except Utf8Fault (List Char) :=
  decodeUtf8 (percentDecode (utf8Bytes (raw.map fun c => if c = '+' then ' ' else c)))

/-- the two words `true` and `false` are booleans -/
def typed (value : List Char) : Json :=
  if value = "true".toList then .bool true
  else if value = "false".toList then .bool false
  else .string (String.ofList value)

/-- the name of a list, if the text ends in a pair of brackets -/
def listName? (name : List Char) : Option (List Char) :=
  match name.reverse with
  | ']' :: '[' :: rest => some rest.reverse
  | _ => none

/-- what the text before the first equals sign and the text after it are, if there is one -/
def splitPair (piece : List Char) : Option (List Char × List Char) :=
  if '=' ∈ piece then some (piece.takeWhile (· != '='), (piece.dropWhile (· != '=')).drop 1) else none

/-- the name and the value of a flag -/
def flag : List Char → List Char × Bool
  | '-' :: name => (name, false)
  | '+' :: name => (name, true)
  | name => (name, true)

/-- what one piece says; the name is decoded before the value -/
def readArgument (piece : List Char) : Except Utf8Fault Argument :=
  match splitPair piece with
  | some (name, value) => do
    let name ← decode name
    let value ← decode value
    match listName? name with
    | some list => return .push (String.ofList list) (typed value)
    | none => return .set (String.ofList name) (typed value)
  | none => do
    let (name, value) := flag piece
    let name ← decode name
    return .set (String.ofList name) (.bool value)

/-- let one argument take effect; adding to what is no list starts a list -/
def Argument.apply (entries : Entries Json) : Argument → Entries Json
  | .set name value => entries.set name value
  | .push name value =>
    match entries.get? name with
    | some (.array items) => entries.set name (.array (items ++ [value]))
    | _ => entries.set name (.array [value])

/-- is the body an object in JSON? -/
def isJson (body : List Char) : Bool :=
  body.head? == some '{' && body.getLast? == some '}'

/-- the entries of a list of arguments, later ones over earlier ones -/
def parseArguments (body : List Char) : Except Utf8Fault (Entries Json) := do
  let args ← (arguments body).mapM readArgument
  return args.foldl Argument.apply []

/-- the entries of a query body -/
def parseBody (body : List Char) : Except QueryFault (Entries Json) :=
  if isJson body then
    match Json.parse (String.ofList body) with
    | .ok (.object entries) => .ok entries
    | .ok _ => .error .notAnObject
    | .error error => .error (.unreadable error)
  else (parseArguments body).mapError .illFormed

/-- the entries of a query -/
def parse (query : String) : Except ConfigError (Entries Json) :=
  match query.toList with
  | [] => .ok []
  | '?' :: body => (parseBody body).mapError (.invalidQuery query)
  | _ => .error (.invalidQuery query .noQuestionMark)

/-- the layer that a query describes -/
def layer (query : String) : Except ConfigError Layer := do
  let entries ← parse query
  (Layer.ofJson (.object entries)).mapError .invalidOption

end ResourceInliner.Query
