/-
Referenced paths. A path that does not start with a dot is taken relative to the current directory; written as a quoted
string it has its quotes, backslashes and line terminators escaped.

- `specifier`: the module a path names.
- `escaped`: the same, as it stands between single quotes.
- `requireCall`: the printed module reference.
-/
namespace ResourceInliner.Path

/-- paths start with a dot -/
def relative (path : List Char) : List Char :=
  match path with
  | '.' :: _ => path
  | _ => '.' :: '/' :: path

/-- one character between quotes -/
def escapeChar (c : Char) : List Char :=
  if c = '"' ∨ c = '\'' ∨ c = '\\' then ['\\', c]
  else if c = '\n' then ['\\', 'n']
  else if c = '\r' then ['\\', 'r']
  else if c = '\u2028' then "\\u2028".toList
  else if c = '\u2029' then "\\u2029".toList
  else [c]

/-- the module that a path names -/
def specifier (path : String) : String :=
  String.ofList (relative path.toList)

/-- the path between quotes: quotes, backslashes and line terminators escaped, and then made relative -/
def escaped (path : String) : String :=
  String.ofList (relative (path.toList.flatMap escapeChar))

/-- the string literal that names the module -/
def quoted (path : String) : String :=
  "'" ++ escaped path ++ "'"

/-- the printed module reference -/
def requireCall (path : String) : String :=
  "require('" ++ escaped path ++ "')"

end ResourceInliner.Path
