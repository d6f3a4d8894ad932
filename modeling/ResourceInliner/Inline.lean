/-
Inlining the resources of one module text: parse, edit the metadata, patch the text.

- `Parser`: what reads module texts. All below holds for any parser; the one that runs is `Script.parse`.
- `parseModule`: the tree of a text; a byte order mark at its start is dropped and takes no positions.
- `inlineResources`: the text with its resources inlined, or why that failed, with the events on the way.
- `transform`: the same, but a text that cannot be inlined comes back as it is.
-/
import ResourceInliner.Gate
import ResourceInliner.Script.Parse

namespace ResourceInliner

/-- the byte order mark -/
def byteOrderMark : Char := '\uFEFF'

/-- a byte order mark at the start of a text, and the rest -/
def splitMark : List Char → List Char × List Char
  | c :: rest => if c = byteOrderMark then ([c], rest) else ([], c :: rest)
  | [] => ([], [])

/-- the position of the first byte of a file -/
def basePosition : UInt32 := 1

/-- why a module cannot be inlined -/
inductive InlineError where
  /-- byte offsets of the place in the text, and the words for the fault -/
  | parse (lo hi : UInt32) (message : String)
  | patch (error : PatchError)

/-- what was being done when inlining failed -/
inductive Stage where
  | parsing
  | patching
  deriving DecidableEq, Repr

/-- a failure in words: the stage, the place, and the reason -/
def Stage.message (stage : Stage) (lo hi : UInt32) (reason : String) : String :=
  let what := match stage with
    | .parsing => "parse error"
    | .patching => "cannot apply patch"
  what ++ " at " ++ toString lo ++ ".." ++ toString hi ++ ": " ++ reason

/-- the error in words -/
def InlineError.message : InlineError → String
  | .parse lo hi reason => Stage.parsing.message lo hi reason
  | .patch error => Stage.patching.message error.span.lo error.span.hi error.fault.reason

/-- what happens while a module is inlined or delivered -/
inductive Event where
  | skipped (note : SkipNote)
  | edited (count : Nat)
  | notInlined (error : InlineError)
  | notCached

/-- how grave an event is -/
inductive Level where
  | debug
  | warn
  deriving DecidableEq, Repr

/-- the level that an event is logged at -/
def Event.level : Event → Level
  | .notInlined _ => .warn
  | _ => .debug

/-- an event in words -/
def Event.message : Event → String
  | .skipped note => note.reason.message
  | .edited _ => "metadata objects rewritten"
  | .notInlined _ => "cannot inline component resources, source left unchanged"
  | .notCached => "host cannot cache loader results"

/-- a parser of module texts: the tree of a text, or where it is at fault and why -/
abbrev Parser := Dialect → List Char → Except Script.Failure Node

/-- the tree of a module text -/
def parseModule (dialect : Dialect) (source : List Char) (parser : Parser := Script.parse) : Except InlineError Node :=
  (parser dialect (splitMark source).2).mapError fun failure =>
    .parse failure.lo.toUInt32 failure.hi.toUInt32 failure.fault.message

/-- Inline the resources of a module. A byte order mark is set aside and put back in front of the result. -/
def inlineResources (config : Config) (source : String) (parser : Parser := Script.parse) :
    Except InlineError String × List Event :=
  let (mark, body) := splitMark source.toList
  match parseModule config.dialect body parser with
  | .error error => (.error error, [])
  | .ok tree =>
    let inlined := inlineModule config.keepUrl tree
    let events := inlined.notes.map Event.skipped ++ [.edited inlined.editCount]
    if inlined.patches.isEmpty then (.ok source, events)
    else
      match applyPatches (String.ofList body) basePosition inlined.patches with
      | .ok code => (.ok (String.ofList mark ++ code), events)
      | .error error => (.error (.patch error), events)

/-- inline the resources of a module; a module that cannot be inlined stays as it is, with a warning -/
def transform (config : Config) (source : String) (parser : Parser := Script.parse) : String × List Event :=
  match inlineResources config source parser with
  | (.ok code, events) => (code, events)
  | (.error error, events) => (source, events ++ [.notInlined error])

end ResourceInliner
