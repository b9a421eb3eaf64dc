import ScenarioStubs.Json.Document
import ScenarioStubs.Regex.Basic
import ScenarioStubs.Stub.Request

/-!
# Request patterns

A pattern constrains the method, the url, the path and the headers of a request (`PatternFields`). The constraints are
checked in a fixed order and the first that fails decides; a regular expression that cannot be compiled is reported
only when its turn comes. Regular expressions are compiled when the pattern is built and kept beside the fields that
they come from (`RequestPattern`).
-/

namespace ScenarioStubs

/-- Why a predicate gave no verdict on a request. -/
inductive EvaluationError
  /-- A regular expression of the predicate cannot be compiled. -/
  | invalidPattern (source : String)
  /-- The predicate does not apply to the request. -/
  | unevaluable (reason : String)
  deriving DecidableEq

/-- The verdict of a predicate. -/
abbrev Verdict := Except EvaluationError Bool

/-- A constraint on the first value of a header. -/
inductive HeaderMatcher
  | equalTo (value : String)
  | contains (part : String)
  /-- A regular expression for the whole value. -/
  | regex (source : String)
  deriving DecidableEq

/-- A regular expression for whole texts, compiled from its source. -/
structure WholeRegex where
  source : String
  compiled : Except Regex.SyntaxError Regex.Expr

namespace WholeRegex

/-- The source is set between anchors as it stands and compiled. -/
def ofSource (source : String) : WholeRegex := ⟨source, Regex.compile ("^(?:" ++ source ++ ")$")⟩

/-- Whether the expression matches a text; an error if it could not be compiled. -/
def test (r : WholeRegex) (text : String) : Verdict :=
  match r.compiled with
  | .ok e => .ok (Regex.isMatch e text)
  | .error _ => .error (.invalidPattern r.source)

end WholeRegex

/-- The constraints of a pattern as written. -/
structure PatternFields where
  method : Option String := none
  url : Option String := none
  urlPath : Option String := none
  urlPattern : Option String := none
  headers : SortedMap String HeaderMatcher := ∅
  deriving DecidableEq

/-- A pattern: its fields, and the regular expressions compiled from them. -/
structure RequestPattern where
  fields : PatternFields
  urlRegex : Option WholeRegex
  headerRegexes : SortedMap String WholeRegex

namespace RequestPattern

/-- The compiled regular expressions of the headers that are constrained by one. -/
def compileHeaders (headers : SortedMap String HeaderMatcher) : SortedMap String WholeRegex :=
  .ofList <| headers.toList.filterMap fun (name, m) =>
    match m with
    | .regex source => some (name, .ofSource source)
    | .equalTo _ | .contains _ => none

/-- The pattern with given fields, the method put in upper case. -/
def ofFields (fields : PatternFields) : RequestPattern where
  fields := { fields with method := fields.method.map Text.upperAscii }
  urlRegex := fields.urlPattern.map .ofSource
  headerRegexes := compileHeaders fields.headers

/-- The pattern without constraints. -/
def any : RequestPattern := ofFields {}

instance : Inhabited RequestPattern := ⟨any⟩

/-- The pattern with a method; `ANY` admits every method. -/
def withMethod (p : RequestPattern) (method : String) : RequestPattern :=
  { p with fields := { p.fields with method := some (Text.upperAscii method) } }

/-- The pattern with an exact url, query included. -/
def withUrl (p : RequestPattern) (url : String) : RequestPattern :=
  { p with fields := { p.fields with url := some url } }

/-- The pattern with an exact path. -/
def withUrlPath (p : RequestPattern) (path : String) : RequestPattern :=
  { p with fields := { p.fields with urlPath := some path } }

/-- The pattern with a regular expression for the whole url. -/
def withUrlPattern (p : RequestPattern) (source : String) : RequestPattern :=
  { p with urlRegex := some (.ofSource source), fields := { p.fields with urlPattern := some source } }

/-- The pattern with a constraint on a header in place of any earlier one on the same name. -/
def withHeader (p : RequestPattern) (name : String) (m : HeaderMatcher) : RequestPattern where
  fields := { p.fields with headers := p.fields.headers.insert name m }
  urlRegex := p.urlRegex
  headerRegexes :=
    match m with
    | .regex source => p.headerRegexes.insert name (.ofSource source)
    | .equalTo _ | .contains _ => p.headerRegexes.erase name

/-- A method and an exact url. -/
def ofMethodAndUrl (method url : String) : RequestPattern := (any.withMethod method).withUrl url

/-! ## Evaluation -/

/-- Whether the method is admitted. -/
def methodMatches (p : RequestPattern) (r : Request) : Bool :=
  match p.fields.method with
  | none => true
  | some m => m == "ANY" || Text.sameIgnoringCase m r.method

/-- Whether a header's value satisfies its constraint; a regular expression is looked up by the header's name. -/
def testHeader (regexes : SortedMap String WholeRegex) (name value : String) : HeaderMatcher → Verdict
  | .equalTo expected => .ok (value == expected)
  | .contains part => .ok (Text.hasStretch part.toList value.toList)
  | .regex _ =>
    match regexes.get? name with
    | some regex => regex.test value
    | none => .ok false

/-- Whether every header constraint of a list holds, up to the first that does not. -/
def testHeaders (regexes : SortedMap String WholeRegex) (r : Request) : List (String × HeaderMatcher) → Verdict
  | [] => .ok true
  | (name, m) :: rest =>
    match r.headers.get? name with
    | none => .ok false
    | some value =>
      match testHeader regexes name value m with
      | .ok true => testHeaders regexes r rest
      | verdict => verdict

/-- The verdict of a pattern on a request. -/
def evaluate (p : RequestPattern) (r : Request) : Verdict :=
  if !p.methodMatches r then .ok false
  else if p.fields.url.any (· != r.url) then .ok false
  else if p.fields.urlPath.any (· != r.path) then .ok false
  else
    match p.urlRegex with
    | none => testHeaders p.headerRegexes r p.fields.headers.toList
    | some regex =>
      match regex.test r.url with
      | .ok true => testHeaders p.headerRegexes r p.fields.headers.toList
      | verdict => verdict

/-! ## Written form -/

/-- The written form of a header constraint. -/
def matcherJson : HeaderMatcher → Json
  | .equalTo value => .fields [("equalTo", .text value)]
  | .contains part => .fields [("contains", .text part)]
  | .regex source => .fields [("matches", .text source)]

/-- A field that is left out when it has no value. -/
def optionalField (name : String) (value : Option String) : List (String × Json) :=
  match value with
  | some s => [(name, .text s)]
  | none => []

/-- The written form; constraints that are not set are left out. -/
def toJson (p : RequestPattern) : Json :=
  .fields <|
    (if p.fields.headers.isEmpty then []
      else [("headers", .fields (p.fields.headers.toList.map fun e => (e.1, matcherJson e.2)))]) ++
    optionalField "method" p.fields.method ++ optionalField "url" p.fields.url ++
    optionalField "urlPath" p.fields.urlPath ++ optionalField "urlPattern" p.fields.urlPattern

variable {δ : Type} [Document δ]

/-- The header constraint that a document writes: a table with the name of its kind alone. -/
def decodeMatcher? (d : δ) : Option HeaderMatcher :=
  match Document.fields? d with
  | some [("equalTo", v)] => (Document.text? v).map .equalTo
  | some [("contains", v)] => (Document.text? v).map .contains
  | some [("matches", v)] => (Document.text? v).map .regex
  | _ => none

/-- Header constraints written as a table; the last constraint on a name counts. -/
def decodeHeaders? (d : δ) : Option (SortedMap String HeaderMatcher) := do
  let fields ← Document.fields? d
  let pairs ← fields.mapM fun f => (decodeMatcher? f.2).map (f.1, ·)
  return .ofList pairs

/-- The pattern that a document writes. -/
def decode? (d : δ) : Option RequestPattern := do
  let r ← Record.of? ["method", "url", "urlPath", "urlPattern", "headers"] d
  let text := Document.optional? (δ := δ) Document.text?
  let method ← r.field? "method" text none
  let url ← r.field? "url" text none
  let urlPath ← r.field? "urlPath" text none
  let urlPattern ← r.field? "urlPattern" text none
  let headers ← r.field? "headers" decodeHeaders? ∅
  return ofFields { method, url, urlPath, urlPattern, headers }

end RequestPattern

end ScenarioStubs
