set_option autoImplicit false

/-!
Requests and responses, and the parts of a request's target. A target is a path with a query and a
fragment, or such a path behind a scheme and an authority.
-/

namespace WorkflowLaunch.Http

structure Request where
  method : String
  target : String
  deriving DecidableEq, Repr

structure Response where
  status : Nat
  headers : List (String × String)
  body : String
  deriving DecidableEq, Repr

/-- A target without its fragment. `origin` is the scheme and the authority. -/
structure Target where
  origin : List Char
  path : List Char
  query : Option (List Char)
  deriving DecidableEq, Repr

namespace Target

/-- What stands before the first `://` and behind it. -/
def splitScheme? : List Char → Option (List Char × List Char)
  | ':' :: '/' :: '/' :: rest => some ([], rest)
  | [] => none
  | c :: rest => (splitScheme? rest).map fun (scheme, rest) => (c :: scheme, rest)

def endsAuthority (c : Char) : Bool := c == '/' || c == '?' || c == '#'

/-- The schemes of this protocol are written in small letters. -/
def schemeText (scheme : List Char) : List Char :=
  let small := scheme.map Char.toLower
  if small = "http".toList || small = "https".toList then small else scheme

/-- A path and its query. -/
def ofPath (origin text : List Char) : Target :=
  let text := text.takeWhile (· ≠ '#')
  let path := text.takeWhile (· ≠ '?')
  match text.drop path.length with
  | [] => ⟨origin, path, none⟩
  | _ :: query => ⟨origin, path, some query⟩

/-- The path of an empty one behind an authority is the root. -/
def ofText (text : String) : Target :=
  match text.toList with
  | '/' :: rest => ofPath [] ('/' :: rest)
  | text => match splitScheme? text with
    | none => ofPath [] text
    | some (scheme, rest) =>
      let authority := rest.takeWhile (!endsAuthority ·)
      let target := ofPath (schemeText scheme ++ "://".toList ++ authority)
        (rest.drop authority.length)
      { target with path := if target.path = [] then ['/'] else target.path }

def text (target : Target) : String :=
  String.ofList (target.origin ++ target.path ++ match target.query with
    | none => []
    | some query => '?' :: query)

end Target

end WorkflowLaunch.Http
