import IntentGateway.Text.Quoted

/-! # Request targets

A request names its target by a URL, absolute or relative to the root of the server. Only the path
of the URL says what is asked for: scheme, authority, query and fragment do not matter. A relative
path begins at the root with or without slashes in front, dot segments are resolved, and escapes are
decoded.
-/

namespace IntentGateway.Http.Target

/-- Why a text is no target. -/
inductive Error where
  | tooLong
  /-- There is a control character at a position. -/
  | control (c : Char) (position : Nat)
  /-- A path without scheme and authority begins like an authority. -/
  | likeAuthority
  /-- A path without scheme and authority begins like what is behind a scheme. -/
  | likeScheme
  deriving Repr, DecidableEq

/-- The words of an error. -/
def Error.message : Error → String
  | .tooLong => "URL too long"
  | .control c position =>
    "Invalid non-printable ASCII character in URL, " ++ String.ofList (Text.quoted [c])
      ++ " at position " ++ toString position ++ "."
  | .likeAuthority => "Relative URLs cannot have a path starting with '//'"
  | .likeScheme => "Relative URLs cannot have a path starting with ':'"

/-- The longest URL. -/
def lengthLimit : Nat := 65536

/-- The control characters of ASCII. -/
def isControl (c : Char) : Bool :=
  decide (c.toNat < 0x20) || decide (c.toNat = 0x7F)

/-! ## Parts of a URL -/

/-- The parts of a URL that matter. -/
structure Parts where
  hasScheme : Bool
  hasAuthority : Bool
  path : List Char
  deriving Repr, DecidableEq

/-- The characters of a scheme behind its first one. -/
def isSchemeChar (c : Char) : Bool :=
  c.isAlphanum || c == '+' || c == '.' || c == '-'

/-- Splits off the scheme and its colon; whether there is one, and the rest. A colon in front stands
behind no scheme. -/
def splitScheme (url : List Char) : Bool × List Char :=
  let scheme := url.takeWhile isSchemeChar
  match url.dropWhile isSchemeChar with
  | ':' :: rest =>
    if scheme.head?.all Char.isAlpha then (!scheme.isEmpty, rest) else (false, url)
  | _ => (false, url)

/-- Splits off the authority behind two slashes; whether there is one, and the rest. -/
def splitAuthority (text : List Char) : Bool × List Char :=
  let ends (c : Char) : Bool := c == '/' || c == '?' || c == '#'
  match text with
  | '/' :: '/' :: rest =>
    (!(rest.takeWhile (!ends ·)).isEmpty, rest.dropWhile (!ends ·))
  | _ => (false, text)

/-- The parts of a URL. -/
def partsOf (url : List Char) : Parts :=
  let (hasScheme, behindScheme) := splitScheme url
  let (hasAuthority, behindAuthority) := splitAuthority behindScheme
  { hasScheme, hasAuthority
    path := behindAuthority.takeWhile fun c => c != '?' && c != '#' }

/-! ## Paths -/

/-- The segments of a path, which stand between slashes. -/
def segmentsOf : List Char → List (List Char)
  | [] => [[]]
  | c :: path =>
    if c = '/' then [] :: segmentsOf path
    else
      match segmentsOf path with
      | [] => [[c]]
      | segment :: segments => (c :: segment) :: segments

/-- The segments that dot segments leave, behind those that are `done` backwards. A single dot stays
where it is; two dots go back, but never beyond the root. -/
def resolveDots (done : List (List Char)) : List (List Char) → List (List Char)
  | [] => done.reverse
  | segment :: segments =>
    if segment = ['.'] then resolveDots done segments
    else if segment = ['.', '.'] then
      resolveDots (if done = [[]] then done else done.tail) segments
    else resolveDots (segment :: done) segments

/-- A path with its escapes decoded. An escape beyond ASCII is read as the replacement character. -/
def decodeEscapes : List Char → List Char
  | '%' :: a :: b :: path =>
    match Text.hexValue? a, Text.hexValue? b with
    | some high, some low =>
      let value := 16 * high + low
      (if value < 0x80 then Char.ofNat value else Text.Point.replacement) :: decodeEscapes path
    | _, _ => '%' :: decodeEscapes (a :: b :: path)
  | c :: path => c :: decodeEscapes path
  | [] => []

/-- The path from the root on that the parts of a URL lead to. -/
def Parts.resolve (parts : Parts) : String :=
  let rooted :=
    if parts.hasScheme && parts.hasAuthority then parts.path
    else '/' :: parts.path.dropWhile (· == '/')
  let path := ['/'].intercalate (resolveDots [] (segmentsOf rooted))
  if path.isEmpty then "/" else String.ofList (decodeEscapes path)

/-- The path that a target leads to. -/
def path (target : String) : Except Error String :=
  let url := target.toList
  let parts := partsOf url
  if lengthLimit < url.length then .error .tooLong
  else
    match url.findIdx? isControl with
    | some i => .error (.control (url.getD i ' ') i)
    | none =>
      if parts.hasScheme || parts.hasAuthority then .ok parts.resolve
      else
        match parts.path with
        | '/' :: '/' :: _ => .error .likeAuthority
        | ':' :: _ => .error .likeScheme
        | _ => .ok parts.resolve

end IntentGateway.Http.Target
