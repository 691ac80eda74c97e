import FleetDesk.Url.Basic

/-!
# Reading a URL

Blanks at the ends of the text and line breaks inside it do not count. What stands before the first
colon is the scheme; behind it a text is cut at the first number sign and then at the first question
mark, and what remains is the authority, if there is one, and the path. On the web backslashes count
as slashes, any number of them may stand before the host, and there must be a host.
-/

namespace FleetDesk.Url

def isControlOrBlank (c : Char) : Bool := c.toNat ≤ 0x20

def isBreak (c : Char) : Bool := c = '\t' || c = '\n' || c = '\r'

/-- The characters of a text that count. -/
def relevant (s : String) : List Char :=
  let cs := s.toList.dropWhile isControlOrBlank
  ((cs.reverse.dropWhile isControlOrBlank).reverse).filter (!isBreak ·)

def isSchemeChar (c : Char) : Bool := c.isAlphanum || c = '+' || c = '-' || c = '.'

/-- The scheme in small letters, and what follows the colon. -/
def scheme? (cs : List Char) : Option (String × List Char) :=
  match Text.cutAt ':' cs with
  | (c :: name, some rest) =>
    if c.isAlpha && name.all isSchemeChar then
      some (String.ofList ((c :: name).map Char.toLower), rest)
    else none
  | _ => none

def isSlash (web : Bool) (c : Char) : Bool := c = '/' || (web && c = '\\')

/-! ### Authority -/

/-- A port of at most 16 bits; none if it is not given, or the usual one. -/
def portOf (scheme : String) (cs : List Char) : Except Flaw (Option Nat) :=
  match cs with
  | [] => .ok none
  | cs =>
    match Text.numberIn? 10 cs with
    | none => .error .badPort
    | some n =>
      if 65535 < n then .error .badPort
      else .ok (if usualPort? scheme = some n then none else some n)

/-- The host and, behind a colon that is not inside brackets, the port. -/
def cutPort (inBrackets : Bool) : List Char → List Char × Option (List Char)
  | [] => ([], none)
  | c :: cs =>
    if c = ':' && !inBrackets then ([], some cs)
    else
      let inside := if c = '[' then true else if c = ']' then false else inBrackets
      let (host, port) := cutPort inside cs
      (c :: host, port)

/-- What stands before the last `@`, and behind it. -/
def cutLogin (cs : List Char) : Option (List Char) × List Char :=
  if cs.contains '@' then
    let host := (cs.reverse.takeWhile (· != '@')).reverse
    (some (cs.take (cs.length - host.length - 1)), host)
  else (none, cs)

def authorityOf (scheme : String) (cs : List Char) : Except Flaw Authority := do
  let web := isWebScheme scheme
  let (login, cs) := cutLogin cs
  let (hostText, portText) := cutPort false cs
  if hostText.isEmpty && (web || portText.isSome || login.isSome) then .error .emptyHost
  else do
    let host ← if web then webHost hostText else plainHost hostText
    let port ← portOf scheme (portText.getD [])
    .ok ⟨host, port⟩

/-! ### Path -/

/-- A name of a path in small letters, with encoded dots as dots. -/
def plainDots : List Char → List Char
  | '%' :: '2' :: c :: rest =>
    if c = 'e' || c = 'E' then '.' :: plainDots rest else '%' :: '2' :: c :: rest
  | '.' :: rest => '.' :: plainDots rest
  | cs => cs

def isHere (name : List Char) : Bool := plainDots name = ['.']

def isAbove (name : List Char) : Bool := plainDots name = ['.', '.']

def isDrive : List Char → Bool
  | [c, mark] => c.isAlpha && (mark = ':' || mark = '|')
  | _ => false

/-- Leaves the last directory; the drive that a file path starts with stays. -/
def leave (file : Bool) : List (List Char) → List (List Char)
  | [name] => if file && isDrive name && name.getLast? = some ':' then [name] else []
  | names => names.tail

def enter (file : Bool) (names : List (List Char)) (name : List Char) : List (List Char) :=
  if file && names.isEmpty && isDrive name then [name.take 1 ++ [':']]
  else percentEncode pathOthers name :: names

/-- Follows the names of a path; `names` are those so far, last first. A path that ends with a step
back, or with a step nowhere, ends with an empty name. -/
def follow (file : Bool) (names : List (List Char)) : List (List Char) → List (List Char)
  | [] => names
  | name :: rest =>
    let stepped :=
      if isAbove name then leave file names
      else if isHere name then names
      else enter file names name
    if rest.isEmpty && (isAbove name || isHere name) then [] :: stepped
    else follow file stepped rest

/-- The names of a path that is not empty, or that the web requires. -/
def segmentsOf (scheme : String) (cs : List Char) : Path :=
  let slash := isSlash (isWebScheme scheme)
  let cs := if cs.head?.any slash then cs.tail else cs
  .segments ((follow (scheme = "file") [] (Text.splitChars slash cs)).reverse.map String.ofList)

/-! ### The whole -/

/-- Cuts off what reaches to the next slash. -/
def cutSlash (web : Bool) (cs : List Char) : List Char × List Char :=
  (cs.takeWhile (!isSlash web ·), cs.dropWhile (!isSlash web ·))

def localHost : Host := .name ""

/-- A file is on this machine unless a host is named; a drive is no host. -/
def fileBody (cs : List Char) : Except Flaw (Option Authority × Path) :=
  match cs with
  | a :: b :: rest =>
    if isSlash true a && isSlash true b then
      let (hostText, path) := cutSlash true rest
      if hostText.isEmpty then .ok (some ⟨localHost, none⟩, segmentsOf "file" path)
      else if isDrive hostText then .ok (some ⟨localHost, none⟩, segmentsOf "file" rest)
      else do
        let host ← webHost hostText
        let host := if host = .name "localhost" then localHost else host
        .ok (some ⟨host, none⟩, segmentsOf "file" path)
    else .ok (some ⟨localHost, none⟩, segmentsOf "file" cs)
  | cs => .ok (some ⟨localHost, none⟩, segmentsOf "file" cs)

/-- What stands between the scheme and the query. -/
def bodyOf (scheme : String) (cs : List Char) : Except Flaw (Option Authority × Path) :=
  if scheme = "file" then fileBody cs
  else if isWebScheme scheme then do
    let (login, path) := cutSlash true (cs.dropWhile (isSlash true))
    let a ← authorityOf scheme login
    .ok (some a, segmentsOf scheme path)
  else
    match cs with
    | '/' :: '/' :: rest => do
      let (login, path) := cutSlash false rest
      let a ← authorityOf scheme login
      .ok (some a, if path.isEmpty then .segments [] else segmentsOf scheme path)
    | '/' :: _ => .ok (none, segmentsOf scheme cs)
    | cs => .ok (none, .flat (String.ofList (percentEncode [] cs)))

def parse (s : String) : Except Flaw Url :=
  match scheme? (relevant s) with
  | none => .error .relative
  | some (scheme, rest) => do
    let (rest, fragment) := Text.cutAt '#' rest
    let (rest, query) := Text.cutAt '?' rest
    let (authority, path) ← bodyOf scheme rest
    let queryOthers := if isWebScheme scheme then webQueryOthers else queryOthers
    .ok
      { scheme, authority, path
        query := query.map fun cs => String.ofList (percentEncode queryOthers cs)
        fragment := fragment.map fun cs => String.ofList (percentEncode fragmentOthers cs) }

/-- The origin of a URL as a text: that of the URL inside it for a `blob`, and `null` where there is
none. At most `fuel` URLs are opened. -/
def originWithin : Nat → Url → String
  | 0, _ => "null"
  | fuel + 1, u =>
    if u.scheme = "blob" then
      match parse u.path.text with
      | .ok inner => originWithin fuel inner
      | .error _ => "null"
    else u.webOrigin?.getD "null"

def origin (u : Url) : String := originWithin (u.text.length + 1) u

end FleetDesk.Url
