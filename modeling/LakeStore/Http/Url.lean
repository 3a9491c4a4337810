import LakeStore.Http.Host
import LakeStore.Text.Numeral

/-!
URLs of the web, in their normal form.

A text is cut into its five parts, and each part is brought into its normal form: scheme and host in
lower case, no port that the scheme implies, no dot segments in the path of an absolute URL, and every
character that may not stand for itself percent encoded. What is encoded already stays as it is.
-/

namespace LakeStore.Http

/-- A URL in normal form. A query or fragment may be present and empty. -/
structure Url where
  scheme : String := ""
  userinfo : String := ""
  /-- The host; an address of the sixth version is without its brackets. -/
  host : String := ""
  port : Option Int := none
  path : String := ""
  query : Option String := none
  fragment : Option String := none
  deriving DecidableEq, Repr

namespace Url

/-! ### The parts of a text -/

/-- The parts of a URL as they are written. -/
structure Parts where
  scheme : String := ""
  authority : String := ""
  path : String := ""
  query : Option String := none
  fragment : Option String := none
  deriving DecidableEq, Repr

/-- What stands before the first occurrence of a mark, and what after it if there is one. -/
def cutOff (mark : Char) (cs : List Char) : List Char × Option String :=
  let parts := Text.cutAt mark cs
  (parts.1, parts.2.map String.ofList)

/-- Whether a character may occur in a scheme after the first one. -/
def isSchemeChar (c : Char) : Bool := c.isAlphanum || c = '+' || c = '.' || c = '-'

/-- A scheme before a colon, and the rest. A colon at the very start is passed over. -/
def cutScheme (cs : List Char) : List Char × List Char :=
  match Text.cutAt ':' cs with
  | ([], some rest) => ([], rest)
  | (first :: more, some rest) =>
    if first.isAlpha && more.all isSchemeChar then (first :: more, rest) else ([], cs)
  | (_, none) => ([], cs)

/-- An authority after two slashes, and the rest. -/
def cutAuthority : List Char → List Char × List Char
  | '/' :: '/' :: cs => (cs.takeWhile (· != '/'), cs.dropWhile (· != '/'))
  | cs => ([], cs)

/-- The parts of a text. -/
def Parts.ofText (s : String) : Parts :=
  let (cs, fragment) := cutOff '#' s.toList
  let (cs, query) := cutOff '?' cs
  let (scheme, cs) := cutScheme cs
  let (authority, path) := cutAuthority cs
  ⟨String.ofList scheme, String.ofList authority, String.ofList path, query, fragment⟩

/-- The longest part of a URL, and the longest URL. -/
def greatestLength : Nat := 65536

/-- Whether a character is a control that no URL contains. -/
def isControl (c : Char) : Bool := c.toNat < 0x20 || c.toNat = 0x7F

/-- The first control character of a text, with its position. -/
def control? (s : String) : Option (Char × Nat) := s.toList.zipIdx.find? fun c => isControl c.1

/-- Demands that a text is short enough and free of controls. -/
def checkText (s : String) : Except UrlFault Unit :=
  if greatestLength < s.length then .error .tooLong
  else (control? s).elim (.ok ()) fun (c, position) => .error (.control none c position)

/-- Demands the same of the part of some name. -/
def checkPart (part : String × String) : Except UrlFault Unit :=
  if greatestLength < part.2.length then .error (.partTooLong part.1)
  else (control? part.2).elim (.ok ()) fun (c, position) => .error (.control (some part.1) c position)

/-! ### Characters that stand for themselves -/

/-- The visible ASCII characters apart from some. -/
def visibleApartFrom (codes : List Nat) (c : Char) : Bool :=
  0x20 < c.toNat && c.toNat < 0x7F && !codes.contains c.toNat

/-- The visible characters that are encoded in a fragment: the quotation mark, the angle brackets and
the grave accent. -/
def fragmentCodes : List Nat := [0x22, 0x3C, 0x3E, 0x60]

/-- The visible characters that are encoded in a query: the quotation mark, the number sign and the angle
brackets. -/
def queryCodes : List Nat := [0x22, 0x23, 0x3C, 0x3E]

/-- The visible characters that are encoded in a path: those of a query, the question mark, the grave
accent and the braces. -/
def pathCodes : List Nat := queryCodes ++ [0x3F, 0x60, 0x7B, 0x7D]

/-- The visible characters that are encoded in user information: those of a path, the slash, the
semicolon, the equals and the at sign, the square brackets, the backslash, the circumflex and the bar. -/
def userinfoCodes : List Nat := pathCodes ++ [0x2F, 0x3B, 0x3D, 0x40, 0x5B, 0x5C, 0x5D, 0x5E, 0x7C]

/-! ### Authorities -/

/-- The ports that schemes imply. -/
def impliedPorts : List (String × Int) :=
  [("ftp", 21), ("http", 80), ("https", 443), ("ws", 80), ("wss", 443)]

/-- The port that a text names, none if it is the one that the scheme, as it is written, implies. -/
def readPort (scheme text : String) : Except UrlFault (Option Int) :=
  if text = "" then .ok none
  else
    match Text.Numeral.integer? 10 text with
    | some n => .ok (if impliedPorts.lookup scheme = some n then none else some n)
    | none => .error (.port text)

/-- What stands before the last at sign of an authority, and what after it. -/
def cutUserinfo (s : String) : String × String :=
  match Text.cutAt '@' s.toList.reverse with
  | (behind, some before) => (String.ofList before.reverse, String.ofList behind.reverse)
  | (_, none) => ("", s)

/-- A host and the text of a port. A host in brackets reaches to the last bracket. -/
def cutPort (s : String) : String × String :=
  let cs := s.toList
  let split (host rest : List Char) : String × String :=
    (String.ofList host, String.ofList (if rest.head? = some ':' then rest.drop 1 else rest))
  let bracketed := (cs.reverse.dropWhile (· != ']')).reverse
  if cs.head? = some '[' && bracketed != [] then split bracketed (cs.drop bracketed.length)
  else split (cs.takeWhile (· != ':')) (cs.dropWhile (· != ':'))

/-! ### Paths -/

/-- Segments without the dots that stand for the segment itself or for the one above it. Nothing lies
above the root. -/
def resolve (segments : List (List Char)) : List (List Char) :=
  segments.foldl (fun done segment =>
    if segment = ['.'] then done
    else if segment = ['.', '.'] then (if done = [] ∨ done = [[]] then done else done.dropLast)
    else done ++ [segment]) []

/-- A path without dot segments. -/
def withoutDots (path : String) : String :=
  Text.join "/" ((resolve (Text.pieces ['/'] path.toList)).map String.ofList)

/-- Demands that a path may follow what stands before it: after an authority it starts at the root, and
without scheme and authority it must not be taken for them. -/
def checkPath (hasScheme hasAuthority : Bool) (path : String) : Except UrlFault Unit :=
  let cs := path.toList
  if hasAuthority then if cs = [] || cs.head? = some '/' then .ok () else .error .unrootedPath
  else if hasScheme then .ok ()
  else if ['/', '/'].isPrefixOf cs then .error .pathLikeAuthority
  else if cs.head? = some ':' then .error .pathLikeScheme
  else .ok ()

/-! ### Normal forms -/

/-- The URL that some parts make up, on a host of its own if one is given. -/
def ofParts (p : Parts) (host : Option String := none) : Except UrlFault Url := do
  let (userinfo, rest) := cutUserinfo p.authority
  let (written, port) := cutPort rest
  let scheme := Text.lowerAscii p.scheme
  let userinfo := Text.Percent.encode (visibleApartFrom userinfoCodes) userinfo
  let host ← Host.read (host.getD written)
  let port ← readPort p.scheme port
  let hasScheme := scheme != ""
  let hasAuthority := userinfo != "" || host != "" || port.isSome
  checkPath hasScheme hasAuthority p.path
  let path := if hasScheme || hasAuthority then withoutDots p.path else p.path
  return { scheme, userinfo, host, port
           path := Text.Percent.encode (visibleApartFrom pathCodes) path
           query := p.query.map (Text.Percent.encode (visibleApartFrom queryCodes))
           fragment := p.fragment.map (Text.Percent.encode (visibleApartFrom fragmentCodes)) }

/-- The URL that a text spells, if it spells one. -/
def ofText (s : String) : Except UrlFault Url := do
  checkText s
  ofParts (Parts.ofText s)

variable (u : Url)

/-- The authority of a URL. -/
def authority : String :=
  (if u.userinfo = "" then "" else u.userinfo ++ "@")
    ++ (if u.host.toList.contains ':' then "[" ++ u.host ++ "]" else u.host)
    ++ (match u.port with
      | some n => ":" ++ toString n
      | none => "")

/-- The text of a URL. -/
def text : String :=
  (if u.scheme = "" then "" else u.scheme ++ ":")
    ++ (if u.authority = "" then "" else "//" ++ u.authority)
    ++ u.path
    ++ (match u.query with
      | some q => "?" ++ q
      | none => "")
    ++ (match u.fragment with
      | some f => "#" ++ f
      | none => "")

/-- What is asked of the host: the path, or the root if it is empty, and the query. -/
def target : String :=
  (if u.path = "" then "/" else u.path)
    ++ (match u.query with
      | some q => "?" ++ q
      | none => "")

/-- Whether a URL says by itself where it leads. -/
def isAbsolute : Bool := u.scheme != "" && u.host != ""

/-- The parts of a URL, to make up another one. -/
def parts : Parts where
  scheme := u.scheme
  authority := u.authority
  path := u.path
  query := u.query
  fragment := u.fragment

/-- The URL that changed parts of another one make up. -/
def ofChanged (p : Parts) (host : Option String := none) : Except UrlFault Url := do
  [("scheme", p.scheme), ("authority", p.authority), ("path", p.path), ("query", p.query.getD ""),
    ("fragment", p.fragment.getD "")].forM checkPart
  ofParts p host

/-- The same URL with another query. -/
def withQuery (query : Option String) : Except UrlFault Url := ofChanged { u.parts with query }

/-- The same URL with another target. -/
def withTarget (target : String) : Except UrlFault Url :=
  let (path, query) := cutOff '?' target.toList
  ofChanged { u.parts with path := String.ofList path, query }

/-- The same URL on another host; an address of the sixth version is put in brackets. -/
def withHost (host : String) : Except UrlFault Url :=
  ofChanged u.parts (some (if host.toList.contains ':' then "[" ++ host ++ "]" else host))

/-- The same URL with a target that ends in a slash, so that others can follow. -/
def asBase : Except UrlFault Url :=
  if u.target.toList.getLast? = some '/' then .ok u else u.withTarget (u.target ++ "/")

/-- A URL seen from a base: an absolute one stays as it is, and any other lies below the base. -/
def below (base : Url) : Except UrlFault Url :=
  if u.isAbsolute then .ok u
  else base.withTarget (base.target ++ Text.trimStart (· = '/') u.target)

end Url

end LakeStore.Http
