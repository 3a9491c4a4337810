import LakeStore.Text.Quoted

/-!
What keeps a text from being a URL.
-/

namespace LakeStore.Http

/-- Why a text is no URL, or why parts do not make up one. -/
inductive UrlFault where
  | tooLong
  /-- The part of this name is too long. -/
  | partTooLong (part : String)
  /-- A control character, the first one, in the whole or in the part of some name. -/
  | control (part : Option String) (c : Char) (position : Nat)
  | address4 (host : String)
  | address6 (host : String)
  /-- A host in letters beyond ASCII that is no domain name. -/
  | name (host : String)
  | port (text : String)
  /-- Behind an authority comes a path that does not start at the root. -/
  | unrootedPath
  /-- A path by itself starts like an authority. -/
  | pathLikeAuthority
  /-- A path by itself starts like the end of a scheme. -/
  | pathLikeScheme
  deriving DecidableEq, Repr

/-- A fault in words. -/
def UrlFault.message : UrlFault → String
  | .tooLong => "URL too long"
  | .partTooLong part => "URL component '" ++ part ++ "' too long"
  | .control part c position =>
    "Invalid non-printable ASCII character in URL" ++
      (part.elim "" fun part => " " ++ part ++ " component") ++ ", "
      ++ Text.quoted (String.singleton c) ++ " at position " ++ toString position ++ "."
  | .address4 host => "Invalid IPv4 address: " ++ Text.quoted host
  | .address6 host => "Invalid IPv6 address: " ++ Text.quoted host
  | .name host => "Invalid IDNA hostname: " ++ Text.quoted host
  | .port text => "Invalid port: " ++ Text.quoted text
  | .unrootedPath => "For absolute URLs, path must be empty or begin with '/'"
  | .pathLikeAuthority => "Relative URLs cannot have a path starting with '//'"
  | .pathLikeScheme => "Relative URLs cannot have a path starting with ':'"

end LakeStore.Http
