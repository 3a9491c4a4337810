import LakeStore.Domain.Name
import LakeStore.Http.UrlFault
import LakeStore.Text.Case
import LakeStore.Text.Percent

/-!
Hosts of URLs: addresses of the fourth and the sixth version, and names.

A name in ASCII is taken as it is, in lower case; whether it is a domain name is for others to find out. A
name in other letters has to be one, and is brought into its ASCII form.
-/

namespace LakeStore.Http.Host

/-! ### Addresses -/

/-- Whether a text has only ASCII digits. -/
def isNumber (cs : List Char) : Bool := cs != [] && cs.all Char.isDigit

/-- One of the four numbers of an address: at most 255, without leading zeros. -/
def isOctetNumber (cs : List Char) : Bool :=
  isNumber cs && cs.length ≤ 3 && (cs.length = 1 || cs.head? != some '0')
    && (cs.foldl (fun n c => n * 10 + (c.toNat - 48)) 0) ≤ 255

/-- Whether a text is an address of the fourth version. -/
def isAddress4 (cs : List Char) : Bool :=
  let parts := Text.pieces ['.'] cs
  parts.length = 4 && parts.all isOctetNumber

/-- Whether a text looks like an address of the fourth version: four numbers with any character between
neighbours. -/
def looksLikeAddress4 (cs : List Char) : Bool := numbers 3 cs
where
  /-- A number, with `n` more of them after it. -/
  numbers : Nat → List Char → Bool
    | _, [] => false
    | 0, cs => isNumber cs
    | n + 1, c :: rest => c.isDigit && (after n rest || numbers (n + 1) rest)
  /-- A character, and `n + 1` numbers after it. -/
  after (n : Nat) : List Char → Bool
    | [] => false
    | _ :: rest => numbers n rest

/-- One of the eight groups of an address. -/
def isGroup (cs : List Char) : Bool := cs != [] && cs.length ≤ 4 && cs.all fun c => (Hex.value? c).isSome

/-- The groups on one side of a gap: none when the gap reaches to the end of the address. -/
def besideGap (groups : List (List Char)) : List (List Char) := if groups = [[]] then [] else groups

/-- Whether groups make up an address: eight of them, or fewer with one gap. -/
def areGroups (groups : List (List Char)) : Bool :=
  match ((groups.drop 1).dropLast).findIdx? (· = []) with
  | none => groups.length = 8 && groups.all isGroup
  | some i =>
    let given := besideGap (groups.take (i + 1)) ++ besideGap (groups.drop (i + 2))
    given.length < 8 && given.all isGroup

/-- Whether a text is an address of the sixth version, apart from a zone. -/
def isAddress6 (cs : List Char) : Bool :=
  let (address, zone) := Text.cutAt '%' cs
  let groups := Text.pieces [':'] address
  let last := groups.getLastD []
  let groups :=
    if last.contains '.' then groups.dropLast ++ (if isAddress4 last then [['0'], ['0']] else [['.']])
    else groups
  let zoned := match zone with
    | none => true
    | some z => z != [] && !z.contains '%'
  3 ≤ groups.length && groups.length ≤ 9 && zoned && !cs.contains '/' && areGroups groups

/-! ### Names -/

/-- The characters of a host that stand for themselves beyond the unreserved ones. -/
def hostCodes : List Nat :=
  "!$&'()*+,;=".toList.map Char.toNat ++ [0x22, 0x60, 0x7B, 0x7D, 0x25, 0x7C, 0x5C]

/-- Whether a character of a host stands for itself. -/
def keepsInHost (c : Char) : Bool := Text.Percent.isUnreserved c || hostCodes.contains c.toNat

/-- The normal form of a host: an address as it is, without brackets, and a name in ASCII and in lower
case. -/
def read (s : String) : Except UrlFault String :=
  let cs := s.toList
  if looksLikeAddress4 cs then if isAddress4 cs then .ok s else .error (.address4 s)
  else if cs.head? = some '[' && cs.getLast? = some ']' then
    let address := (cs.drop 1).dropLast
    if isAddress6 address then .ok (String.ofList address) else .error (.address6 s)
  else if cs.all (·.toNat < 0x80) then .ok (Text.Percent.encode keepsInHost (Text.lowerAscii s))
  else
    match Domain.asciiName (Text.lower s).toList with
    | .ok name => .ok (String.ofList name)
    | .error _ => .error (.name s)

/-- Demands that a host can be shown in the letters it stands for. One that does not begin with an encoded
label stands for itself. -/
def checkShown (host : String) : Except Domain.Flaw Unit :=
  let cs := host.toList
  if Domain.encodedMark.isPrefixOf cs then (Domain.nameFlaw? cs).elim (.ok ()) .error else .ok ()

end LakeStore.Http.Host
