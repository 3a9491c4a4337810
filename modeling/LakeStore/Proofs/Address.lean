import Mathlib.Data.List.TakeWhile
import LakeStore.Proofs.Checks
import LakeStore.Proofs.Dots
import LakeStore.Proofs.Sending

/-!
The URLs of requests.

An account whose endpoint is spelled in unreserved characters is a plain host. Its base is read as its
scheme, its host and the root of the interface, and no later reading changes that. So the URL of a request
has the path of the request below that root, once encoded and without dot segments, and its parameters as a
form.
-/

namespace LakeStore.Text

open Percent

theorem toLower_toLower (c : Char) : c.toLower.toLower = c.toLower := by
  by_cases h : c.val ≥ 'A'.val ∧ c.val ≤ 'Z'.val
  · have hascii : c.toNat < 128 := Nat.lt_of_le_of_lt (UInt32.le_iff_toNat_le.mp h.2) (by decide)
    exact of_ascii (P := fun c => c.toLower.toLower = c.toLower) hascii (by decide)
  · have hself : c.toLower = c := dif_neg h
    rw [hself, hself]

@[simp] theorem lowerAscii_lowerAscii (s : String) : lowerAscii (lowerAscii s) = lowerAscii s := by
  rw [lowerAscii, lowerAscii, String.toList_ofList, List.map_map]
  exact congrArg String.ofList (List.map_congr_left fun c _ => toLower_toLower c)

theorem lowerAscii_eq_empty_iff {s : String} : lowerAscii s = "" ↔ s = "" := by
  rw [← String.toList_eq_nil_iff, lowerAscii, String.toList_ofList, List.map_eq_nil_iff,
    String.toList_eq_nil_iff]

end LakeStore.Text

namespace LakeStore.Http

open Text (lowerAscii)
open Text.Percent (isUnreserved encode keepsInPath of_isUnreserved)

/-- A name that is spelled in characters that stand for themselves everywhere. -/
structure IsPlain (s : String) : Prop where
  ne : s ≠ ""
  unreserved : ∀ c ∈ s.toList, isUnreserved c = true

variable {s host : String}

theorem IsPlain.notMem (hs : IsPlain s) {c : Char} (hc : isUnreserved c = false) : c ∉ s.toList := fun h => by
  rw [hs.unreserved c h] at hc; cases hc

theorem IsPlain.lowerAscii (hs : IsPlain s) : IsPlain (lowerAscii s) where
  ne h := hs.ne (Text.lowerAscii_eq_empty_iff.mp h)
  unreserved := by
    rw [Text.lowerAscii, String.toList_ofList]
    refine List.forall_mem_map.mpr fun c hc => ?_
    exact of_isUnreserved (P := fun c => isUnreserved c.toLower = true) (hs.unreserved c hc) (by decide)

namespace Host

/-- A plain name is a host as it is, in lower case if it is not an address. -/
theorem read_of_isPlain (hs : IsPlain s) :
    read s = if looksLikeAddress4 s.toList then (if isAddress4 s.toList then .ok s else .error (.address4 s))
      else .ok (lowerAscii s) := by
  have hbracket : ¬ (s.toList.head? = some '[' && s.toList.getLast? = some ']') = true := by
    rw [Bool.and_eq_true, decide_eq_true_iff]
    exact fun h => hs.notMem (by decide) (List.mem_of_mem_head? h.1)
  have hascii : s.toList.all (·.toNat < 0x80) = true :=
    List.all_eq_true.mpr fun c hc => decide_eq_true (Text.Percent.toNat_of_isUnreserved (hs.unreserved c hc))
  have hencode : encode keepsInHost (lowerAscii s) = lowerAscii s :=
    Text.Percent.encode_of_forall fun c hc => by rw [keepsInHost, hs.lowerAscii.unreserved c hc]; rfl
  simp only [read, if_neg hbracket, if_pos hascii, hencode]

theorem eq_of_read (hs : IsPlain s) (h : read s = .ok host) :
    host = lowerAscii s ∨ host = s := by
  rw [read_of_isPlain hs] at h
  split at h
  · split at h
    · exact .inr (Except.ok.inj h).symm
    · cases h
  · exact .inl (Except.ok.inj h).symm

theorem isPlain_of_read (hs : IsPlain s) (h : read s = .ok host) : IsPlain host := by
  rcases eq_of_read hs h with rfl | rfl
  · exact hs.lowerAscii
  · exact hs

/-- What was read once is not changed by reading it again. -/
theorem read_read {again : String} (hs : IsPlain s) (h : read s = .ok host) (h' : read host = .ok again) :
    again = host := by
  rcases eq_of_read hs h with rfl | rfl
  · rcases eq_of_read hs.lowerAscii h' with rfl | rfl
    · exact Text.lowerAscii_lowerAscii s
    · rfl
  · exact Except.ok.inj (h'.symm.trans h)

end Host

namespace Url

open Text.Percent (encode)

/-! ### Demands on the parts -/

/-- A part that is short enough and free of controls. -/
def Fits (part : String) : Prop := part.length ≤ greatestLength ∧ ∀ c ∈ part.toList, isControl c = false

theorem fits_iff_all {part : String} :
    Fits part ↔ part.length ≤ greatestLength ∧ part.toList.all (fun c => !isControl c) = true := by
  simp only [Fits, List.all_eq_true, Bool.not_eq_true']

instance : DecidablePred Fits := fun _ => decidable_of_iff' _ fits_iff_all

theorem control?_eq_none : control? s = none ↔ ∀ c ∈ s.toList, isControl c = false := by
  rw [control?, List.find?_eq_none]
  constructor
  · intro h c hc
    rw [← List.zipIdx_map_fst 0 s.toList] at hc
    obtain ⟨x, hx, rfl⟩ := List.mem_map.mp hc
    exact Bool.eq_false_iff.mpr (h x hx)
  · intro h x hx
    exact Bool.eq_false_iff.mp (h x.1 (List.fst_mem_of_mem_zipIdx hx))

theorem checkText_eq_ok : checkText s = .ok () ↔ Fits s := by
  rw [checkText, Fits, ← control?_eq_none]
  split
  case isTrue h => exact ⟨nofun, fun hfits => absurd hfits.1 (Nat.not_le.mpr h)⟩
  case isFalse h => cases control? s <;> simp [Nat.not_lt.mp h]

theorem checkPart_eq_ok {name : String} : checkPart (name, s) = .ok () ↔ Fits s := by
  rw [checkPart, Fits, ← control?_eq_none]
  split
  case isTrue h => exact ⟨nofun, fun hfits => absurd hfits.1 (Nat.not_le.mpr h)⟩
  case isFalse h => cases control? s <;> simp [Nat.not_lt.mp h]

theorem fits_empty : Fits "" := ⟨Nat.zero_le _, nofun⟩

/-- What is short enough stays so without its dot segments. -/
theorem Fits.withoutDots {path : String} (h : Fits path) : Fits (withoutDots path) := by
  have hsub := withoutDots_sublist path
  refine ⟨?_, fun c hc => h.2 c (hsub.subset hc)⟩
  rw [← String.length_toList]
  exact hsub.length_le.trans ((String.length_toList).trans_le h.1)

variable {p : Parts} {u v : Url} {path : String} {query : Option String}

theorem ofText_eq_ok : ofText s = .ok v ↔ Fits s ∧ ofParts (Parts.ofText s) = .ok v := by
  rw [ofText, check_bind_eq_ok, checkText_eq_ok]

theorem ofChanged_eq_ok : ofChanged p = .ok v ↔
    (Fits p.scheme ∧ Fits p.authority ∧ Fits p.path ∧ Fits (p.query.getD "") ∧ Fits (p.fragment.getD "")) ∧
      ofParts p = .ok v := by
  rw [ofChanged, check_bind_eq_ok, forM_eq_ok]
  simp only [List.forall_mem_cons, checkPart_eq_ok, List.not_mem_nil, false_imp_iff, implies_true, and_true]

/-! ### Cuts -/

theorem cutOff_of_notMem {mark : Char} {cs : List Char} (h : mark ∉ cs) : cutOff mark cs = (cs, none) := by
  rw [cutOff, Text.cutAt_of_notMem h]; rfl

theorem cutScheme_append {scheme rest : List Char} (hscheme : ∀ c ∈ scheme, isSchemeChar c = true)
    (halpha : ∀ c ∈ scheme.head?, c.isAlpha = true) : cutScheme (scheme ++ ':' :: rest) = (scheme, rest) := by
  have hcolon : ':' ∉ scheme := fun h => absurd (hscheme ':' h) (by decide)
  rw [cutScheme, Text.cutAt_append hcolon]
  cases scheme with
  | nil => rfl
  | cons first more =>
    obtain ⟨-, hmore⟩ := List.forall_mem_cons.mp hscheme
    exact if_pos (Bool.and_eq_true_iff.mpr ⟨halpha first rfl, List.all_eq_true.mpr hmore⟩)

theorem cutAuthority_append {authority rest : List Char} (h : '/' ∉ authority) :
    cutAuthority ('/' :: '/' :: (authority ++ '/' :: rest)) = (authority, '/' :: rest) := by
  have hne : ∀ c ∈ authority, (c != '/') = true := fun c hc => bne_iff_ne.mpr fun heq => h (heq ▸ hc)
  rw [cutAuthority, List.takeWhile_append_of_pos hne, List.dropWhile_append_of_pos hne,
    List.takeWhile_cons_of_neg (by decide), List.dropWhile_cons_of_neg (by decide), List.append_nil]

/-! ### Authorities -/

theorem cutUserinfo_of_notMem (h : '@' ∉ s.toList) : cutUserinfo s = ("", s) := by
  rw [cutUserinfo, Text.cutAt_of_notMem (by rwa [List.mem_reverse])]

theorem cutPort_of_notMem (hopen : '[' ∉ s.toList) (hcolon : ':' ∉ s.toList) : cutPort s = (s, "") := by
  have hhead : ¬ s.toList.head? = some '[' := fun h => hopen (List.mem_of_mem_head? h)
  have htake : s.toList.takeWhile (· != ':') = s.toList := List.takeWhile_eq_self_iff.mpr fun c hc => by
    rw [bne_iff_ne]; rintro rfl; exact hcolon hc
  have hdrop : s.toList.dropWhile (· != ':') = [] := List.dropWhile_eq_nil_iff.mpr fun c hc => by
    rw [bne_iff_ne]; rintro rfl; exact hcolon hc
  simp [cutPort, hhead, htake, hdrop]

/-- The URL of some parts on a plain host. -/
def on (host : String) (p : Parts) : Url where
  scheme := lowerAscii p.scheme
  host := host
  path := encode (visibleApartFrom pathCodes) (withoutDots p.path)
  query := p.query.map (encode (visibleApartFrom queryCodes))
  fragment := p.fragment.map (encode (visibleApartFrom fragmentCodes))

/-- Parts with a plain authority make up a URL on that host. -/
theorem ofParts_eq_ok (ha : IsPlain p.authority) (hp : Rooted p.path) :
    ofParts p = .ok v ↔ ∃ host, Host.read p.authority = .ok host ∧ v = on host p := by
  have huserinfo : encode (visibleApartFrom userinfoCodes) "" = "" := rfl
  have hport : readPort p.scheme "" = .ok none := rfl
  simp only [ofParts, cutUserinfo_of_notMem (ha.notMem (c := '@') (by decide)),
    cutPort_of_notMem (ha.notMem (c := '[') (by decide)) (ha.notMem (c := ':') (by decide)), huserinfo, hport,
    Option.getD_none, bind_eq_ok]
  refine exists_congr fun host => and_congr_right fun hread => ?_
  have hne : (host != "") = true := bne_iff_ne.mpr (Host.isPlain_of_read ha hread).ne
  simp only [hne, Bool.or_true, Bool.true_or, if_pos, checkPath_of_rooted hp, Except.ok.injEq,
    exists_eq_left', exists_const, true_and]
  exact ⟨fun h => (Except.ok.inj h).symm, fun h => congrArg Except.ok h.symm⟩

/-- A URL on a plain host. -/
structure OnPlainHost (u : Url) : Prop where
  userinfo : u.userinfo = ""
  port : u.port = none
  fragment : u.fragment = none
  host : IsPlain u.host

/-- A URL on a plain host that is read as it is. -/
structure Settled (u : Url) : Prop extends OnPlainHost u where
  read : Host.read u.host = .ok u.host
  scheme : lowerAscii u.scheme = u.scheme
  fits : Fits u.scheme ∧ Fits u.host

theorem OnPlainHost.parts_eq (hu : OnPlainHost u) : u.parts = ⟨u.scheme, u.host, u.path, u.query, none⟩ := by
  have hcolon : ':' ∉ u.host.toList := hu.host.notMem (by decide)
  simp [parts, authority, hu.userinfo, hu.port, hu.fragment, hcolon]

theorem OnPlainHost.ofChanged_eq_ok (hu : OnPlainHost u) (hp : Rooted path) :
    ofChanged { u.parts with path, query } = .ok v ↔
      (Fits u.scheme ∧ Fits u.host ∧ Fits path ∧ Fits (query.getD "")) ∧
        ∃ host, Host.read u.host = .ok host ∧ v =
          { u with
            scheme := lowerAscii u.scheme, host, path :=
              encode (visibleApartFrom pathCodes) (withoutDots path)
            query := query.map (encode (visibleApartFrom queryCodes)) } := by
  rw [hu.parts_eq, Url.ofChanged_eq_ok, Url.ofParts_eq_ok hu.host hp]
  simp only [on, hu.userinfo, hu.port, hu.fragment, Option.getD_none, Option.map_none, fits_empty, and_true]

/-- A settled URL keeps its scheme and its host when its path and its query are changed. -/
theorem Settled.ofChanged_eq_ok (hu : Settled u) (hp : Rooted path) (query : Option String) :
    ofChanged { u.parts with path, query } = .ok v ↔ Fits path ∧ Fits (query.getD "") ∧ v =
      { u with
        path := encode (visibleApartFrom pathCodes) (withoutDots path)
        query := query.map (encode (visibleApartFrom queryCodes)) } := by
  rw [hu.toOnPlainHost.ofChanged_eq_ok hp, hu.read, hu.scheme]
  simp only [hu.fits, true_and, Except.ok.injEq, exists_eq_left', and_assoc]

theorem Settled.changed (hu : Settled u) (path : String) (query : Option String) :
    Settled { u with path, query } := { hu with }

/-- A target without a query is a path. -/
theorem withTarget_eq {target : String} (h : '?' ∉ target.toList) :
    u.withTarget target = ofChanged { u.parts with path := target, query := none } := by
  rw [withTarget, cutOff_of_notMem h]
  show ofChanged { u.parts with path := String.ofList target.toList, query := none } = _
  rw [String.ofList_toList]

theorem target_eq (hpath : u.path ≠ "") (hquery : u.query = none) : u.target = u.path := by
  rw [target, if_neg hpath, hquery, String.append_empty]

theorem asBase_eq (hpath : u.path = "/webhdfs/v1") (hquery : u.query = none) :
    u.asBase = ofChanged { u.parts with path := "/webhdfs/v1/", query := none } := by
  rw [asBase, target_eq (by rw [hpath]; decide) hquery, hpath, if_neg (by decide)]
  exact withTarget_eq (by decide)

/-! ### Schemes -/

theorem scheme_of_ofParts {host : Option String} (h : ofParts p host = .ok v) :
    v.scheme = lowerAscii p.scheme := by
  simp only [ofParts, bind_eq_ok] at h
  obtain ⟨_, -, _, -, _, -, hv⟩ := h
  obtain rfl := Except.ok.inj hv
  rfl

/-- The scheme of a base is the one that its text is written with, in lower case. -/
theorem scheme_of_readBase (h : Client.readBase s = .ok v) :
    v.scheme = lowerAscii (Parts.ofText s).scheme := by
  obtain ⟨u, hu, hbase⟩ := bind_eq_ok.mp h
  have hscheme := scheme_of_ofParts (ofText_eq_ok.mp hu).2
  rw [asBase] at hbase
  split at hbase
  · obtain rfl := Except.ok.inj hbase
    exact hscheme
  · calc v.scheme = lowerAscii u.scheme := scheme_of_ofParts (ofChanged_eq_ok.mp hbase).2
      _ = lowerAscii (lowerAscii (Parts.ofText s).scheme) := by rw [hscheme]
      _ = lowerAscii (Parts.ofText s).scheme := Text.lowerAscii_lowerAscii _

theorem isSchemeChar_toLower {c : Char} (h : isSchemeChar c = true) : isSchemeChar c.toLower = true := by
  have hascii : c.toNat < 128 := by
    simp only [isSchemeChar, Bool.or_eq_true, decide_eq_true_iff] at h
    rcases h with ((h | rfl) | rfl) | rfl
    · exact Text.Percent.toNat_of_isUnreserved (by rw [Text.Percent.isUnreserved, h]; rfl)
    all_goals decide
  exact Text.Percent.of_ascii (P := fun c => isSchemeChar c = true → isSchemeChar c.toLower = true) hascii
    (by decide) h

end Url

end LakeStore.Http

namespace LakeStore

open Http (IsPlain Url)
open Http.Url (Settled Fits Rooted)

namespace Account

/-- The path below which the remote serves every account. -/
def interfacePath : String := "/webhdfs/v1/"

/-- A scheme of a URL, or none. -/
def IsScheme (s : String) : Prop :=
  (∀ c ∈ s.toList, Url.isSchemeChar c = true) ∧ ∀ c ∈ s.toList.head?, c.isAlpha = true

/-- An account whose endpoint is a plain host: its URL spells a scheme and that host. -/
structure Plain (a : Account) : Prop where
  scheme : IsScheme a.scheme
  endpoint : ∀ c ∈ a.endpoint.toList, Text.Percent.isUnreserved c = true

/-- The host of an account. -/
def host (a : Account) : String := a.name ++ "." ++ a.dnsSuffix

variable {a : Account}

theorem Plain.isPlain_host (ha : a.Plain) : IsPlain a.host where
  ne h := by
    have hlist := congrArg String.toList h
    simp [host] at hlist
  unreserved c hc := by
    have hmem : c ∈ a.endpoint.toList ∨ c = '.' := by
      simp only [host, name, dnsSuffix, label, suffix, Text.cut, String.toList_append, String.toList_ofList,
        List.mem_append] at hc
      rcases hc with (hc | hc) | hc
      · exact .inl (Text.mem_of_mem_cutAt_fst hc)
      · exact .inr (List.mem_singleton.mp hc)
      · exact .inl (Text.mem_of_mem_cutAt_snd hc)
    rcases hmem with hmem | rfl
    · exact ha.endpoint c hmem
    · decide

theorem toList_baseUrl (a : Account) :
    a.baseUrl.toList = a.scheme.toList ++ ':' :: '/' :: '/' :: (a.host.toList ++ "/webhdfs/v1".toList) := by
  simp [baseUrl, host]

/-- The base of a plain host is read as what it was made of. -/
theorem Plain.parts_baseUrl (ha : a.Plain) :
    Url.Parts.ofText a.baseUrl = ⟨a.scheme, a.host, "/webhdfs/v1", none, none⟩ := by
  have hmark {mark : Char} (hscheme : Url.isSchemeChar mark = false)
      (hhost : Text.Percent.isUnreserved mark = false) (hrest : mark ∉ "://".toList ++ "/webhdfs/v1".toList) :
      mark ∉ a.baseUrl.toList := fun h => by
    rw [toList_baseUrl] at h
    simp only [List.mem_append, List.mem_cons] at h
    rcases h with h | rfl | rfl | rfl | h | h
    · rw [ha.scheme.1 mark h] at hscheme; cases hscheme
    · exact absurd hrest (by decide)
    · exact absurd hrest (by decide)
    · exact absurd hrest (by decide)
    · exact ha.isPlain_host.notMem hhost h
    · exact hrest (List.mem_append_right _ h)
  have hfragment : Url.cutOff '#' a.baseUrl.toList = (a.baseUrl.toList, none) :=
    Url.cutOff_of_notMem (hmark (by decide) (by decide) (by decide))
  have hquery : Url.cutOff '?' a.baseUrl.toList = (a.baseUrl.toList, none) :=
    Url.cutOff_of_notMem (hmark (by decide) (by decide) (by decide))
  have hscheme : Url.cutScheme a.baseUrl.toList =
      (a.scheme.toList, '/' :: '/' :: (a.host.toList ++ '/' :: "webhdfs/v1".toList)) := by
    rw [toList_baseUrl]; exact Url.cutScheme_append ha.scheme.1 ha.scheme.2
  have hauthority : Url.cutAuthority ('/' :: '/' :: (a.host.toList ++ '/' :: "webhdfs/v1".toList)) =
      (a.host.toList, '/' :: "webhdfs/v1".toList) :=
    Url.cutAuthority_append (ha.isPlain_host.notMem (by decide))
  simp only [Url.Parts.ofText, hfragment, hquery, hscheme, hauthority, String.ofList_toList]
  rfl

/-- The base of a plain host is settled on that host, at the root of the interface. -/
theorem Plain.settled_readBase (ha : a.Plain) {base : Url} (h : Http.Client.readBase a.baseUrl = .ok base) :
    base.Settled ∧ base.path = interfacePath ∧ base.query = none := by
  have hrooted : Rooted "/webhdfs/v1" := .inr (by decide)
  have hfirst :
      Text.Percent.encode (Url.visibleApartFrom Url.pathCodes) (Url.withoutDots "/webhdfs/v1") =
        "/webhdfs/v1" := by
    rw [Url.withoutDots_of_undotted (by decide), Text.Percent.encode_of_all (by decide)]
  have hlast :
      Text.Percent.encode (Url.visibleApartFrom Url.pathCodes) (Url.withoutDots interfacePath) =
        interfacePath := by
    rw [Url.withoutDots_of_undotted (by decide), Text.Percent.encode_of_all (by decide)]
  obtain ⟨u, hu, hbase⟩ := bind_eq_ok.mp h
  rw [Url.ofText_eq_ok, ha.parts_baseUrl, Url.ofParts_eq_ok ha.isPlain_host hrooted] at hu
  obtain ⟨-, host, hread, rfl⟩ := hu
  have hon : Url.on host ⟨a.scheme, a.host, "/webhdfs/v1", none, none⟩ =
      { scheme := Text.lowerAscii a.scheme, host, path := "/webhdfs/v1" } := by
    rw [Url.on, hfirst]; rfl
  have hplain : Url.OnPlainHost { scheme := Text.lowerAscii a.scheme, host, path := "/webhdfs/v1" } :=
    ⟨rfl, rfl, rfl, Http.Host.isPlain_of_read ha.isPlain_host hread⟩
  rw [hon, Url.asBase_eq rfl rfl, hplain.ofChanged_eq_ok (.inr (by decide))] at hbase
  obtain ⟨⟨hscheme, hhost, -⟩, again, hagain, rfl⟩ := hbase
  obtain rfl := Http.Host.read_read ha.isPlain_host hread hagain
  have hfits : Fits (Text.lowerAscii (Text.lowerAscii a.scheme)) := by
    rw [Text.lowerAscii_lowerAscii]; exact hscheme
  exact ⟨⟨⟨rfl, rfl, rfl, hplain.host⟩, hagain, Text.lowerAscii_lowerAscii _, hfits, hhost⟩, hlast, rfl⟩

end Account

end LakeStore

namespace LakeStore.Remote.Transport

open Http (Url)
open Http.Url (Settled Fits Rooted withoutDots visibleApartFrom pathCodes queryCodes)
open Text.Percent (encode keepsInPath isUnreserved)

/-- A path without the delimiters that it starts with. -/
def trimmed (path : String) : String := Text.trimStart (· = '/') path

/-- The path of the URL of a request: below the root of the interface, without dot segments, and encoded. -/
def addressed (path : String) : String :=
  encode keepsInPath (withoutDots (Account.interfacePath ++ trimmed path))

/-- A transport whose base is settled at the root of the interface. -/
structure Grounded (t : Transport) : Prop where
  base : t.client.base.Settled
  path : t.client.base.path = Account.interfacePath
  query : t.client.base.query = none
  authorizes : t.client.authorizes = true
  opened : t.client.closed = false

variable {a : Account} {t : Transport} {r : Request} {id path : String} {u : Url}
  {q : Http.Request} {c : Char}

theorem grounded_of_plain (ha : a.Plain) (ht : ofAccount a = .ok t) : Grounded t ∧ t.account = a := by
  rw [ofAccount, Http.Client.make] at ht
  cases hbase : Http.Client.readBase a.baseUrl with
  | error fault => rw [hbase] at ht; cases ht
  | ok base =>
    rw [hbase] at ht
    obtain rfl := Except.ok.inj ht
    obtain ⟨hsettled, hpath, hquery⟩ := ha.settled_readBase hbase
    exact ⟨⟨hsettled, hpath, hquery, rfl, rfl⟩, rfl⟩

/-! ### Locations -/

theorem visible_of_keepsInPath (h : keepsInPath c = true ∨ c = '%') :
    visibleApartFrom pathCodes c = true := by
  have hascii : c.toNat < 128 := by
    rcases h with h | rfl
    · rw [keepsInPath, Bool.or_eq_true, decide_eq_true_iff] at h
      rcases h with h | rfl
      · exact Text.Percent.toNat_of_isUnreserved h
      · decide
    · decide
  exact Text.Percent.of_ascii
    (P := fun c => keepsInPath c = true ∨ c = '%' → visibleApartFrom pathCodes c = true) hascii (by decide) h

/-- What is encoded for a path is not encoded again. -/
theorem encode_encode (s : String) :
    encode (visibleApartFrom pathCodes) (encode keepsInPath s) = encode keepsInPath s :=
  Text.Percent.encode_of_forall fun _ hc => visible_of_keepsInPath
    (Text.Percent.mem_encode (fun _ => Text.Percent.keepsInPath_of_isUnreserved) hc)

theorem location_eq (path : String) : location path = "/" ++ encode keepsInPath (trimmed path) := rfl

theorem mem_location (h : c ∈ (location path).toList) : keepsInPath c = true ∨ c = '%' := by
  rw [location_eq, String.toList_append, List.mem_append] at h
  rcases h with h | h
  · exact .inl (by rw [List.mem_singleton.mp h]; decide)
  · exact Text.Percent.mem_encode (fun _ => Text.Percent.keepsInPath_of_isUnreserved) h

theorem notMem_location (hkeep : keepsInPath c = false) (hc : c ≠ '%') :
    c ∉ (location path).toList := fun h => by
  rcases mem_location h with h | h
  · rw [hkeep] at h; cases h
  · exact hc h

theorem location_ne (path : String) : location path ≠ "" := by
  rw [Ne, ← String.toList_eq_nil_iff, location_eq, String.toList_append]
  exact List.cons_ne_nil _ _

/-- No delimiter follows the first one. -/
theorem head?_encode_trimmed (path : String) :
    (encode keepsInPath (trimmed path)).toList.head? ≠ some '/' := by
  intro h
  rw [Text.Percent.toList_encode, trimmed, Text.trimStart, String.toList_ofList] at h
  cases hcs : path.toList.dropWhile fun c => decide (c = '/') with
  | nil => rw [hcs] at h; cases h
  | cons c cs =>
    have hc : c ≠ '/' := by
      have hhead := List.head?_dropWhile_not (fun c : Char => decide (c = '/')) path.toList
      rw [hcs] at hhead
      simpa using hhead
    rw [hcs, List.flatMap_cons, List.head?_append] at h
    obtain ⟨d, ds, hd⟩ := List.exists_cons_of_ne_nil (Text.Percent.encodeChar_ne_nil keepsInPath c)
    have hmem : d ∈ Text.Percent.encodeChar keepsInPath c := hd ▸ List.mem_cons_self
    obtain rfl : d = '/' := by rw [hd] at h; exact Option.some_inj.mp h
    rcases Text.Percent.mem_encodeChar hmem with ⟨-, h⟩ | h | h
    · exact hc h.symm
    · exact absurd h (by decide)
    · exact absurd h (by decide)

theorem isControl_of_visible {codes : List Nat} (h : visibleApartFrom codes c = true) :
    Url.isControl c = false := by
  simp only [visibleApartFrom, Bool.and_eq_true, decide_eq_true_iff] at h
  simp only [Url.isControl, Bool.or_eq_false_iff, decide_eq_false_iff_not]
  omega

theorem toList_location (path : String) :
    (location path).toList = '/' :: (encode keepsInPath (trimmed path)).toList :=
  String.toList_append

theorem trimStart_location (path : String) :
    Text.trimStart (· = '/') (location path) = encode keepsInPath (trimmed path) := by
  rw [Text.trimStart, toList_location, List.dropWhile_cons_of_pos (by decide), ← String.toList_inj,
    String.toList_ofList]
  cases hcs : (encode keepsInPath (trimmed path)).toList with
  | nil => rfl
  | cons c cs =>
    refine List.dropWhile_cons_of_neg ?_
    rw [decide_eq_true_iff]
    rintro rfl
    exact head?_encode_trimmed path (by rw [hcs]; rfl)

theorem parts_location (path : String) :
    Url.Parts.ofText (location path) = ⟨"", "", location path, none, none⟩ := by
  have hfragment : Url.cutOff '#' (location path).toList = ((location path).toList, none) :=
    Url.cutOff_of_notMem (notMem_location (by decide) (by decide))
  have hquery : Url.cutOff '?' (location path).toList = ((location path).toList, none) :=
    Url.cutOff_of_notMem (notMem_location (by decide) (by decide))
  have hscheme : Url.cutScheme (location path).toList = ([], (location path).toList) := by
    rw [Url.cutScheme, Text.cutAt_of_notMem (notMem_location (by decide) (by decide)), toList_location]
  have hauthority : Url.cutAuthority (location path).toList = ([], (location path).toList) := by
    rw [Url.cutAuthority]
    intro cs hcs
    rw [toList_location] at hcs
    exact head?_encode_trimmed path (by rw [(List.cons.inj hcs).2]; rfl)
  simp only [Url.Parts.ofText, hfragment, hquery, hscheme, hauthority, String.ofList_toList]

/-- The location of a path is a URL without a host. -/
theorem ofText_location (path : String) :
    Url.ofText (location path) = .ok u ↔ Fits (location path) ∧ u = { path := location path } := by
  rw [Url.ofText_eq_ok, parts_location]
  refine and_congr_right fun _ => ?_
  have hencode : encode (visibleApartFrom pathCodes) (location path) = location path :=
    Text.Percent.encode_of_forall fun _ hc => visible_of_keepsInPath (mem_location hc)
  have hcheck : Url.checkPath false false (location path) = .ok () := by
    rw [Url.checkPath, toList_location]
    cases hcs : (encode keepsInPath (trimmed path)).toList with
    | nil => rfl
    | cons c cs =>
      have hc : '/' ≠ c := fun h => head?_encode_trimmed path (by rw [hcs, ← h]; rfl)
      simp [hc]
  have hparts : Url.ofParts ⟨"", "", location path, none, none⟩ = .ok { path := location path } := by
    have huserinfo : Url.cutUserinfo "" = ("", "") := rfl
    have hcut : Url.cutPort "" = ("", "") := rfl
    have huser : encode (visibleApartFrom Url.userinfoCodes) "" = "" := rfl
    have hhost : Http.Host.read "" = .ok "" := rfl
    have hport : Url.readPort "" "" = .ok none := rfl
    simp only [Url.ofParts, huserinfo, hcut, huser]
    refine bind_eq_ok.mpr ⟨"", hhost, bind_eq_ok.mpr ⟨none, hport, check_bind_eq_ok.mpr ⟨hcheck, ?_⟩⟩⟩
    exact congrArg (fun path => Except.ok ({ path } : Url)) hencode
  rw [hparts]
  exact ⟨fun h => (Except.ok.inj h).symm, fun h => congrArg Except.ok h.symm⟩

theorem encode_interface (path : String) :
    encode keepsInPath (Account.interfacePath ++ trimmed path) = "/webhdfs/v1" ++ location path := by
  have hencode : encode keepsInPath Account.interfacePath = Account.interfacePath :=
    Text.Percent.encode_of_all (by decide)
  rw [Text.Percent.encode_append, hencode, location_eq, ← String.append_assoc]; rfl

/-- What is asked of the base for a path. -/
theorem below_base (ht : Grounded t) : ({ path := location path } : Url).below t.client.base = .ok u ↔
    Fits ("/webhdfs/v1" ++ location path) ∧
    u = { t.client.base with path := addressed path, query := none } := by
  have htarget : t.client.base.target ++ Text.trimStart (· = '/') ({ path := location path } : Url).target =
      "/webhdfs/v1" ++ location path := by
    rw [Url.target_eq (by rw [ht.path]; decide) ht.query, Url.target_eq (location_ne path) rfl, ht.path,
      trimStart_location, location_eq, ← String.append_assoc]
    rfl
  have hrooted : Rooted ("/webhdfs/v1" ++ location path) := .inr (by rw [String.toList_append]; rfl)
  have hquery : '?' ∉ ("/webhdfs/v1" ++ location path).toList := by
    rw [String.toList_append, List.mem_append, not_or]
    exact ⟨by decide, notMem_location (by decide) (by decide)⟩
  have hrelative : ¬ ({ path := location path } : Url).isAbsolute = true := Bool.false_ne_true
  have haddressed : encode (visibleApartFrom pathCodes) (withoutDots ("/webhdfs/v1" ++ location path)) =
      addressed path := by
    rw [← encode_interface, Url.withoutDots_encode (by decide) (by decide) (by decide), encode_encode]; rfl
  rw [Url.below, if_neg hrelative, htarget, Url.withTarget_eq hquery, ht.base.ofChanged_eq_ok hrooted]
  simp only [haddressed, Option.getD_none, Option.map_none, Url.fits_empty, true_and]

theorem Fits.of_append {s t : String} (h : Fits (s ++ t)) : Fits t := by
  refine ⟨?_, fun c hc => h.2 c ?_⟩
  · have hlength := h.1
    rw [String.length_append] at hlength
    exact Nat.le_trans (Nat.le_add_left _ _) hlength
  · rw [String.toList_append]; exact List.mem_append_right _ hc

theorem urlOf_eq_ok (ht : Grounded t) : t.client.urlOf (t.draft r id) = .ok u ↔
    Fits ("/webhdfs/v1" ++ location r.path) ∧
    u = { t.client.base with path := addressed r.path, query := none } := by
  rw [Http.Client.urlOf, bind_eq_ok]
  constructor
  · rintro ⟨v, hv, hu⟩
    obtain ⟨-, rfl⟩ := (ofText_location r.path).mp hv
    exact (below_base ht).mp hu
  · rintro ⟨hfits, hu⟩
    exact ⟨_, (ofText_location r.path).mpr ⟨Fits.of_append hfits, rfl⟩, (below_base ht).mpr ⟨hfits, hu⟩⟩

/-! ### Queries -/

theorem visible_of_form (h : isUnreserved c = true ∨ c ∈ ['%', '+', '=', '&']) :
    visibleApartFrom queryCodes c = true := by
  rcases h with h | h
  · exact Text.Percent.of_isUnreserved (P := fun c => visibleApartFrom queryCodes c = true) h (by decide)
  · exact List.all_eq_true.mp (by decide : ['%', '+', '=', '&'].all (visibleApartFrom queryCodes) = true) c h

/-- What is encoded as a form is not encoded again. -/
theorem encode_query (t : Transport) (r : Request) :
    encode (visibleApartFrom queryCodes) (t.query r) = t.query r :=
  Text.Percent.encode_of_forall fun _ hc => visible_of_form (Text.Form.mem_encode hc)

theorem rooted_addressed (path : String) : Rooted (addressed path) := by
  refine Rooted.encode (Rooted.withoutDots (.inr ?_)) (by decide)
  rw [String.toList_append]; rfl

/-- What is addressed for a path is not changed by another reading. -/
theorem addressed_again (path : String) :
    encode (visibleApartFrom pathCodes) (withoutDots (addressed path)) = addressed path := by
  rw [addressed, Url.withoutDots_encode (by decide) (by decide) (by decide), Url.withoutDots_withoutDots,
    encode_encode]

/-- The URL of a request. -/
def address (t : Transport) (r : Request) : Url :=
  { t.client.base with path := addressed r.path, query := some (t.query r) }

theorem withQuery_eq_ok (ht : Grounded t) :
    Url.withQuery { t.client.base with path := addressed path, query := none } (some (t.query r)) = .ok u ↔
      Fits (addressed path) ∧ Fits (t.query r) ∧
        u = { t.client.base with path := addressed path, query := some (t.query r) } := by
  have hchanged := (ht.base.changed (addressed path) none).ofChanged_eq_ok (v := u) (rooted_addressed path)
    (some (t.query r))
  rw [addressed_again, Option.map_some, encode_query] at hchanged
  exact hchanged

/-- A request can be written down if its parts fit. -/
theorem request_eq_ok (ht : Grounded t) : t.client.request (t.draft r id) = .ok q ↔
    (Fits ("/webhdfs/v1" ++ location r.path) ∧ (t.draft r id).headers.check = .ok () ∧
      Fits (addressed r.path) ∧
      Fits (t.query r)) ∧
      q = { method := Text.upper r.operation.verb, url := t.address r
            headers := Http.Draft.measured (Text.upper r.operation.verb) (content r)
              (t.client.headers.replace (t.draft r id).headers)
            content := (content r).getD (.whole []) } := by
  have hquery (u : Url) :
      (((t.draft r id).query.map u.withQuery).getD (.ok u)) = u.withQuery (some (t.query r)) := rfl
  simp only [Http.Client.request, bind_eq_ok, mapError_eq_ok, urlOf_eq_ok ht, hquery]
  constructor
  · rintro ⟨_, ⟨hpath, rfl⟩, _, hheaders, u, hu, hq⟩
    obtain ⟨haddressed, hform, rfl⟩ := (withQuery_eq_ok ht).mp hu
    exact ⟨⟨hpath, hheaders, haddressed, hform⟩, (Except.ok.inj hq).symm⟩
  · rintro ⟨⟨hpath, hheaders, haddressed, hform⟩, rfl⟩
    exact ⟨_, ⟨hpath, rfl⟩, (), hheaders, _, (withQuery_eq_ok ht).mpr ⟨haddressed, hform, rfl⟩, rfl⟩

end LakeStore.Remote.Transport
