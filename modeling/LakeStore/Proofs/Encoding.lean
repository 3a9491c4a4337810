import LakeStore.Proofs.Address

/-!
What the URL of a request says.

The operation, the path and the parameters of a request can be read off the URL that it is sent to, and
nothing else is there: no character of a name or a value ends the path, begins a parameter or changes one.
So two requests go to the same place only if they are the same in all of these.
-/

namespace LakeStore.Entries

variable {α : Type} {name : String} {a : α} {entries more : List (String × α)}

theorem put_of_notMem (h : name ∉ names entries) : put name a entries = entries ++ [(name, a)] := by
  induction entries with
  | nil => rfl
  | cons e rest ih =>
    rw [names, List.map_cons, List.mem_cons, not_or] at h
    rw [put, if_neg (Ne.symm h.1), ih h.2, List.cons_append]

theorem names_append (entries more : List (String × α)) :
    names (entries ++ more) = names entries ++ names more :=
  List.map_append

/-- Entries with names of their own are put behind the ones that are there. -/
theorem putAll_of_nodup (h : (names (entries ++ more)).Nodup) : putAll entries more = entries ++ more := by
  induction more generalizing entries with
  | nil => rw [List.append_nil]; rfl
  | cons e rest ih =>
    have hsplit : entries ++ e :: rest = entries ++ [e] ++ rest := by
      rw [List.append_assoc, List.singleton_append]
    have he : e.1 ∉ names entries := by
      rw [names_append, List.nodup_append] at h
      exact fun hmem => h.2.2 e.1 hmem e.1 List.mem_cons_self rfl
    rw [hsplit] at h ⊢
    rw [← ih h, putAll, List.foldl_cons, put_of_notMem he]; rfl

end LakeStore.Entries

namespace LakeStore.Http

open Dialogue

variable {q sent : Request} {turns : List (Turn protocol)} {result : Except Fault Response}
  {answer : Except Fault Response}

theorem Heads.url (h : Heads q turns result) (hsent : sending sent answer ∈ turns) : sent.url = q.url := by
  cases h <;>
    simp only [List.mem_cons, sending_ne_authorizing, sending_ne_releasing, sending_inj,
      List.not_mem_nil, or_false, false_or] at hsent
  all_goals exact hsent.1 ▸ rfl

/-- A request that is written down is sent once it is authorized. -/
theorem Heads.authorized (h : Heads q turns result) :
    (∃ fault, turns = [authorizing (.error fault)]) ∨ ∃ sent answer, sending sent answer ∈ turns := by
  cases h with
  | unauthorized fault => exact .inl ⟨fault, rfl⟩
  | unanswered | garbled | astray | received => exact .inr ⟨_, _, .tail _ List.mem_cons_self⟩

end LakeStore.Http

namespace LakeStore.Remote

open Dialogue
open Http (Url sending authorizing)
open Http.Url (Fits)
open Text.Percent (encode keepsInPath isUnreserved)

theorem Operation.name_injective : Function.Injective Operation.name := by
  intro x y h
  cases x <;> cases y <;> first | rfl | exact absurd h (by decide)

namespace Transport

variable {a : Account} {t : Transport} {r r' : Request} {q q' : Http.Request}
  {turns : List (Turn Http.protocol)} {result : Except Fault Response}

/-- The transport sends a request of the web for a call. -/
def Issues (t : Transport) (r : Request) (q : Http.Request) : Prop :=
  ∃ turns result answer, Went (t.send r).run turns result ∧ sending q answer ∈ turns

/-- Whatever is sent for a call goes to its address. -/
theorem Issues.url (ht : Grounded t) (h : Issues t r q) : q.url = t.address r := by
  obtain ⟨turns, result, answer, hwent, hq⟩ := h
  have haddress {serial : Nat} {sent : Http.Request} (hsent : Reaches t r serial sent) :
      sent.url = t.address r := by
    obtain ⟨-, rfl⟩ := (request_eq_ok ht).mp hsent.1
    rfl
  cases Sends.of_went ht.authorizes hwent with
  | unwritten _ => exact absurd hq List.not_mem_nil
  | closed _ _ => exact absurd hq List.not_mem_nil
  | failed hsent hhead => exact (hhead.url hq).trans (haddress hsent)
  | left hsent hhead _ => exact (hhead.url hq).trans (haddress hsent)
  | read hsent hhead _ =>
    rcases List.mem_append.mp hq with hq | hq
    · exact (hhead.url hq).trans (haddress hsent)
    · simp at hq

/-- What the URL of a call is to say: its path, and its operation and parameters as pairs in order. -/
structure Says (a : Account) (r : Request) (u : Url) : Prop where
  path : Text.Percent.decode u.path.toList = Utf8.encode (Account.interfacePath ++ trimmed r.path)
  query : ∃ form, u.query = some form ∧ Text.Form.decode form =
    (("op", r.operation.name) :: r.params ++ [("api-version", a.apiVersion)]).map Text.Form.octets
  fragment : u.fragment = none

/-- A call whose path has no dot segments, and whose parameters have names of their own. -/
structure Proper (r : Request) : Prop where
  undotted : Url.Undotted r.path
  distinct : (Entries.names r.params).Nodup
  op : "op" ∉ Entries.names r.params
  version : "api-version" ∉ Entries.names r.params

/-- The parts of the URL of a call are short enough. -/
def Short (t : Transport) (r : Request) : Prop :=
  ("/webhdfs/v1" ++ location r.path).length ≤ Url.greatestLength ∧ (t.query r).length ≤ Url.greatestLength

instance (t : Transport) : DecidablePred (Short t) := fun r => inferInstanceAs (Decidable
  (("/webhdfs/v1" ++ location r.path).length ≤ Url.greatestLength ∧ (t.query r).length ≤ Url.greatestLength))

theorem params_eq (hr : Proper r) (t : Transport) :
    t.params r = ("op", r.operation.name) :: r.params ++ [("api-version", t.account.apiVersion)] := by
  have hnodup : (Entries.names ([("op", r.operation.name)] ++ r.params)).Nodup :=
    List.nodup_cons.mpr ⟨hr.op, hr.distinct⟩
  rw [params, Entries.putAll_of_nodup hnodup, Entries.put_of_notMem]
  · rfl
  · rw [Entries.names_append, List.mem_append, not_or]
    exact ⟨by simp [Entries.names], hr.version⟩

/-- A path without dot segments has none below the interface, either. -/
theorem undotted_interface {path : String} (h : Url.Undotted path) :
    Url.Undotted (Account.interfacePath ++ trimmed path) := by
  intro s hs
  rw [show Account.interfacePath = "/webhdfs/v1" ++ "/" from rfl, Url.pieces_glue, List.mem_append] at hs
  rcases hs with hs | hs
  · exact (by decide : Url.Undotted "/webhdfs/v1") s hs
  · rw [trimmed, Text.trimStart, String.toList_ofList] at hs
    exact h s (Url.pieces_dropWhile_subset _ hs)

theorem decode_addressed {path : String} (h : Url.Undotted path) :
    Text.Percent.decode (addressed path).toList = Utf8.encode (Account.interfacePath ++ trimmed path) := by
  rw [addressed, Url.withoutDots_of_undotted (undotted_interface h)]
  exact Text.Percent.decode_encode (by decide) _

theorem decode_query (hr : Proper r) (t : Transport) : Text.Form.decode (t.query r) =
    (("op", r.operation.name) :: r.params ++ [("api-version", t.account.apiVersion)]).map
      Text.Form.octets := by
  rw [query, Text.Form.decode_encode, params_eq hr]

theorem says_address (hr : Proper r) (ht : Grounded t) : Says t.account r (t.address r) := by
  rw [address]
  exact ⟨decode_addressed hr.undotted, ⟨t.query r, rfl, decode_query hr t⟩, ht.base.fragment⟩

/-! ### The same place -/

theorem notMem_addressed {path : String} : '?' ∉ (addressed path).toList := fun h => by
  rcases Text.Percent.mem_encode (fun _ => Text.Percent.keepsInPath_of_isUnreserved) h with h | h <;>
    exact absurd h (by decide)

/-- What stands before the path in the text of a URL. -/
def origin (u : Url) : String :=
  (if u.scheme = "" then "" else u.scheme ++ ":") ++ (if u.authority = "" then "" else "//" ++ u.authority)

theorem text_of_origin {u : Url} {path form : String} (h : u.fragment = none) :
    Url.text { u with path, query := some form } = origin u ++ path ++ ("?" ++ form) := by
  rw [Url.text, h]
  exact String.append_empty

theorem text_address (ht : Grounded t) (r : Request) :
    (t.address r).text = origin t.client.base ++ addressed r.path ++ ("?" ++ t.query r) := by
  rw [address, text_of_origin ht.base.fragment]

/-- A path and a query can be told apart in the text of a URL. -/
theorem address_inj (ht : Grounded t) (h : (t.address r).text = (t.address r').text) :
    addressed r.path = addressed r'.path ∧ t.query r = t.query r' := by
  rw [text_address ht, text_address ht, String.append_assoc, String.append_assoc,
    String.append_right_inj] at h
  have hcut := congrArg (fun s => Text.cutAt '?' s.toList) h
  simp only [String.toList_append] at hcut
  rw [show "?".toList = ['?'] from rfl, List.singleton_append, List.singleton_append,
    Text.cutAt_append notMem_addressed, Text.cutAt_append notMem_addressed] at hcut
  obtain ⟨hpath, hquery⟩ := Prod.mk.inj hcut
  exact ⟨String.toList_inj.mp hpath, String.toList_inj.mp (Option.some_inj.mp hquery)⟩

/-- Calls with the same address are the same. -/
theorem eq_of_address (hr : Proper r) (hr' : Proper r') (ht : Grounded t)
    (h : (t.address r).text = (t.address r').text) :
    r.operation = r'.operation ∧ trimmed r.path = trimmed r'.path ∧ r.params = r'.params := by
  obtain ⟨hpath, hquery⟩ := address_inj ht h
  have hdecoded : Utf8.encode (Account.interfacePath ++ trimmed r.path) =
      Utf8.encode (Account.interfacePath ++ trimmed r'.path) := by
    rw [← decode_addressed hr.undotted, ← decode_addressed hr'.undotted, hpath]
  have hpairs := decode_query hr t
  rw [hquery, decode_query hr'] at hpairs
  have hlists := (List.map_inj_right fun _ _ h => Text.Form.octets_injective h).mp hpairs
  rw [List.append_left_inj, List.cons_eq_cons] at hlists
  have hname := congrArg Prod.snd hlists.1
  exact ⟨(Operation.name_injective hname).symm,
    (String.append_right_inj _).mp (Utf8.encode_injective hdecoded),
    hlists.2.symm⟩

/-! ### Short calls -/

theorem ascii_of_forall {s : String} (h : ∀ c ∈ s.toList, Text.isAscii c = true) :
    Text.ascii s = .ok (s.toList.map fun c => c.toNat.toUInt8) := by
  have htake : s.toList.takeWhile Text.isAscii = s.toList := List.takeWhile_eq_self_iff.mpr h
  simp only [Text.ascii, htake, List.drop_length, List.takeWhile_nil, if_pos]

theorem isAscii_digitChar {d : Nat} (h : d < 16) : Text.isAscii d.digitChar = true :=
  (by decide : ∀ d : Fin 16, Text.isAscii (Nat.digitChar d) = true) ⟨d, h⟩

theorem isAscii_toDigits (n : Nat) : ∀ c ∈ Nat.toDigits 16 n, Text.isAscii c = true := by
  induction n using Nat.base_induction 16 (by decide) with
  | single m hm =>
    rw [Nat.toDigits_of_lt_base hm]
    exact List.forall_mem_singleton.mpr (isAscii_digitChar hm)
  | digit m k hk hm ih =>
    rw [← Nat.toDigits_append_toDigits (by decide) hm hk, Nat.toDigits_of_lt_base hk]
    exact List.forall_mem_append.mpr ⟨ih, List.forall_mem_singleton.mpr (isAscii_digitChar hk)⟩

theorem toList_numbered (serial : Nat) : (Identifier.numbered serial).toList =
    "00000000-0000-4000-8000-".toList ++ (Nat.toDigits 16 serial).leftpad 12 '0' :=
  String.toList_append.trans (congrArg _ String.toList_ofList)

theorem isAscii_numbered (serial : Nat) :
    ∀ c ∈ (Identifier.numbered serial).toList, Text.isAscii c = true := by
  rw [toList_numbered, List.leftpad]
  have hfront : "00000000-0000-4000-8000-".toList.all Text.isAscii = true := by decide
  refine List.forall_mem_append.mpr
    ⟨List.all_eq_true.mp hfront, List.forall_mem_append.mpr ⟨?_, isAscii_toDigits serial⟩⟩
  intro c hc
  rw [List.eq_of_mem_replicate hc]; rfl

theorem check_requestId (t : Transport) (r : Request) (serial : Nat) :
    (t.draft r (Identifier.numbered serial)).headers.check = .ok () := by
  refine forM_eq_ok.mpr (List.forall_mem_singleton.mpr ?_)
  have hname : ∀ c ∈ requestIdField.toList, Text.isAscii c = true := List.all_eq_true.mp (by decide)
  rw [ascii_of_forall hname, ascii_of_forall (isAscii_numbered serial)]; rfl

theorem fits_of_visible {s : String} {codes : List Nat} (hlength : s.length ≤ Url.greatestLength)
    (h : ∀ c ∈ s.toList, Url.visibleApartFrom codes c = true) : Fits s :=
  ⟨hlength, fun c hc => isControl_of_visible (h c hc)⟩

/-- The parts of the URL of a call fit. -/
def Writable (t : Transport) (r : Request) : Prop :=
  Fits ("/webhdfs/v1" ++ location r.path) ∧ Fits (addressed r.path) ∧ Fits (t.query r)

instance (t : Transport) : DecidablePred (Writable t) := fun r => inferInstanceAs (Decidable
  (Fits ("/webhdfs/v1" ++ location r.path) ∧ Fits (addressed r.path) ∧ Fits (t.query r)))

theorem Writable.reaches (h : Writable t r) (ht : Grounded t) (serial : Nat) : ∃ q, Reaches t r serial q :=
  ⟨_, (request_eq_ok ht).mpr ⟨⟨h.1, check_requestId t r serial, h.2.1, h.2.2⟩, rfl⟩, ht.opened⟩

/-- A short call has a URL, even if dot segments are taken out of its path. -/
theorem Short.writable (hshort : Short t r) : Writable t r := by
  have haddressed : addressed r.path = Url.withoutDots ("/webhdfs/v1" ++ location r.path) := by
    rw [addressed, ← Url.withoutDots_encode (by decide) (by decide) (by decide), encode_interface]
  have hpath : Fits ("/webhdfs/v1" ++ location r.path) := by
    refine fits_of_visible hshort.1 fun c hc => visible_of_keepsInPath ?_
    rw [String.toList_append, List.mem_append] at hc
    rcases hc with hc | hc
    · exact .inl (List.all_eq_true.mp (by decide : "/webhdfs/v1".toList.all keepsInPath = true) c hc)
    · exact mem_location hc
  exact ⟨hpath, haddressed ▸ hpath.withoutDots,
    fits_of_visible hshort.2 fun c hc => visible_of_form (Text.Form.mem_encode hc)⟩

/-- A short call is sent once it is authorized. -/
theorem Short.sent (hshort : Short t r) (ht : Grounded t) (h : Went (t.send r).run turns result) :
    (∃ fault, turns = [authorizing (.error fault)]) ∨ ∃ q answer, sending q answer ∈ turns := by
  cases Sends.of_went ht.authorizes h with
  | @unwritten serial _ hrequest =>
    obtain ⟨q, hq, -⟩ := hshort.writable.reaches ht serial
    exact nomatch hrequest.symm.trans hq
  | closed _ hclosed => exact nomatch ht.opened.symm.trans hclosed
  | failed _ hhead => exact hhead.authorized
  | left _ hhead _ => exact hhead.authorized
  | read _ hhead _ =>
    rcases hhead.authorized with ⟨fault, rfl⟩ | ⟨q, answer, hq⟩
    · cases hhead
    · exact .inr ⟨q, answer, List.mem_append_left _ hq⟩

/-- There is a conversation in which a call that fits is sent and is not answered. -/
theorem Writable.unanswered (h : Writable t r) (ht : Grounded t) :
    ∃ turns fault sent answer, Went (t.send r).run turns (.error fault) ∧ sending sent answer ∈ turns := by
  obtain ⟨q, hq⟩ := h.reaches ht 0
  have hhead := Http.Heads.unanswered (q := q) "" .closedClient
  exact ⟨_, _, _, _, (Sends.failed hq hhead).went ht.authorizes, .tail _ List.mem_cons_self⟩

theorem Writable.issues (h : Writable t r) (ht : Grounded t) : ∃ q, Issues t r q := by
  obtain ⟨turns, fault, q, answer, hwent, hq⟩ := h.unanswered ht
  exact ⟨q, turns, _, answer, hwent, hq⟩

/-- On a plain host, the URL that a call is sent to says the path, the operation and the parameters of the
call, and nothing else. So different calls go to different URLs, and every short call has one. -/
theorem url_says_call (ha : a.Plain) (ht : ofAccount a = .ok t) :
    (∀ r q, Proper r → Issues t r q → Says a r q.url) ∧
    (∀ r r' q q', Proper r → Proper r' → Issues t r q → Issues t r' q' → q.url.text = q'.url.text →
      r.operation = r'.operation ∧ trimmed r.path = trimmed r'.path ∧ r.params = r'.params) ∧
    ∀ r turns result, Proper r → Short t r → Went (t.send r).run turns result →
      (∃ fault, turns = [authorizing (.error fault)]) ∨ ∃ q answer, sending q answer ∈ turns := by
  obtain ⟨hground, rfl⟩ := grounded_of_plain ha ht
  refine ⟨fun r q hr hq => ?_, fun r r' q q' hr hr' hq hq' htext => ?_, fun r turns result _ hshort h => ?_⟩
  · rw [hq.url hground]
    exact says_address hr hground
  · rw [hq.url hground, hq'.url hground] at htext
    exact eq_of_address hr hr' hground htext
  · exact hshort.sent hground h

/-- An account on a plain host. -/
def plainAccount : Account := { endpoint := "acct.example.net", bucket := "up" }

/-- The transport of the account. -/
def plainTransport : Transport where
  account := plainAccount
  client :=
    { base := { scheme := "https", host := "acct.example.net", path := "/webhdfs/v1/" }, authorizes := true }

theorem plain_plainAccount : plainAccount.Plain :=
  ⟨⟨List.all_eq_true.mp (by decide), fun c hc => Option.some_inj.mp hc ▸ rfl⟩,
    List.all_eq_true.mp (by decide)⟩

theorem ofAccount_plainAccount : ofAccount plainAccount = .ok plainTransport := by
  have hbase : Http.Client.readBase plainAccount.baseUrl = .ok plainTransport.client.base := by decide +kernel
  rw [ofAccount, Http.Client.make, hbase]; rfl

/-- A call with marks of URLs in its path and in its parameters. -/
def markedCall : Request where
  operation := .rename
  path := "/up/a b%2F?op=DELETE#é"
  params := [("destination", "/up/c&op=DELETE"), ("renameoptions", "OVERWRITE")]

theorem url_says_call_marked :
    (∃ q, Issues plainTransport markedCall q) ∧ ∀ q, Issues plainTransport markedCall q →
      Says plainAccount markedCall q.url := by
  have hproper : Proper markedCall := ⟨by decide, by decide, by decide, by decide⟩
  have hshort : Short plainTransport markedCall := by decide +kernel
  have hground := (grounded_of_plain plain_plainAccount ofAccount_plainAccount).1
  obtain ⟨hcall, -⟩ := url_says_call plain_plainAccount ofAccount_plainAccount
  exact ⟨hshort.writable.issues hground, fun q => hcall markedCall q hproper⟩

end Transport

end LakeStore.Remote
