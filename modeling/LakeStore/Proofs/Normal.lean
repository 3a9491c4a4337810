import LakeStore.Account
import LakeStore.Proofs.Path
import LakeStore.Proofs.Reading

/-!
Reading settings again that were read before.

An endpoint is rid of outer blanks, then of one scheme, then of trailing delimiters, and a bucket of outer
blanks and then of outer delimiters. What is taken off later may uncover what was taken off before: blanks
behind the scheme or before a delimiter stay, and so does a second scheme. So settings are read again as
they are exactly if nothing of that kind is left at their ends, as is the case whenever there were only
outer blanks and one scheme.
-/

namespace LakeStore

namespace Text

variable {p : Char → Bool} {s : String}

/-! ### What is left at the ends of a text -/

/-- At neither end of a text there is a character that satisfies `p`. -/
def Bare (p : Char → Bool) (s : String) : Prop :=
  (∀ c ∈ s.toList.head?, p c = false) ∧ ∀ c ∈ s.toList.getLast?, p c = false

theorem toList_trimEnd (p : Char → Bool) (s : String) : (trimEnd p s).toList = s.toList.rdropWhile p :=
  String.toList_ofList

theorem toList_trim (p : Char → Bool) (s : String) :
    (trim p s).toList = (s.toList.dropWhile p).rdropWhile p := by
  rw [trim, toList_trimEnd, trimStart, String.toList_ofList]

theorem dropWhile_eq_self_iff_head? {l : List Char} : l.dropWhile p = l ↔ ∀ c ∈ l.head?, p c = false := by
  cases l with
  | nil => simp
  | cons c l => simp [List.dropWhile_eq_self_iff]

theorem rdropWhile_eq_self_iff_getLast? {l : List Char} : l.rdropWhile p = l ↔
    ∀ c ∈ l.getLast?, p c = false := by
  rw [List.getLast?_eq_head?_reverse, ← dropWhile_eq_self_iff_head?, List.rdropWhile, List.reverse_eq_iff]

theorem bare_iff : Bare p s ↔ s.toList.dropWhile p = s.toList ∧ s.toList.rdropWhile p = s.toList :=
  and_congr dropWhile_eq_self_iff_head?.symm rdropWhile_eq_self_iff_getLast?.symm

theorem bare_trim (p : Char → Bool) (s : String) : Bare p (trim p s) := by
  rw [bare_iff, toList_trim, Key.dropWhile_rdropWhile, List.dropWhile_idempotent, List.rdropWhile_idempotent]
  exact ⟨rfl, rfl⟩

/-- Nothing is taken off the ends of a text that are bare. -/
theorem trim_eq_self_iff : trim p s = s ↔ Bare p s := by
  constructor
  · intro h
    exact h ▸ bare_trim p s
  · intro h
    obtain ⟨hstart, hend⟩ := bare_iff.mp h
    rw [← String.toList_inj, toList_trim, hstart, hend]

theorem bare_of_forall (h : ∀ c ∈ s.toList, p c = false) : Bare p s :=
  ⟨fun c hc => h c (List.mem_of_head? hc), fun c hc => h c (List.mem_of_getLast? hc)⟩

theorem isInfix_trim (p : Char → Bool) (s : String) : (trim p s).toList <:+: s.toList := by
  rw [toList_trim]
  exact (List.rdropWhile_prefix p _).isInfix.trans (List.dropWhile_suffix p).isInfix

/-- A text that is still there when its ends were taken off is bare. -/
theorem bare_of_isInfix (h : s.toList <:+: (trim p s).toList) : Bare p s := by
  have htrim := isInfix_trim p s
  exact trim_eq_self_iff.mp
    (String.toList_inj.mp (htrim.eq_of_length (le_antisymm htrim.length_le h.length_le)))

end Text

namespace Lax

variable {α : Type} {entries : List (String × Value)}

/-- What a field that is present is read as. -/
theorem field_eq_ok_iff {read : Value → Checked α} {name : String} {absent : Option α} {v : Value} {x : α}
    (hv : Entries.find? name entries = some v) : field entries name absent read = .ok x ↔ read v = .ok x := by
  unfold field fieldAmong
  rw [List.findSome?_cons, hv]
  exact Checked.under_eq_ok

/-- A text is read as what is made of it. -/
theorem text_bind (s : String) (f : String → Checked α) : (text (.text s)).bind f = f s := rfl

theorem text_map (s : String) (f : String → α) : (text (.text s)).map f = .ok (f s) := rfl

/-- What was read from a field with a default is read again as it is, if all that can be read is. -/
theorem read_again {read : Value → Checked α} (write : α → Value) {name : String} {absent x : α}
    (hread : ∀ v x, read v = .ok x → read (write x) = .ok x) (habsent : read (write absent) = .ok absent)
    (h : field entries name (some absent) read = .ok x) : read (write x) = .ok x := by
  rcases field_eq_ok h with hdefault | ⟨v, hv⟩
  · obtain rfl := Option.some_inj.mp hdefault
    exact habsent
  · exact hread v x hv

end Lax

namespace Account

variable {e k : String} {a : Account} {entries : List (String × Value)}

/-! ### Endpoints and buckets -/

/-- A text without the scheme that it may start with. -/
def unmarked (s : String) : String := (Text.after? schemeMark s).getD s

theorem trimEndpoint_eq (s : String) : trimEndpoint s = Text.trimEnd (· = '/') (unmarked (Text.strip s)) :=
  rfl

theorem unmarked_cases (s : String) :
    s.toList = schemeMark.toList ++ (unmarked s).toList ∨ ¬ schemeMark.toList <+: s.toList ∧
    unmarked s = s := by
  rw [unmarked, Text.after?]
  cases h : List.isPrefixOf? schemeMark.toList s.toList with
  | some rest =>
    left
    rw [Option.map_some, Option.getD_some, String.toList_ofList]
    exact (List.isPrefixOf?_eq_some_iff_append_eq.mp h).symm
  | none =>
    refine .inr ⟨?_, rfl⟩
    rintro ⟨rest, hrest⟩
    rw [List.isPrefixOf?_eq_some_iff_append_eq.mpr hrest] at h
    cases h

theorem unmarked_suffix (s : String) : (unmarked s).toList <:+ s.toList := by
  rcases unmarked_cases s with h | ⟨-, h⟩
  · exact ⟨_, h.symm⟩
  · exact ⟨[], congrArg String.toList h⟩

theorem isInfix_trimEndpoint (s : String) : (trimEndpoint s).toList <:+: (Text.strip s).toList := by
  rw [trimEndpoint_eq, Text.toList_trimEnd]
  exact (List.rdropWhile_prefix _ _).isInfix.trans (unmarked_suffix _).isInfix

/-- What is left of an endpoint is left as it is if it has no outer blanks and no scheme. -/
theorem trimEndpoint_eq_self_iff (hend : Text.trimEnd (· = '/') e = e) :
    trimEndpoint e = e ↔ Text.Bare Text.isBlank e ∧ ¬ schemeMark.toList <+: e.toList := by
  constructor
  · intro h
    have hinfix := isInfix_trimEndpoint e
    rw [h] at hinfix
    have hbare : Text.Bare Text.isBlank e := Text.bare_of_isInfix hinfix
    have hstrip : Text.strip e = e := Text.trim_eq_self_iff.mpr hbare
    refine ⟨hbare, fun hmark => ?_⟩
    rcases unmarked_cases e with hcut | ⟨hno, -⟩
    · -- one scheme less is shorter
      rw [trimEndpoint_eq, hstrip] at h
      have hlength := (List.rdropWhile_prefix (· = '/') (unmarked e).toList).length_le
      rw [← Text.toList_trimEnd, h, hcut, List.length_append] at hlength
      have hmark : schemeMark.toList.length = 6 := by decide
      omega
    · exact hno hmark
  · rintro ⟨hbare, hno⟩
    have hstrip : Text.strip e = e := Text.trim_eq_self_iff.mpr hbare
    rcases unmarked_cases e with hcut | ⟨-, hkept⟩
    · exact absurd ⟨_, hcut.symm⟩ hno
    · rw [trimEndpoint_eq, hstrip, hkept, hend]

/-- An endpoint whose blanks are all outer ones has none left. -/
theorem bare_trimEndpoint (h : ∀ c ∈ (Text.strip e).toList, Text.isBlank c = false) :
    Text.Bare Text.isBlank (trimEndpoint e) :=
  Text.bare_of_forall fun c hc => h c ((isInfix_trimEndpoint e).subset hc)

/-- An endpoint with no second scheme has none left. -/
theorem unmarked_trimEndpoint (h : ¬ schemeMark.toList ++ schemeMark.toList <+: (Text.strip e).toList) :
    ¬ schemeMark.toList <+: (trimEndpoint e).toList := by
  intro hmark
  have hkeeps : (trimEndpoint e).toList <+: (unmarked (Text.strip e)).toList := by
    rw [trimEndpoint_eq, Text.toList_trimEnd]
    exact List.rdropWhile_prefix _ _
  have hbefore := hmark.trans hkeeps
  rcases unmarked_cases (Text.strip e) with hcut | ⟨hno, hkept⟩
  · rw [hcut] at h
    exact h ((List.prefix_append_right_inj _).mpr hbefore)
  · rw [hkept] at hbefore
    exact hno hbefore

theorem trimEnd_trimEndpoint (s : String) : Text.trimEnd (· = '/') (trimEndpoint s) = trimEndpoint s := by
  rw [trimEndpoint_eq, ← String.toList_inj, Text.toList_trimEnd, Text.toList_trimEnd,
    List.rdropWhile_idempotent]

/-- An endpoint is read if something is left before its first point, and behind it. -/
theorem readEndpoint_eq_ok_iff {x : String} :
    readEndpoint e = .ok x ↔ trimEndpoint e = x ∧ label x ≠ "" ∧ suffix x ≠ "" := by
  unfold readEndpoint
  simp only
  by_cases hparts : label (trimEndpoint e) = "" ∨ suffix (trimEndpoint e) = ""
  · rw [if_pos hparts]
    refine iff_of_false nofun ?_
    rintro ⟨rfl, hlabel, hsuffix⟩
    exact hparts.elim hlabel hsuffix
  · rw [if_neg hparts, Except.ok.injEq]
    constructor
    · rintro rfl
      exact ⟨rfl, not_or.mp hparts⟩
    · exact And.left

/-- What is left of a bucket is left as it is if it has no outer blanks. -/
theorem trimBucket_eq_self_iff (hk : Text.Bare (· = '/') k) : trimBucket k = k ↔
    Text.Bare Text.isBlank k := by
  constructor
  · intro h
    have hinfix : (trimBucket k).toList <:+: (Text.strip k).toList := Text.isInfix_trim _ _
    rw [h] at hinfix
    exact Text.bare_of_isInfix hinfix
  · intro h
    have hstrip : Text.strip k = k := Text.trim_eq_self_iff.mpr h
    rw [trimBucket, hstrip]
    exact Text.trim_eq_self_iff.mpr hk

/-- A bucket whose blanks are all outer ones has none left. -/
theorem bare_trimBucket (h : ∀ c ∈ (Text.strip k).toList, Text.isBlank c = false) :
    Text.Bare Text.isBlank (trimBucket k) :=
  Text.bare_of_forall fun c hc => h c ((Text.isInfix_trim _ _).subset hc)

/-! ### Whole settings -/

/-- Settings are read from some entries exactly if each of them is read from its field. -/
theorem ofEntries_eq_ok_iff : ofEntries entries = .ok a ↔
    Lax.field entries "endpoint" none (fun v => (Lax.text v).bind readEndpoint) = .ok a.endpoint ∧
      Lax.field entries "bucket" (some "") (fun v => (Lax.text v).map trimBucket) = .ok a.bucket ∧
      Lax.field entries "file_mode" (some 0o644) readMode = .ok a.fileMode ∧
      Lax.field entries "dir_mode" (some 0o755) readMode = .ok a.directoryMode ∧
      Lax.field entries "timeout_seconds" (some (.ofInt 30)) readTimeout = .ok a.timeout ∧
      Lax.field entries "api_version" (some "2016-11-01") Lax.text = .ok a.apiVersion ∧
      Lax.field entries "scheme" (some "https") Lax.text = .ok a.scheme := by
  constructor
  · intro h
    obtain ⟨_, scheme, h6, hscheme, rfl⟩ := Checked.apply_eq_ok.mp h
    obtain ⟨_, apiVersion, h5, hapi, rfl⟩ := Checked.apply_eq_ok.mp h6
    obtain ⟨_, timeout, h4, htimeout, rfl⟩ := Checked.apply_eq_ok.mp h5
    obtain ⟨_, directoryMode, h3, hdirectory, rfl⟩ := Checked.apply_eq_ok.mp h4
    obtain ⟨_, fileMode, h2, hfile, rfl⟩ := Checked.apply_eq_ok.mp h3
    obtain ⟨_, bucket, h1, hbucket, rfl⟩ := Checked.apply_eq_ok.mp h2
    obtain ⟨_, endpoint, h0, hendpoint, rfl⟩ := Checked.apply_eq_ok.mp h1
    obtain rfl := Except.ok.inj h0
    exact ⟨hendpoint, hbucket, hfile, hdirectory, htimeout, hapi, hscheme⟩
  · rintro ⟨hendpoint, hbucket, hfile, hdirectory, htimeout, hapi, hscheme⟩
    rw [ofEntries, hendpoint, hbucket, hfile, hdirectory, htimeout, hapi, hscheme]
    rfl

/-- Permission bits that were read are read again as they are. -/
theorem readMode_read {v : Value} {mode : Int} (h : readMode v = .ok mode) :
    readMode (.int mode) = .ok mode := by
  have hrange : ∀ n : Int, inRange n = .ok mode → inRange mode = .ok mode := by
    intro n hn
    obtain rfl : n = mode := by
      unfold inRange at hn
      split at hn
      · cases hn
      · split at hn
        · cases hn
        · exact Except.ok.inj hn
    exact hn
  unfold readMode at h
  split at h
  · split at h
    · exact hrange _ h
    · cases h
  · cases hint : Lax.int v with
    | error issues => rw [hint] at h; cases h
    | ok n => rw [hint] at h; exact hrange n h

theorem readTimeout_read {v : Value} {x : Binary64} (h : readTimeout v = .ok x) :
    readTimeout (.real x) = .ok x := by
  unfold readTimeout at h
  cases hreal : Lax.real v with
  | error issues => rw [hreal] at h; cases h
  | ok y =>
    rw [hreal] at h
    change (if y.isPositive then Except.ok y else Checked.flaw .notAbove) = Except.ok x at h
    by_cases hy : y.isPositive = true
    · rw [if_pos hy] at h
      obtain rfl := Except.ok.inj h
      exact if_pos hy
    · rw [if_neg hy] at h; cases h

theorem readTimeout_default : readTimeout (.real (.ofInt 30)) = .ok (.ofInt 30) := by
  have hpositive : (Binary64.ofInt 30).isPositive = true := by decide +kernel
  show (if (Binary64.ofInt 30).isPositive then Except.ok (Binary64.ofInt 30) else Checked.flaw .notAbove) = _
  rw [if_pos hpositive]

/-- The bucket of an accepted account was trimmed. -/
theorem exists_trimBucket {v : Value} (h : ofValue v = .ok a) : ∃ s, a.bucket = trimBucket s := by
  have hrecord : Lax.record ofEntries v = .ok a := (Checked.also_eq_ok.mp h).1
  rw [Lax.record] at hrecord
  split at hrecord
  case h_2 => cases hrecord
  case h_1 entries _ =>
    obtain ⟨-, hbucket, -⟩ := ofEntries_eq_ok_iff.mp hrecord
    rcases Lax.field_eq_ok hbucket with hdefault | ⟨w, hread⟩
    · exact ⟨"", (Option.some_inj.mp hdefault).symm.trans (by decide : "" = trimBucket "")⟩
    · cases htext : Lax.text w with
      | error issues => rw [htext] at hread; cases hread
      | ok s => rw [htext] at hread; exact ⟨s, (Except.ok.inj hread).symm⟩

/-- The bucket of an accepted account does not start with a delimiter. -/
theorem trimStart_bucket {v : Value} (h : ofValue v = .ok a) :
    Text.trimStart Key.isDelimiter a.bucket = a.bucket := by
  obtain ⟨s, hs⟩ := exists_trimBucket h
  have hlist :
      a.bucket.toList = ((Text.strip s).toList.dropWhile Key.isDelimiter).rdropWhile Key.isDelimiter := by
    rw [hs, trimBucket, Text.toList_trim]; rfl
  rw [← String.toList_inj, Key.toList_trimStart, hlist, Key.dropWhile_rdropWhile, List.dropWhile_idempotent]

theorem find?_toEntries (a : Account) :
    Entries.find? "endpoint" a.toEntries = some (.text a.endpoint) ∧
      Entries.find? "bucket" a.toEntries = some (.text a.bucket) ∧
      Entries.find? "file_mode" a.toEntries = some (.int a.fileMode) ∧
      Entries.find? "dir_mode" a.toEntries = some (.int a.directoryMode) ∧
      Entries.find? "timeout_seconds" a.toEntries = some (.real a.timeout) ∧
      Entries.find? "api_version" a.toEntries = some (.text a.apiVersion) ∧
      Entries.find? "scheme" a.toEntries = some (.text a.scheme) :=
  ⟨rfl, rfl, rfl, rfl, rfl, rfl, rfl⟩

/-- Settings with nothing left at the ends of the endpoint and the bucket that reading takes off. -/
structure Settled (a : Account) : Prop where
  endpoint : Text.Bare Text.isBlank a.endpoint
  unmarked : ¬ schemeMark.toList <+: a.endpoint.toList
  bucket : Text.Bare Text.isBlank a.bucket

theorem ofValue_table_iff :
    ofValue (.table entries) = .ok a ↔
      ofEntries entries = .ok a ∧ Lax.strays (some declared) (.table entries) = [] := by
  rw [ofValue, Lax.closed, Checked.also_eq_ok, Lax.record_table]

/-- Of the entries of settings that were read only the endpoint and the bucket may be read in another way. -/
theorem ofValue_toEntries_iff (h : ofValue (.table entries) = .ok a) :
    ofValue (.table a.toEntries) = .ok a ↔
      readEndpoint a.endpoint = .ok a.endpoint ∧ trimBucket a.bucket = a.bucket := by
  obtain ⟨-, -, hfile, hdirectory, htimeout, -, -⟩ := ofEntries_eq_ok_iff.mp (ofValue_table_iff.mp h).1
  have hfile := Lax.read_again .int (fun _ _ => readMode_read) rfl hfile
  have hdirectory := Lax.read_again .int (fun _ _ => readMode_read) rfl hdirectory
  have htimeout := Lax.read_again .real (fun _ _ => readTimeout_read) readTimeout_default htimeout
  have hstrays : Lax.strays (some declared) (.table a.toEntries) = [] := rfl
  obtain ⟨h1, h2, h3, h4, h5, h6, h7⟩ := find?_toEntries a
  rw [ofValue_table_iff, ofEntries_eq_ok_iff, Lax.field_eq_ok_iff h1, Lax.field_eq_ok_iff h2,
    Lax.field_eq_ok_iff h3, Lax.field_eq_ok_iff h4, Lax.field_eq_ok_iff h5, Lax.field_eq_ok_iff h6,
    Lax.field_eq_ok_iff h7, Lax.text_bind, Lax.text_map, Except.ok.injEq]
  constructor
  · rintro ⟨⟨hendpoint, hbucket, -⟩, -⟩
    exact ⟨hendpoint, hbucket⟩
  · rintro ⟨hendpoint, hbucket⟩
    exact ⟨⟨hendpoint, hbucket, hfile, hdirectory, htimeout, rfl, rfl⟩, hstrays⟩

/-- Accepted settings are read again as they are exactly if nothing is left at the ends of the endpoint and
the bucket that reading takes off: no outer blanks, and no scheme. No delimiter is ever left there. Texts
with no blanks but outer ones, and with one scheme at most, are read so that nothing is left. -/
theorem reread_iff (he : Entries.find? "endpoint" entries = some (.text e))
    (hk : Entries.find? "bucket" entries = some (.text k)) (h : ofValue (.table entries) = .ok a) :
    (ofValue (.table a.toEntries) = .ok a ↔ a.Settled) ∧
      Text.trimEnd (· = '/') a.endpoint = a.endpoint ∧ Text.Bare (· = '/') a.bucket ∧
      ((∀ c ∈ (Text.strip e).toList, Text.isBlank c = false) →
        ¬ schemeMark.toList ++ schemeMark.toList <+: (Text.strip e).toList →
        (∀ c ∈ (Text.strip k).toList, Text.isBlank c = false) → a.Settled) := by
  obtain ⟨hendpoint, hbucket, -⟩ := ofEntries_eq_ok_iff.mp (ofValue_table_iff.mp h).1
  rw [Lax.field_eq_ok_iff he, Lax.text_bind] at hendpoint
  rw [Lax.field_eq_ok_iff hk, Lax.text_map, Except.ok.injEq] at hbucket
  obtain ⟨hendpoint, hlabel, hsuffix⟩ := readEndpoint_eq_ok_iff.mp hendpoint
  have hend : Text.trimEnd (· = '/') a.endpoint = a.endpoint := hendpoint ▸ trimEnd_trimEndpoint e
  have hbare : Text.Bare (· = '/') a.bucket := hbucket ▸ Text.bare_trim _ _
  refine ⟨?_, hend, hbare, fun he hmark hk => ?_⟩
  · rw [ofValue_toEntries_iff h, readEndpoint_eq_ok_iff, trimEndpoint_eq_self_iff hend,
      trimBucket_eq_self_iff hbare]
    constructor
    · rintro ⟨⟨⟨hblank, hmark⟩, -⟩, hbucket⟩
      exact ⟨hblank, hmark, hbucket⟩
    · rintro ⟨hblank, hmark, hbucket⟩
      exact ⟨⟨⟨hblank, hmark⟩, hlabel, hsuffix⟩, hbucket⟩
  · exact ⟨hendpoint ▸ bare_trimEndpoint he, hendpoint ▸ unmarked_trimEndpoint hmark,
      hbucket ▸ bare_trimBucket hk⟩

theorem reread_iff_outerBlanks :
    ∃ a, ofValue (.table [("endpoint", .text " adl://a.b/ "), ("bucket", .text " /c/ ")]) = .ok a ∧
      a.endpoint = "a.b" ∧
      a.bucket = "c" ∧ ofValue (.table a.toEntries) = .ok a := by
  obtain ⟨a, h, hendpoint, hbucket⟩ :
      ∃ a, ofValue (.table [("endpoint", .text " adl://a.b/ "), ("bucket", .text " /c/ ")]) = .ok a ∧
        a.endpoint = "a.b" ∧ a.bucket = "c" := ⟨_, rfl, rfl, rfl⟩
  obtain ⟨hagain, -, -, hsettled⟩ := reread_iff (e := " adl://a.b/ ") (k := " /c/ ") rfl rfl h
  have hblankless : ∀ s ∈ [Text.strip " adl://a.b/ ", Text.strip " /c/ "],
      (s.toList.all fun c => !Text.isBlank c) = true := by decide +kernel
  have hinner : ∀ s ∈ [Text.strip " adl://a.b/ ", Text.strip " /c/ "], ∀ c ∈ s.toList,
    Text.isBlank c = false := by
    intro s hs c hc
    simpa using List.all_eq_true.mp (hblankless s hs) c hc
  exact ⟨a, h, hendpoint, hbucket, hagain.mpr
    (hsettled (hinner _ (by simp)) (by decide) (hinner _ (by simp)))⟩

/-- A blank behind the scheme and one behind a delimiter; a second scheme; and settings that are refused
when they are read again. -/
theorem reading_uncovers :
    (∃ a again, ofValue (.table [("endpoint", .text "adl:// a.b"), ("bucket", .text "/ c")]) = .ok a ∧
      ofValue (.table a.toEntries) = .ok again ∧ a.endpoint = " a.b" ∧ again.endpoint = "a.b" ∧
      a.bucket = " c" ∧ again.bucket = "c") ∧
    (∃ a again, ofValue (.table [("endpoint", .text "adl://adl://a.b"), ("bucket", .text "c")]) = .ok a ∧
      ofValue (.table a.toEntries) = .ok again ∧ a.endpoint = "adl://a.b" ∧ again.endpoint = "a.b") ∧
    ∃ a issues, ofValue (.table [("endpoint", .text "adl:// .b"), ("bucket", .text "c")]) = .ok a ∧
      ofValue (.table a.toEntries) = .error issues :=
  ⟨⟨_, _, rfl, rfl, rfl, rfl, rfl, rfl⟩, ⟨_, _, rfl, rfl, rfl, rfl⟩, _, _, rfl, rfl⟩

end Account

end LakeStore
