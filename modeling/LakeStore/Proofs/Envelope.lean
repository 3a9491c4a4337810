import LakeStore.Proofs.Blindness
import LakeStore.Proofs.Reading

/-!
The names in the description of a failure, in letters of any case.

A failure describes itself under four names. Each of them is known in a few spellings, of which the first
that is present counts. A description that spells all of them in a known way reads as one that spells them
as they should be, whatever it says, and then no operation tells the two apart; a name that is spelled in
any other way is passed over.
-/

namespace LakeStore.Remote

open Text (lowerAscii)
open Classification (described ofResponse)

/-! ### Spellings -/

/-- How the names in the description of a failure are spelled, in letters of any case. -/
structure Spelling where
  envelope : String := "RemoteException"
  exception : String := "exception"
  message : String := "message"
  javaClass : String := "javaClassName"
  lower_envelope : lowerAscii envelope = lowerAscii "RemoteException" := by decide +kernel
  lower_exception : lowerAscii exception = lowerAscii "exception" := by decide +kernel
  lower_message : lowerAscii message = lowerAscii "message" := by decide +kernel
  lower_javaClass : lowerAscii javaClass = lowerAscii "javaClassName" := by decide +kernel

/-- The known spellings of the envelope. -/
def envelopeNames : List String := ["RemoteException", "remoteException", "remoteexception"]

/-- The known spellings of the name of a failure. -/
def exceptionNames : List String := ["exception", "Exception"]

/-- The known spellings of its message. -/
def messageNames : List String := ["message", "Message"]

/-- The known spellings of its class. -/
def javaClassNames : List String := ["javaClassName", "JavaClassName", "javaclassname"]

namespace Spelling

variable {s : Spelling}

/-- All four names are spelled in a known way. -/
structure Known (s : Spelling) : Prop where
  envelope : s.envelope ∈ envelopeNames
  exception : s.exception ∈ exceptionNames
  message : s.message ∈ messageNames
  javaClass : s.javaClass ∈ javaClassNames

/-- The spelling of a name around a description. -/
def outer (s : Spelling) (name : String) : String := if name = "RemoteException" then s.envelope else name

/-- The spelling of a name in a description. -/
def inner (s : Spelling) (name : String) : String :=
  if name = "exception" then s.exception
  else if name = "message" then s.message
  else if name = "javaClassName" then s.javaClass
  else name

/-- A description with its names in this spelling. -/
def inside (s : Spelling) : Value → Value
  | .table entries => .table (entries.map fun e => (s.inner e.1, e.2))
  | v => v

/-- What wraps a description, with all names in this spelling. -/
def respell (s : Spelling) : Value → Value
  | .table entries =>
    .table (entries.map fun e => (s.outer e.1, if e.1 = "RemoteException" then s.inside e.2 else e.2))
  | v => v

theorem lower_outer (name : String) : lowerAscii (s.outer name) = lowerAscii name := by
  rw [outer]
  split
  · subst_vars; exact s.lower_envelope
  · rfl

theorem lower_inner (name : String) : lowerAscii (s.inner name) = lowerAscii name := by
  rw [inner]
  split_ifs
  · subst_vars; exact s.lower_exception
  · subst_vars; exact s.lower_message
  · subst_vars; exact s.lower_javaClass
  · rfl

end Spelling

/-- No entry goes by a name in other letters than it should. -/
def Sole (name : String) (entries : List (String × Value)) : Prop :=
  ∀ other ∈ Entries.names entries, lowerAscii other = lowerAscii name → other = name

/-- A value in which the names of a description stand only where they belong, and are spelled as they should
be. -/
def Canonical (v : Value) : Prop :=
  ∀ entries, v = .table entries → Sole "RemoteException" entries ∧
    ∀ description, Entries.find? "RemoteException" entries = some (.table description) →
      Sole "exception" description ∧ Sole "message" description ∧ Sole "javaClassName" description

section Reading

variable {name : String} {among : List String} {entries : List (String × Value)}

/-- Under other spellings of one name there is nothing. -/
theorem first?_of_sole (hamong : ∀ other ∈ among, lowerAscii other = lowerAscii name) (hname : name ∈ among)
    (hsole : Sole name entries) : Entries.first? among entries = Entries.find? name entries := by
  rw [Entries.first?_of_forall name, if_pos hname]
  intro other hother hne
  rw [Entries.find?_eq_none_iff]
  exact fun hmem => hne (hsole other hmem (hamong other hother))

/-- The entry of a name is found after its respelling if that is one of those looked for, and else there is
none. -/
theorem first?_respelled {f : String → String} {g : String → Value → Value}
    (hf : ∀ other, lowerAscii (f other) = lowerAscii other)
    (hamong : ∀ other ∈ among, lowerAscii other = lowerAscii name) (hsole : Sole name entries) :
    Entries.first? among (entries.map fun e => (f e.1, g e.1 e.2)) =
      if f name ∈ among then (Entries.find? name entries).map (g name) else none := by
  have hback : ∀ e ∈ entries, lowerAscii (f e.1) = lowerAscii name → e.1 = name := fun e he hsame =>
    hsole e.1 (List.mem_map_of_mem he) (by rw [← hf e.1, hsame])
  rw [Entries.first?_of_forall (f name), Entries.find?_map]
  · intro e he hsame
    exact hback e he (by rw [hsame, hf])
  · intro other hother hne
    rw [Entries.find?_eq_none_iff, Entries.names, List.map_map, List.mem_map]
    rintro ⟨e, he, rfl⟩
    exact hne (congrArg f (hback e he (hamong _ hother)))

/-- The text that is read from an entry, if it is there; a missing one is empty. -/
def textOf : Option Value → Option String
  | some v => (Lax.text v).toOption
  | none => some ""

theorem toOption_ofEntries (entries : List (String × Value)) :
    (Description.ofEntries entries).toOption =
      (textOf (Entries.first? exceptionNames entries)).bind fun exception =>
        (textOf (Entries.first? messageNames entries)).bind fun message =>
          (textOf (Entries.first? javaClassNames entries)).map fun javaClass =>
            ⟨exception, message, javaClass⟩ := by
  rw [Description.ofEntries, Checked.toOption_apply, Checked.toOption_apply, Checked.toOption_apply,
    Lax.toOption_fieldAmong, Lax.toOption_fieldAmong, Lax.toOption_fieldAmong]
  show (((some Description.mk).bind
      fun g => (textOf (Entries.first? exceptionNames entries)).map g).bind
      fun g => (textOf (Entries.first? messageNames entries)).map g).bind
      (fun g => (textOf (Entries.first? javaClassNames entries)).map g) = _
  cases textOf (Entries.first? exceptionNames entries) <;>
    cases textOf (Entries.first? messageNames entries) <;> rfl

/-- What is read of what may wrap a description. -/
def descriptionOf : Option Value → Option Description
  | some v => (Lax.record Description.ofEntries v).toOption
  | none => some {}

theorem toOption_description (entries : List (String × Value)) :
    (Payload.description (.table entries)).toOption =
      descriptionOf (Entries.first? envelopeNames entries) := by
  rw [Payload.description, Lax.record_table, Lax.toOption_fieldAmong]; rfl

end Reading

namespace Spelling

variable {s : Spelling} {entries : List (String × Value)}

theorem lower_exceptionNames : ∀ other ∈ exceptionNames, lowerAscii other = lowerAscii "exception" := by
  decide +kernel

theorem lower_messageNames : ∀ other ∈ messageNames, lowerAscii other = lowerAscii "message" := by
  decide +kernel

theorem lower_javaClassNames : ∀ other ∈ javaClassNames, lowerAscii other = lowerAscii "javaClassName" := by
  decide +kernel

theorem lower_envelopeNames : ∀ other ∈ envelopeNames, lowerAscii other = lowerAscii "RemoteException" := by
  decide +kernel

/-- What is found of a name in a description. -/
theorem first?_inside {name : String} {among : List String}
    (hamong : ∀ other ∈ among, lowerAscii other = lowerAscii name) (hsole : Sole name entries) :
    Entries.first? among (entries.map fun e => (s.inner e.1, e.2)) =
      if s.inner name ∈ among then Entries.find? name entries else none := by
  rw [first?_respelled (g := fun _ v => v) s.lower_inner hamong hsole]
  simp

/-- What is found of what wraps a description. -/
theorem first?_respell (hsole : Sole "RemoteException" entries) :
    Entries.first? envelopeNames
        (entries.map fun e => (s.outer e.1, if e.1 = "RemoteException" then s.inside e.2 else e.2)) =
      if s.envelope ∈ envelopeNames then (Entries.find? "RemoteException" entries).map s.inside else none :=
  first?_respelled (g := fun name v => if name = "RemoteException" then s.inside v else v) s.lower_outer
    lower_envelopeNames hsole

/-- A description reads alike in every known spelling. -/
theorem Known.toOption_inside (hs : s.Known) {v : Value}
    (hv : ∀ entries, v = .table entries →
      Sole "exception" entries ∧ Sole "message" entries ∧ Sole "javaClassName" entries) :
    (Lax.record Description.ofEntries (s.inside v)).toOption =
      (Lax.record Description.ofEntries v).toOption := by
  cases v with
  | table entries =>
    obtain ⟨hexception, hmessage, hjavaClass⟩ := hv entries rfl
    have hknown : s.inner "exception" ∈ exceptionNames ∧ s.inner "message" ∈ messageNames ∧
        s.inner "javaClassName" ∈ javaClassNames := ⟨hs.exception, hs.message, hs.javaClass⟩
    rw [inside, Lax.record_table, Lax.record_table, toOption_ofEntries, toOption_ofEntries,
      first?_inside lower_exceptionNames hexception, first?_inside lower_messageNames hmessage,
      first?_inside lower_javaClassNames hjavaClass, if_pos hknown.1, if_pos hknown.2.1, if_pos hknown.2.2,
      first?_of_sole lower_exceptionNames (by decide) hexception,
      first?_of_sole lower_messageNames (by decide) hmessage,
      first?_of_sole lower_javaClassNames (by decide) hjavaClass]
  | _ => rfl

/-- What wraps a description reads alike in every known spelling. -/
theorem Known.toOption_respell (hs : s.Known) {v : Value} (hv : Canonical v) :
    (Payload.description (s.respell v)).toOption = (Payload.description v).toOption := by
  cases v with
  | table entries =>
    obtain ⟨hsole, hdescription⟩ := hv entries rfl
    rw [respell, toOption_description, toOption_description, first?_respell hsole, if_pos hs.envelope,
      first?_of_sole lower_envelopeNames (by decide) hsole]
    cases hfind : Entries.find? "RemoteException" entries with
    | none => rfl
    | some w =>
      refine hs.toOption_inside ?_
      rintro inner rfl
      exact hdescription inner hfind
  | _ => rfl

/-- The entries of a description that says all there is to say. -/
def fullEntries (exception message javaClass : String) : List (String × Value) :=
  [("exception", .text exception), ("message", .text message), ("javaClassName", .text javaClass)]

/-- Such a description, wrapped. -/
def full (exception message javaClass : String) : Value :=
  .table [("RemoteException", .table (fullEntries exception message javaClass))]

theorem sole_fullEntries (exception message javaClass : String) :
    Sole "exception" (fullEntries exception message javaClass) ∧
      Sole "message" (fullEntries exception message javaClass) ∧
      Sole "javaClassName" (fullEntries exception message javaClass) := by
  show (∀ other ∈ ["exception", "message", "javaClassName"], _) ∧
    (∀ other ∈ ["exception", "message", "javaClassName"], _) ∧
    ∀ other ∈ ["exception", "message", "javaClassName"], _
  decide +kernel

theorem canonical_full (exception message javaClass : String) :
    Canonical (full exception message javaClass) := by
  intro entries hentries
  obtain rfl := Value.table.inj hentries
  refine ⟨fun other hother _ => List.mem_singleton.mp hother, fun description hdescription => ?_⟩
  obtain rfl := Value.table.inj (Option.some.inj hdescription)
  exact sole_fullEntries exception message javaClass

/-- A full description loses just what goes by names that are not known. -/
theorem toOption_respell_full (s : Spelling) (exception message javaClass : String) :
    (Payload.description (s.respell (full exception message javaClass))).toOption =
      some (if s.envelope ∈ envelopeNames then
        ⟨if s.exception ∈ exceptionNames then exception else "",
          if s.message ∈ messageNames then message else "",
          if s.javaClass ∈ javaClassNames then javaClass else ""⟩
      else {}) := by
  obtain ⟨hexception, hmessage, hjavaClass⟩ := sole_fullEntries exception message javaClass
  have hsole :
      Sole "RemoteException" [("RemoteException", Value.table (fullEntries exception message javaClass))] :=
    fun other hother _ => List.mem_singleton.mp hother
  rw [full, respell, toOption_description, first?_respell hsole]
  split
  · show (Lax.record Description.ofEntries
      (.table ((fullEntries exception message javaClass).map _))).toOption = _
    rw [Lax.record_table, toOption_ofEntries, first?_inside lower_exceptionNames hexception,
      first?_inside lower_messageNames hmessage, first?_inside lower_javaClassNames hjavaClass]
    show (textOf (if s.exception ∈ exceptionNames then some (.text exception) else none)).bind
      (fun exception =>
      (textOf (if s.message ∈ messageNames then some (.text message) else none)).bind fun message =>
        (textOf (if s.javaClass ∈ javaClassNames then some (.text javaClass) else none)).map _) = _
    split_ifs <;> rfl
  · rfl

/-- Every description reads alike exactly in the known spellings. -/
theorem known_iff (s : Spelling) :
    s.Known ↔ ∀ v, Canonical v → (Payload.description (s.respell v)).toOption =
      (Payload.description v).toOption := by
  refine ⟨fun hs v hv => hs.toOption_respell hv, fun h => ?_⟩
  -- what says all there is to say loses whatever goes by a name that is not known
  have hfull := h (full "e" "m" "j") (canonical_full "e" "m" "j")
  rw [toOption_respell_full, show Payload.description (full "e" "m" "j") =
    .ok ⟨"e", "m", "j"⟩ by rfl] at hfull
  by_cases henvelope : s.envelope ∈ envelopeNames
  · rw [if_pos henvelope] at hfull
    obtain ⟨hexception, hmessage, hjavaClass⟩ := Description.mk.inj (Option.some.inj hfull)
    refine ⟨henvelope, ?_, ?_, ?_⟩
    · by_contra hname
      rw [if_neg hname] at hexception
      exact absurd hexception (by decide)
    · by_contra hname
      rw [if_neg hname] at hmessage
      exact absurd hmessage (by decide)
    · by_contra hname
      rw [if_neg hname] at hjavaClass
      exact absurd hjavaClass (by decide)
  · rw [if_neg henvelope] at hfull
    exact absurd hfull (by decide)

/-! ### Failures in another spelling -/

/-- A failure as it is when its body is spelled in this way, and all else is as it was. -/
def Respells (s : Spelling) (r r' : Response) : Prop :=
  r.isSuccess = false ∧ ∃ v body, Json.decode? r.body = some v ∧ Canonical v ∧
    Json.decode? body = some (s.respell v) ∧ r' = { r with body }

/-- The same answer, or a failure in this spelling. -/
inductive Mirrors (s : Spelling) : Except Fault Response → Except Fault Response → Prop
  | refl (a : Except Fault Response) : Mirrors s a a
  | respelled {r r' : Response} : s.Respells r r' → Mirrors s (.ok r) (.ok r')

theorem Known.failsAs (hs : s.Known) {r r' : Response} (h : s.Respells r r') : r.FailsAs r' := by
  obtain ⟨hfailed, v, body, hv, hcanonical, hbody, rfl⟩ := h
  refine ⟨hfailed, rfl, ?_⟩
  rw [Payload.decode?, Payload.decode?, hv, hbody]
  exact hs.toOption_respell hcanonical

theorem Known.alike (hs : s.Known) {a a' : Except Fault Response} (h : s.Mirrors a a') : Alike a a' := by
  cases h with
  | refl => exact .refl a
  | respelled h => exact .failed (hs.failsAs h)

/-- Every description reads alike exactly in the known spellings of its names. A failure in a known
spelling stands for the same error, and no operation goes or ends otherwise for the spelling of what it is
answered. -/
theorem known_spellings (s : Spelling) :
    (s.Known ↔
      ∀ v, Canonical v → (Payload.description (s.respell v)).toOption = (Payload.description v).toOption) ∧
    (s.Known → ∀ r r' structured, s.Respells r r' →
      (ofResponse r' structured : Dialogue protocol _) = ofResponse r structured) ∧
    (s.Known → ∀ (b : Backend) (c : Backend.Command) (σ : Type)
      (counterpart counterpart' : Request → σ → Except Fault Response × σ) (serials : Nat) (t : σ),
      (∀ q t, s.Mirrors (counterpart q t).1 (counterpart' q t).1 ∧
        (counterpart' q t).2 = (counterpart q t).2) →
      Dialogue.run (P := protocol) counterpart' (b.perform c).run serials t =
        Dialogue.run (P := protocol) counterpart (b.perform c).run serials t) := by
  refine ⟨s.known_iff, fun hs r r' structured h => (hs.failsAs h).ofResponse_eq structured, ?_⟩
  intro hs b c σ counterpart counterpart' serials t h
  exact (Backend.blind_perform b c).run_eq (fun q t => ⟨hs.alike (h q t).1, (h q t).2⟩) serials t

/-- A refusal of an append, with this body. -/
def refused (body : String) : Response where
  operation := .append
  status := 400
  body := Utf8.encode body

/-- A refusal for the offset, as it is to be described. -/
def offsetBody : String :=
  "\x7b\"RemoteException\":\x7b\"exception\":\"BadOffsetException\",\"message\":\"m\",\"javaClassName\":\"j\"\x7d\x7d"

theorem decode_offsetBody :
    Json.decode? (Utf8.encode offsetBody) = some (full "BadOffsetException" "m" "j") := by
  decide +kernel

/-- A spelling that is known, and nowhere the usual one. -/
def unusual : Spelling where
  envelope := "remoteexception"
  exception := "Exception"
  message := "Message"
  javaClass := "javaclassname"

/-- A refusal for the offset in this spelling. -/
def unusualBody : String :=
  "\x7b\"remoteexception\":\x7b\"Exception\":\"BadOffsetException\",\"Message\":\"m\",\"javaclassname\":\"j\"\x7d\x7d"

/-- A refusal in an unusual spelling is the same refusal. -/
theorem known_spellings_unusual :
    unusual.Known ∧ unusual.Respells (refused offsetBody) (refused unusualBody) ∧
      (ofResponse (refused unusualBody) true : Dialogue protocol _) =
        ofResponse (refused offsetBody) true := by
  have hknown : unusual.Known := ⟨by decide, by decide, by decide, by decide⟩
  have hrespells : unusual.Respells (refused offsetBody) (refused unusualBody) :=
    ⟨rfl, _, _, decode_offsetBody, canonical_full _ _ _, by decide +kernel, rfl⟩
  exact ⟨hknown, hrespells, (known_spellings unusual).2.1 hknown _ _ true hrespells⟩

/-- A spelling in which the name of a failure is in capitals. -/
def loud : Spelling where
  exception := "EXCEPTION"

/-- A refusal for the offset in this spelling. -/
def loudBody : String :=
  "\x7b\"RemoteException\":\x7b\"EXCEPTION\":\"BadOffsetException\",\"message\":\"m\",\"javaClassName\":\"j\"\x7d\x7d"

theorem ofResponse_described {r : Response} {d : Description} (hr : r.isSuccess = false)
    (hd : Payload.decode? Payload.description r.body = some d) :
    (ofResponse r true : Dialogue protocol _) = pure (some (.remote (described r.correlation d))) := by
  rw [ofResponse, Classification.byBody, hr, hd]
  rfl

/-- In capitals the name of a failure is lost. -/
theorem loud_spelling :
    loud.Respells (refused offsetBody) (refused loudBody) ∧
      ∃ f f', (ofResponse (refused offsetBody) true : Dialogue protocol _) = pure (some (.remote f)) ∧
        (ofResponse (refused loudBody) true : Dialogue protocol _) = pure (some (.remote f')) ∧
        f.exception = badOffset ∧ f'.exception = "" := by
  have hloud :
      Json.decode? (Utf8.encode loudBody) = some (loud.respell (full "BadOffsetException" "m" "j")) := by
    decide +kernel
  have hoffset :
      Payload.decode? Payload.description (Utf8.encode offsetBody) = some ⟨badOffset, "m", "j"⟩ := by
    rw [Payload.decode?, decode_offsetBody]; rfl
  have hlost : Payload.decode? Payload.description (Utf8.encode loudBody) = some ⟨"", "m", "j"⟩ := by
    rw [Payload.decode?, hloud]
    exact toOption_respell_full loud badOffset "m" "j"
  exact ⟨⟨rfl, _, _, decode_offsetBody, canonical_full _ _ _, hloud, rfl⟩, _, _,
    ofResponse_described rfl hoffset, ofResponse_described rfl hlost, rfl, rfl⟩

end Spelling

end LakeStore.Remote
