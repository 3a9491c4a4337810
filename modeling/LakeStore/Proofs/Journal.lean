import LakeStore.Proofs.Address
import LakeStore.Proofs.Delivery
import LakeStore.Proofs.Identifier

/-!
What the log says of the calls that go over transports.

Every call is written down before anything is asked for it: its operation, the place below the base, and an
identifier that no other call has and that its request carries. At most one request goes out for a call. A
second record is written exactly if the client comes back with a response; it has the same operation and
identifier, with the status and with the identifier that the remote gave, but not the place. So a response
is traced to its URL only through the record of its call.
-/

namespace LakeStore.Dialogue

variable {P Q : Protocol} {α β σ ε : Type}

/-- A dialogue that writes nothing to the log and draws no number, whatever it is answered. -/
def Mute : Dialogue P α → Prop
  | .done _ => True
  | .ask _ next => ∀ answer, Mute (next answer)
  | .note _ _ | .draw _ => False

/-- A dialogue that writes only records with `p`. -/
def Writes (p : Log.Note → Prop) : Dialogue P α → Prop
  | .done _ => True
  | .ask _ next => ∀ answer, Writes p (next answer)
  | .note n next => p n ∧ Writes p next
  | .draw next => ∀ serial, Writes p (next serial)

theorem Writes.mono {p p' : Log.Note → Prop} (h : ∀ n, p n → p' n) :
    ∀ {d : Dialogue P α}, Writes p d → Writes p' d
  | .done _, _ => trivial
  | .ask _ _, hd => fun answer => (hd answer).mono h
  | .note n _, hd => ⟨h n hd.1, hd.2.mono h⟩
  | .draw _, hd => fun serial => (hd serial).mono h

section Mute

variable {d : Dialogue P α}

theorem Mute.bind {f : α → Dialogue P β} (hd : Mute d) (hf : ∀ a, Mute (f a)) : Mute (d >>= f) := by
  induction d with
  | done a => exact hf a
  | ask q next ih => exact fun answer => ih answer (hd answer)
  | note n next ih => exact hd.elim
  | draw next ih => exact hd.elim

theorem Mute.run_bind {x : ExceptT ε (Dialogue P) α} {f : α → ExceptT ε (Dialogue P) β} (hx : Mute x.run)
    (hf : ∀ a, Mute (f a).run) : Mute (x >>= f).run := by
  rw [ExceptT.run_bind]
  refine hx.bind fun r => ?_
  cases r with
  | ok a => exact hf a
  | error e => exact trivial

theorem Mute.run_map {x : ExceptT ε (Dialogue P) α} (g : α → β) (hx : Mute x.run) : Mute (g <$> x).run := by
  rw [run_map_eq_bind]
  exact hx.bind fun _ => trivial

theorem run_serial_bind (f : Nat → ExceptT ε (Dialogue P) α) :
    (ExceptT.lift serial >>= f).run = .draw fun n => (f n).run := rfl

theorem run_log_bind (n : Log.Note) (x : ExceptT ε (Dialogue P) α) :
    (ExceptT.lift (log n) >>= fun _ => x).run = .note n x.run := rfl

variable (counterpart : (q : P.Question) → σ → P.Answer q × σ)

/-- An outcome with what happened before it. -/
def Outcome.preceded (events : List (Event P)) (o : Outcome P σ α) : Outcome P σ α :=
  { o with events := events ++ o.events }

/-- What happens in one dialogue after the other. -/
theorem run_bind_eq (d : Dialogue P α) (f : α → Dialogue P β) (serials : Nat) (s : σ) :
    run counterpart (d >>= f) serials s =
      (run counterpart (f (run counterpart d serials s).value) (run counterpart d serials s).serials
        (run counterpart d serials s).state).preceded (run counterpart d serials s).events := by
  induction d generalizing serials s with
  | done a => rfl
  | ask q next ih => simp only [ask_bind, run, ih, Outcome.preceded, List.cons_append]
  | note n next ih => simp only [note_bind, run, ih, Outcome.preceded, List.cons_append]
  | draw next ih => exact ih (serials + 1) (serials + 1) s

/-- What happens in a dialogue that draws a number, writes a record, and goes on after one that may fail. -/
theorem run_draw_note (note : Nat → Log.Note) (d : Nat → Dialogue P (Except ε α))
    (f : Nat → α → Dialogue P (Except ε β)) (serials : Nat) (s : σ) :
    run counterpart (.draw fun n => .note (note n) (d n >>= after (f n))) serials s =
      (run counterpart (after (f (serials + 1)) (run counterpart (d (serials + 1)) (serials + 1) s).value)
        (run counterpart (d (serials + 1)) (serials + 1) s).serials
        (run counterpart (d (serials + 1)) (serials + 1) s).state).preceded
        (.noted (note (serials + 1)) :: (run counterpart (d (serials + 1)) (serials + 1) s).events) := by
  rw [run, run, run_bind_eq]; rfl

theorem Mute.run (hd : Mute d) (serials : Nat) (s : σ) :
    (Dialogue.run counterpart d serials s).serials = serials ∧
      Event.notes (Dialogue.run counterpart d serials s).events = [] := by
  induction d generalizing serials s with
  | done a => exact ⟨rfl, rfl⟩
  | ask q next ih => exact ih _ (hd _) serials _
  | note n next ih => exact hd.elim
  | draw next ih => exact hd.elim

end Mute

/-! ### What happens in a computation that is carried over -/

/-- One question on the way: how many numbers were drawn before it, and what the counterpart is like then. -/
structure Passage (P : Protocol) (σ : Type) where
  question : P.Question
  drawn : Nat
  state : σ

namespace Passage

variable (answer : (q : P.Question) → Dialogue Q (P.Answer q))
  (counterpart : (q : Q.Question) → σ → Q.Answer q × σ)

/-- What happens on a question. -/
def outcome (x : Passage P σ) : Outcome Q σ (P.Answer x.question) :=
  run counterpart (answer x.question) x.drawn x.state

/-- A question with its answer. -/
def turn (x : Passage P σ) : Turn P := ⟨x.question, (x.outcome answer counterpart).value⟩

end Passage

/-- What happens apart from the records of the computation itself is what happens on its questions, one
after the other. If a number is drawn for every question, the questions are told apart by the numbers before
them. -/
theorem run_via {answer : (q : P.Question) → Dialogue Q (P.Answer q)}
    {counterpart : (q : Q.Question) → σ → Q.Answer q × σ} {keeps : Event Q → Bool}
    (hanswer : ∀ x : Passage P σ, x.drawn < (x.outcome answer counterpart).serials ∧
      (x.outcome answer counterpart).events.filter keeps = (x.outcome answer counterpart).events)
    {d : Dialogue P α} (hd : Writes (fun n => keeps (.noted n) = false) d) (serials : Nat) (s : σ) :
    ∃ xs : List (Passage P σ),
      Went d (xs.map (Passage.turn answer counterpart)) (run counterpart (via answer d) serials s).value ∧
      (run counterpart (via answer d) serials s).events.filter keeps =
        xs.flatMap (fun x => (x.outcome answer counterpart).events) ∧
      (xs.map Passage.drawn).Nodup ∧ ∀ x ∈ xs, serials ≤ x.drawn := by
  induction d generalizing serials s with
  | done a =>
    exact ⟨[], went_done.mpr ⟨rfl, rfl⟩, rfl, List.nodup_nil, fun _ hx => absurd hx List.not_mem_nil⟩
  | ask q next ih =>
    let first : Passage P σ := ⟨q, serials, s⟩
    let o := first.outcome answer counterpart
    obtain ⟨hdrawn, hkept⟩ := hanswer first
    obtain ⟨xs, hwent, hevents, hdistinct, hleast⟩ := ih o.value (hd _) o.serials o.state
    have hrun : run counterpart (via answer (.ask q next)) serials s =
        (run counterpart (via answer (next o.value)) o.serials o.state).preceded o.events :=
      run_bind_eq counterpart (answer q) (fun a => via answer (next a)) serials s
    have hlater (x : Passage P σ) (hx : x ∈ xs) : serials < x.drawn := lt_of_lt_of_le hdrawn (hleast x hx)
    rw [hrun]
    refine ⟨first :: xs, went_ask.mpr ⟨_, _, rfl, hwent⟩, ?_,
      List.nodup_cons.mpr ⟨fun hmem => ?_, hdistinct⟩, ?_⟩
    · rw [Outcome.preceded, List.filter_append, hevents, hkept, List.flatMap_cons]
    · obtain ⟨x, hx, hsame⟩ := List.mem_map.mp hmem
      exact absurd hsame (hlater x hx).ne'
    · exact List.forall_mem_cons.mpr ⟨le_rfl, fun x hx => (hlater x hx).le⟩
  | note n next ih =>
    obtain ⟨xs, hwent, hevents, hrest⟩ := ih hd.2 serials s
    refine ⟨xs, runs_note_iff.mpr hwent, ?_, hrest⟩
    rw [← hevents]
    exact List.filter_cons_of_neg (by rw [hd.1]; exact Bool.false_ne_true)
  | draw next ih =>
    obtain ⟨xs, hwent, hevents, hdistinct, hleast⟩ := ih (serials + 1) (hd _) (serials + 1) s
    exact ⟨xs, went_draw.mpr ⟨serials + 1, hwent⟩, hevents, hdistinct,
      fun x hx => Nat.le_of_succ_le (hleast x hx)⟩

end LakeStore.Dialogue

namespace LakeStore.Http

open Dialogue

namespace Headers

variable {h more : Headers} {name other : String}

theorem has_singleton (name value : String) : has name [(name, value)] = true := by simp [has, sameName]

theorem values_singleton (name value : String) : values name [(name, value)] = [value] := by
  simp [values, sameName]

theorem has_of_sameName (hsame : sameName name other = true) : h.has name = h.has other := by
  refine congrArg h.any (funext fun f => ?_)
  rw [sameName, sameName, eq_of_beq hsame]

/-- Fields that are put in the place of others stand under their names alone. -/
theorem values_replace_of_has (hname : more.has name = true) :
    (h.replace more).values name = more.values name := by
  have hnone : (h.filter fun f => !more.has f.1).filter (fun f => sameName f.1 name) = [] := by
    rw [List.filter_filter, List.filter_eq_nil_iff]
    intro f _ hf
    obtain ⟨hsame, hno⟩ := Bool.and_eq_true_iff.mp hf
    rw [has_of_sameName hsame, hname] at hno
    exact nomatch hno
  rw [values, replace, List.filter_append, hnone, List.nil_append, values]

theorem values_replace_of_not_has (hname : more.has name = false) :
    (h.replace more).values name = h.values name := by
  have hmore : more.filter (fun f => sameName f.1 name) = [] :=
    List.filter_eq_nil_iff.mpr (List.any_eq_false.mp hname)
  rw [values, replace, List.filter_append, hmore, List.append_nil, List.filter_filter, values]
  refine congrArg _ (List.filter_congr fun f _ => ?_)
  cases hsame : sameName f.1 name with
  | false => rfl
  | true => rw [has_of_sameName hsame, hname]; rfl

theorem values_default (value : String) (hother : sameName other name = false) :
    (h.default other value).values name = h.values name := by
  rw [default]
  split
  · rfl
  · rw [values, List.filter_append, List.filter_cons_of_neg (by simp [hother]), List.filter_nil,
      List.append_nil, values]

end Headers

/-- The requests that are sent, among some questions. -/
def carried (questions : List protocol.Question) : List Request :=
  questions.filterMap fun
    | .send q => some q
    | .authorize | .release => none

/-- What goes out while a result is waited for carries these values under a name. Only a failure may come
without a request, and nothing comes after two. -/
def CarriesOnce {α : Type} (name : String) (values : List String) (questions : List protocol.Question)
    (r : Except Fault α) : Prop :=
  (∃ sent, carried questions = [sent] ∧ sent.headers.values name = values) ∨
    carried questions = [] ∧ ∃ fault, r = .error fault

section Carried

variable {name : String} {c : Client} {q : Request} {d : Draft} {turns : List (Turn protocol)}

theorem carried_append (xs ys : List (Turn protocol)) :
    carried ((xs ++ ys).map Turn.question) = carried (xs.map Turn.question) ++
      carried (ys.map Turn.question) := by
  rw [List.map_append, carried, List.filterMap_append]; rfl

theorem CarriesOnce.map {α β : Type} {values : List String} {questions : List protocol.Question}
    {r : Except Fault α} {r' : Except Fault β} (h : CarriesOnce name values questions r)
    (hr : ∀ fault, r = .error fault → ∃ fault', r' = .error fault') : CarriesOnce name values questions r' :=
  h.imp_right fun ⟨hnone, fault, hfault⟩ => ⟨hnone, hr fault hfault⟩

/-- To authorize a request is to send nothing, and changes no other field. -/
theorem went_authorized_carried {r : Except Fault Request}
    (hname : Headers.has name [("Authorization", "")] = false) (h : Went (c.authorized q).run turns r) :
    carried (turns.map Turn.question) = [] ∧ ∀ q', r = .ok q' →
    q'.headers.values name = q.headers.values name := by
  have hkept (value : String) :
      (q.headers.replace [("Authorization", value)]).values name = q.headers.values name :=
    Headers.values_replace_of_not_has hname
  rw [Client.authorized] at h
  split at h
  · rcases went_run_bind.mp h with ⟨value, _, _, rfl, hvalue, hdone⟩ | ⟨fault, hfault, rfl⟩
    · obtain rfl := went_authorize.mp hvalue
      obtain ⟨rfl, rfl⟩ := went_run_pure.mp hdone
      exact ⟨rfl, fun q' hq => Except.ok.inj hq ▸ hkept value⟩
    · obtain rfl := went_authorize.mp hfault
      refine ⟨rfl, fun q' hq => ?_⟩
      cases hq
  · split at h
    · obtain ⟨rfl, rfl⟩ := went_run_pure.mp h
      exact ⟨rfl, fun q' hq => Except.ok.inj hq ▸ hkept _⟩
    · obtain ⟨rfl, rfl⟩ := went_run_pure.mp h
      exact ⟨rfl, fun q' hq => Except.ok.inj hq ▸ rfl⟩

theorem went_sensible_carried {response : Response} {r : Except Fault Response}
    (h : Went (Client.sensible q response).run turns r) : carried (turns.map Turn.question) = [] := by
  rcases went_sensible.mp h with ⟨fault, -, rfl, -⟩ | ⟨-, rfl, -⟩ <;> rfl

theorem went_head_carried {r : Except Fault Response}
    (hname : Headers.has name [("Authorization", "")] = false) (h : Went (c.head q).run turns r) :
    CarriesOnce name (q.headers.values name) (turns.map Turn.question) r := by
  rcases went_run_bind.mp h with ⟨q', xs, rest, rfl, hq, hrest⟩ | ⟨fault, hq, rfl⟩
  · obtain ⟨hnone, hkept⟩ := went_authorized_carried hname hq
    -- whatever becomes of the request, it is the only one
    suffices hone : carried (rest.map Turn.question) = [q'] from
      .inl ⟨q', by rw [carried_append, hnone, hone, List.nil_append], hkept q' rfl⟩
    rcases went_run_bind.mp hrest with ⟨raw, _, ys, rfl, hsend, hread⟩ | ⟨fault, hsend, -⟩
    · obtain rfl := went_send.mp hsend
      rcases went_run_bind.mp hread with ⟨response, _, zs, rfl, hdecoded, hsensible⟩ | ⟨fault, hdecoded, -⟩
      · obtain ⟨rfl, -⟩ := went_run_lift.mp hdecoded
        exact congrArg (q' :: ·) (went_sensible_carried hsensible)
      · obtain ⟨rfl, -⟩ := went_run_lift.mp hdecoded
        rfl
    · obtain rfl := went_send.mp hsend
      rfl
  · exact .inr ⟨(went_authorized_carried hname hq).1, fault, rfl⟩

theorem went_transmit_carried {stream : Bool} {r : Except Fault Response}
    (hname : Headers.has name [("Authorization", "")] = false) (h : Went (c.transmit q stream).run turns r) :
    CarriesOnce name (q.headers.values name) (turns.map Turn.question) r := by
  rw [transmit_eq] at h
  rcases went_run_bind.mp h with ⟨response, xs, ys, rfl, hhead, h⟩ | ⟨fault, hhead, rfl⟩
  · obtain ⟨sent, hsent, hvalues⟩ :=
      (went_head_carried hname hhead).resolve_right fun ⟨_, _, hfault⟩ => nomatch hfault
    refine .inl ⟨sent, ?_, hvalues⟩
    rw [carried_append, hsent]
    cases stream with
    | true =>
      obtain ⟨rfl, -⟩ := went_run_pure.mp h
      rfl
    | false =>
      obtain ⟨r', hdrain, -⟩ := runs_run_map.mp h
      obtain ⟨rfl, -⟩ := went_drain.mp hdrain
      rfl
  · exact went_head_carried hname hhead

/-- To say how long a message is changes no other field. -/
theorem values_measured (method : String) (content : Option Blob.Content) (h : Headers)
    (hlength : Headers.sameName "Content-Length" name = false)
    (hcoding : Headers.sameName "Transfer-Encoding" name = false) :
    (Draft.measured method content h).values name = h.values name := by
  have hdefault (h : Headers) (value : String) :
      (h.default "Content-Length" value).values name = h.values name :=
    Headers.values_default value hlength
  have houter (h : Headers) :
      (if h.has "Content-Length" || h.has "Transfer-Encoding" || !Draft.alwaysMeasured method
      then h else h.default "Content-Length" "0").values name = h.values name := by
    split
    · rfl
    · exact hdefault h "0"
  refine (houter _).trans ?_
  cases content with
  | none => rfl
  | some content =>
    cases content with
    | whole bytes =>
      show Headers.values name (if bytes = [] then h else h.default "Content-Length" _) = _
      split
      · rfl
      · exact hdefault h _
    | chunked chunks =>
      show Headers.values name (if h.has "Content-Length" then h
        else h.default "Transfer-Encoding" "chunked") = _
      split
      · rfl
      · exact Headers.values_default _ hcoding

theorem went_send_carried {r : Except Fault (Request × Response)} (hname : d.headers.has name = true)
    (hauthorization : Headers.has name [("Authorization", "")] = false)
    (hlength : Headers.sameName "Content-Length" name = false)
    (hcoding : Headers.sameName "Transfer-Encoding" name = false) (h : Went (c.send d).run turns r) :
    CarriesOnce name (d.headers.values name) (turns.map Turn.question) r := by
  rw [Client.send] at h
  split at h
  · obtain ⟨rfl, rfl⟩ := went_run_throw.mp h
    exact .inr ⟨rfl, _, rfl⟩
  · rename_i q hq
    have hvalues : q.headers.values name = d.headers.values name := by
      simp only [Client.request, bind_eq_ok] at hq
      obtain ⟨_, _, _, _, _, _, hq⟩ := hq
      obtain rfl := Except.ok.inj hq
      exact (values_measured _ _ _ hlength hcoding).trans (Headers.values_replace_of_has hname)
    split at h
    · obtain ⟨rfl, rfl⟩ := went_run_throw.mp h
      exact .inr ⟨rfl, _, rfl⟩
    · obtain ⟨r', hsent, rfl⟩ := went_attributing.mp h
      rw [← map_eq_pure_bind] at hsent
      obtain ⟨received, htransmit, rfl⟩ := runs_run_map.mp hsent
      rw [← hvalues]
      refine (went_transmit_carried hauthorization htransmit).map ?_
      rintro fault rfl
      exact ⟨_, rfl⟩

/-! ### Clients and the log -/

theorem mute_authorized (c : Client) (q : Request) : Mute (c.authorized q).run := by
  rw [Client.authorized]
  split
  · exact Mute.run_bind (fun _ => trivial) fun _ => trivial
  · split <;> exact trivial

theorem mute_drain (body : Body) : Mute (Call.drain body).run := fun _ => trivial

theorem mute_transmit (c : Client) (q : Request) (stream : Bool) : Mute (c.transmit q stream).run := by
  have hsensible (response : Response) : Mute (Client.sensible q response).run := by
    rw [Client.sensible]
    split
    · exact fun _ => trivial
    · exact trivial
  rw [transmit_eq]
  refine Mute.run_bind ((mute_authorized c q).run_bind fun q' => ?_) fun response => ?_
  · exact Mute.run_bind (fun _ => trivial) fun raw => Mute.run_bind (x := liftM raw.decoded) trivial hsensible
  · split
    · exact trivial
    · exact (mute_drain _).run_map _

theorem mute_attributing {α : Type} {what : String} {call : Call α} (h : Mute call.run) :
    Mute (Client.attributing what q call).run :=
  h.bind fun r => by cases r <;> exact trivial

theorem mute_send (c : Client) (d : Draft) : Mute (c.send d).run := by
  rw [Client.send]
  split
  · exact trivial
  · split
    · exact trivial
    · exact mute_attributing ((mute_transmit c _ _).run_bind fun _ => trivial)

/-- What happens while a client sends a draft that has a field of this name: nothing is written down, no
number is drawn, and the request carries the field. -/
theorem run_send {σ : Type} (counterpart : (q : Question) → σ → protocol.Answer q × σ)
    (c : Client) (d : Draft) (hname : d.headers.has name = true)
    (hauthorization : Headers.has name [("Authorization", "")] = false)
    (hlength : Headers.sameName "Content-Length" name = false)
    (hcoding : Headers.sameName "Transfer-Encoding" name = false) (serials : Nat) (s : σ) :
    let o := run counterpart (c.send d).run serials s
    o.serials = serials ∧ Event.notes o.events = [] ∧
      CarriesOnce name (d.headers.values name) (Event.questions o.events) o.value := by
  obtain ⟨hserials, hnotes⟩ := (mute_send c d).run counterpart serials s
  obtain ⟨turns, hwent, hasked, -⟩ := went_run counterpart (c.send d).run serials s
  refine ⟨hserials, hnotes, ?_⟩
  rw [hasked]
  exact went_send_carried hname hauthorization hlength hcoding hwent

end Carried

end LakeStore.Http

namespace LakeStore.Remote

open Dialogue

/-- Calls over any transports: each of them says which one it goes over. -/
def calls : Protocol where
  Question := Transport × Request
  Answer _ := Except Fault Response

namespace Transport

/-- What a call comes to. -/
def conduct (q : calls.Question) : Dialogue Http.protocol (calls.Answer q) := (q.1.send q.2).run

/-- The identifier of a call, which is the next one. -/
def identifier {σ : Type} (x : Passage calls σ) : String := Identifier.numbered (x.drawn + 1)

/-- A record of the transport with these fields, and maybe others. -/
def Carries (fields : List (String × Value)) (n : Log.Note) : Prop :=
  n.source = .transport ∧ n.level = .debug ∧ ∀ f ∈ fields, f ∈ n.fields

/-- What happens in a call, by what the client comes back with: a record before anything else, at most one
request, which carries the identifier, and another record exactly if there is a response. -/
inductive Journaled (r : Request) (id : String) :
    List (Event Http.protocol) → Except Fault (Http.Request × Http.Response) → Prop
  | unanswered {call : Log.Note} {before : List (Event Http.protocol)} {fault : Fault} :
      Carries [("remote_op", .text r.operation.name), ("remote_url", .text (location r.path)),
        ("request_id", .text id)]
        call →
      Event.notes before = [] → (Http.carried (Event.questions before)).length ≤ 1 →
      (∀ sent ∈ Http.carried (Event.questions before), sent.headers.values requestIdField = [id]) →
      Journaled r id (.noted call :: before) (.error fault)
  | answered {call response : Log.Note} {before after : List (Event Http.protocol)} {sent q : Http.Request}
      {received : Http.Response} :
      Carries [("remote_op", .text r.operation.name), ("remote_url", .text (location r.path)),
        ("request_id", .text id)]
        call →
      Event.notes before = [] → Http.carried (Event.questions before) = [sent] →
      sent.headers.values requestIdField = [id] →
      Carries [("remote_op", .text r.operation.name), ("request_id", .text id),
        ("response_id", Value.ofOption .text (received.headers.get? requestIdField)),
        ("status_code", .int received.status)] response →
      Event.notes after = [] → Http.carried (Event.questions after) = [] →
      Journaled r id (.noted call :: before ++ .noted response :: after) (.ok (q, received))

/-- What the client does for a call, once it has its identifier. -/
def errand {σ : Type} (counterpart : (q : Http.Question) → σ → Http.protocol.Answer q × σ) (t : Transport)
    (r : Request) (id : String) (serials : Nat) (s : σ) :
    Outcome Http.protocol σ (Except Fault (Http.Request × Http.Response)) :=
  run counterpart (t.client.send (t.draft r id)).run serials s

theorem run_send (t : Transport) (r : Request) :
    (t.send r).run = .draw fun serial => .note (callNote r (Identifier.numbered serial))
      (t.exchange r (Identifier.numbered serial)).run := by
  simp only [send_eq, run_serial_bind, run_log_bind]

/-- What follows the response of a client. -/
def received (r : Request) (id : String) (sent : Http.Request × Http.Response) :
    Dialogue Http.protocol (Except Fault Response) :=
  .note (responseNote (answer r id sent.1 sent.2))
    (withBody r sent.1 sent.2.body (answer r id sent.1 sent.2)).run

theorem run_exchange (t : Transport) (r : Request) (id : String) :
    (t.exchange r id).run = (t.client.send (t.draft r id)).run >>= after (received r id) := by
  rw [exchange, ExceptT.run_bind]
  refine congrArg ((t.client.send (t.draft r id)).run >>= ·) (funext fun x => ?_)
  rcases x with fault | ⟨q, response⟩
  · rfl
  · rw [after_ok, received]
    exact run_log_bind _ (withBody r q response.body (answer r id q response))

section Body

variable {r : Request} {id : String} {q : Http.Request} {response : Http.Response}

theorem mute_withBody (body : Http.Body) : Mute (withBody r q body (answer r id q response)).run := by
  rw [withBody]
  split
  · exact trivial
  · split
    · exact (Http.mute_attributing (Http.mute_drain body)).run_bind fun _ => trivial
    · exact Mute.run_bind (x := liftM body.read) trivial fun _ => trivial

theorem went_withBody_carried {body : Http.Body} {turns : List (Turn Http.protocol)}
    {result : Except Fault Response}
    (h : Went (withBody r q body (answer r id q response)).run turns result) :
    Http.carried (turns.map Turn.question) = [] := by
  by_cases hleaves : Leaves r response
  · obtain ⟨rfl, -⟩ := (went_withBody_of_leaves hleaves).mp h
    rfl
  · cases hstream : r.stream with
    | true =>
      obtain ⟨rfl, -⟩ := (went_withBody_of_stream hleaves hstream).mp h
      rfl
    | false =>
      obtain ⟨rfl, -⟩ := (went_withBody_of_not_stream hstream).mp h
      rfl

end Body

section Run

-- what a client and a body do is known only by what was proved of them
attribute [local irreducible] Http.Client.send withBody

variable {σ : Type} (counterpart : (q : Http.Question) → σ → Http.protocol.Answer q × σ)

theorem errand_carries {t : Transport} {r : Request} {id : String} {serials : Nat} {s : σ}
    {o : Outcome Http.protocol σ (Except Fault (Http.Request × Http.Response))}
    (ho : errand counterpart t r id serials s = o) :
    o.serials = serials ∧ Event.notes o.events = [] ∧
      Http.CarriesOnce requestIdField [id] (Event.questions o.events) o.value := by
  have hheaders : (t.draft r id).headers = [(requestIdField, id)] := rfl
  rw [errand] at ho
  generalize t.draft r id = d at hheaders ho
  have hhas : d.headers.has requestIdField = true := by rw [hheaders, Http.Headers.has_singleton]
  rw [← Http.Headers.values_singleton requestIdField id, ← hheaders, ← ho]
  exact Http.run_send counterpart t.client d hhas (by decide) (by decide) (by decide) serials s

theorem carries_callNote (r : Request) (id : String) :
    Carries [("remote_op", .text r.operation.name), ("remote_url", .text (location r.path)),
      ("request_id", .text id)]
      (callNote r id) := ⟨rfl, rfl, fun _ hf => hf⟩

theorem carries_responseNote (r : Request) (id : String) (q : Http.Request) (response : Http.Response) :
    Carries [("remote_op", .text r.operation.name), ("request_id", .text id),
      ("response_id", Value.ofOption .text (response.headers.get? requestIdField)),
      ("status_code", .int response.status)] (responseNote (answer r id q response)) :=
        ⟨rfl, rfl, fun _ hf => hf⟩

/-- What happens after the client has come back. -/
theorem run_received (r : Request) (id : String) (q : Http.Request) (response : Http.Response)
    (serials : Nat) (s : σ) :
    ∃ body, (run counterpart (received r id (q, response)) serials s).events =
        .noted (responseNote (answer r id q response)) :: body ∧
      (run counterpart (received r id (q, response)) serials s).serials = serials ∧
      Event.notes body = [] ∧ Http.carried (Event.questions body) = [] := by
  obtain ⟨hserials, hnotes⟩ := (mute_withBody response.body).run counterpart serials s
  obtain ⟨turns, hwent, hasked, -⟩ := went_run counterpart
    (withBody r q response.body (answer r id q response)).run serials s
  exact ⟨_, rfl, hserials, hnotes, by rw [hasked, went_withBody_carried hwent]⟩

/-- What happens in a call, by what the client does. -/
theorem run_send_eq {t : Transport} {r : Request} {serials : Nat} {s : σ}
    {o : Outcome Http.protocol σ (Except Fault (Http.Request × Http.Response))}
    (ho : errand counterpart t r (Identifier.numbered (serials + 1)) (serials + 1) s = o) :
    run counterpart (t.send r).run serials s =
      (run counterpart (after (received r (Identifier.numbered (serials + 1))) o.value) o.serials
        o.state).preceded
        (.noted (callNote r (Identifier.numbered (serials + 1))) :: o.events) := by
  have h := run_draw_note counterpart (fun n => callNote r (Identifier.numbered n))
    (fun n => (t.client.send (t.draft r (Identifier.numbered n))).run)
    (fun n => received r (Identifier.numbered n)) serials s
  simp only [← run_exchange, ← run_send] at h
  rw [← ho, errand]
  exact h

/-- One call: a number is drawn, and everything that happens is written down. -/
theorem journaled_send (t : Transport) (r : Request) (serials : Nat) (s : σ) :
    (run counterpart (t.send r).run serials s).serials = serials + 1 ∧
      Journaled r (Identifier.numbered (serials + 1)) (run counterpart (t.send r).run serials s).events
        (errand counterpart t r (Identifier.numbered (serials + 1)) (serials + 1) s).value := by
  generalize ho : errand counterpart t r (Identifier.numbered (serials + 1)) (serials + 1) s = o
  have herrand := errand_carries counterpart ho
  rw [run_send_eq counterpart ho]
  obtain ⟨value, events, drawn, state⟩ := o
  obtain ⟨rfl, hnotes, hcarried⟩ := herrand
  rcases value with fault | ⟨q, response⟩
  · refine ⟨rfl, ?_⟩
    show Journaled _ _ (_ :: events ++ []) _
    rw [List.append_nil]
    rcases hcarried with ⟨sent, hone, hvalues⟩ | ⟨hnone, -⟩
    · refine .unanswered (carries_callNote _ _) hnotes (by rw [hone]; exact le_rfl) ?_
      rw [hone]
      exact List.forall_mem_singleton.mpr hvalues
    · refine .unanswered (carries_callNote _ _) hnotes (by rw [hnone]; exact Nat.zero_le _) ?_
      rw [hnone]
      exact fun _ hsent => absurd hsent List.not_mem_nil
  · obtain ⟨sent, hone, hvalues⟩ := hcarried.resolve_right fun ⟨_, _, hfault⟩ => nomatch hfault
    obtain ⟨body, hbody, hserials, hbodyNotes, hbodyCarried⟩ :=
      run_received counterpart r (Identifier.numbered (serials + 1)) q response (serials + 1) state
    refine ⟨hserials, ?_⟩
    rw [Outcome.preceded, after_ok, hbody]
    exact .answered (carries_callNote _ _) hnotes hone hvalues (carries_responseNote _ _ _ _) hbodyNotes
      hbodyCarried

/-- Whether an event is no record of anyone but the transports. -/
def isTransports : Event Http.protocol → Bool
  | .asked _ => true
  | .noted n => n.source == .transport

theorem Journaled.isTransports {r : Request} {id : String} {events : List (Event Http.protocol)}
    {x : Except Fault (Http.Request × Http.Response)} (h : Journaled r id events x) :
    events.filter Transport.isTransports = events := by
  have hmute {events : List (Event Http.protocol)} (h : Event.notes events = []) :
      ∀ e ∈ events, Transport.isTransports e = true := by
    rintro (q | n) he
    · rfl
    · exact absurd (List.filterMap_eq_nil_iff.mp h _ he) (by simp)
  have hcarries {fields : List (String × Value)} {n : Log.Note} (h : Carries fields n) :
      Transport.isTransports (.noted n) = true := beq_iff_eq.mpr h.1
  refine List.filter_eq_self.mpr ?_
  cases h with
  | unanswered hcall hbefore _ _ => exact List.forall_mem_cons.mpr ⟨hcarries hcall, hmute hbefore⟩
  | answered hcall hbefore _ _ hresponse hafter _ =>
    exact List.forall_mem_append.mpr ⟨List.forall_mem_cons.mpr ⟨hcarries hcall, hmute hbefore⟩,
      List.forall_mem_cons.mpr ⟨hcarries hresponse, hmute hafter⟩⟩

/-- Of every computation whose calls go over transports, and which writes no records in their name: what
happens, apart from its own records, is what happens in its calls, one after the other; every call is
journaled, under an identifier of its own. -/
theorem calls_journaled {α : Type} (d : Dialogue calls α) (hd : Writes (·.source ≠ .transport) d)
    (serials : Nat) (s : σ) :
    let o := run counterpart (via conduct d) serials s
    ∃ xs : List (Passage calls σ),
      Went d (xs.map (Passage.turn conduct counterpart)) o.value ∧
      o.events.filter isTransports = xs.flatMap (fun x => (x.outcome conduct counterpart).events) ∧
      (xs.map identifier).Nodup ∧
      ∀ x ∈ xs, Journaled x.question.2 (identifier x) (x.outcome conduct counterpart).events
        (errand counterpart x.question.1 x.question.2 (identifier x) (x.drawn + 1) x.state).value := by
  have hsend (x : Passage calls σ) : (x.outcome conduct counterpart).serials = x.drawn + 1 ∧
      Journaled x.question.2 (identifier x) (x.outcome conduct counterpart).events
        (errand counterpart x.question.1 x.question.2 (identifier x) (x.drawn + 1) x.state).value :=
    journaled_send counterpart x.question.1 x.question.2 x.drawn x.state
  have hanswer (x : Passage calls σ) : x.drawn < (x.outcome conduct counterpart).serials ∧
      (x.outcome conduct counterpart).events.filter isTransports = (x.outcome conduct counterpart).events :=
    ⟨(hsend x).1 ▸ Nat.lt_succ_self _, (hsend x).2.isTransports⟩
  have hd : Writes (fun n => isTransports (.noted n) = false) d :=
    hd.mono fun n hn => beq_eq_false_iff_ne.mpr hn
  obtain ⟨xs, hwent, hevents, hdistinct, -⟩ := run_via hanswer hd serials s
  have hids : xs.map identifier = (xs.map Passage.drawn).map fun n => Identifier.numbered (n + 1) := by
    rw [List.map_map]; rfl
  refine ⟨xs, hwent, hevents, ?_, fun x _ => (hsend x).2⟩
  rw [hids]
  exact hdistinct.map fun m n h => Nat.succ.inj (Identifier.numbered_injective h)

end Run

/-- A question about a file. -/
def asking : Request := { operation := .getFileStatus, path := "up/a b" }

/-- Two calls with a number drawn between them. The second one goes over a transport that was closed. -/
def closing : Dialogue calls Unit :=
  .ask (plainTransport, asking) fun _ => .draw fun _ => .ask (plainTransport.close, asking) fun _ => .done ()

theorem calls_journaled_closing :
    Writes (·.source ≠ .transport) closing ∧
      ∃ first second : Passage calls Unit,
        let outcome := Passage.outcome conduct Backend.obliging
        let errand := fun x : Passage calls Unit =>
          errand Backend.obliging x.question.1 asking (identifier x) (x.drawn + 1) x.state
        first.question = (plainTransport, asking) ∧ second.question = (plainTransport.close, asking) ∧
          identifier first ≠ identifier second ∧
          (run Backend.obliging (via conduct closing) 0 ()).events.filter isTransports =
            (outcome first).events ++ (outcome second).events ∧
          Journaled asking (identifier first) (outcome first).events (errand first).value ∧
          Journaled asking (identifier second) (outcome second).events (errand second).value := by
  have hwrites : Writes (·.source ≠ .transport) closing := fun _ _ _ => trivial
  obtain ⟨xs, hwent, hevents, hdistinct, hjournaled⟩ := calls_journaled Backend.obliging closing hwrites 0 ()
  obtain ⟨_, _, hxs, hdrawn⟩ := went_ask.mp hwent
  obtain ⟨_, hnext⟩ := went_draw.mp hdrawn
  obtain ⟨_, _, rfl, hdone⟩ := went_ask.mp hnext
  obtain ⟨rfl, -⟩ := went_done.mp hdone
  obtain ⟨first, rest, rfl, hfirst, hlast⟩ := List.map_eq_cons_iff.mp hxs
  obtain ⟨second, rfl, hsecond⟩ := List.map_eq_singleton_iff.mp hlast
  have hone : first.question = (plainTransport, asking) := congrArg Turn.question hfirst
  have htwo : second.question = (plainTransport.close, asking) := congrArg Turn.question hsecond
  obtain ⟨hjournaledOne, hrest⟩ := List.forall_mem_cons.mp hjournaled
  have hjournaledTwo := List.forall_mem_singleton.mp hrest
  rw [List.map_cons, List.map_singleton, List.nodup_cons, List.mem_singleton] at hdistinct
  rw [List.flatMap_cons, List.flatMap_singleton] at hevents
  rw [congrArg Prod.snd hone] at hjournaledOne
  rw [congrArg Prod.snd htwo] at hjournaledTwo
  exact ⟨hwrites, first, second, hone, htwo, hdistinct.1, hevents, hjournaledOne, hjournaledTwo⟩

/-- The record of a response does not say which URL it is from. -/
theorem response_without_url :
    (Event.notes (run Backend.obliging (plainTransport.send asking).run 0 ()).events).map
      (fun n => (n.message, Entries.find? "remote_url" n.fields)) =
    [("adl remote call", some (.text "/up/a%20b")), ("adl remote response", none)] := by
  decide +kernel

end Transport

end LakeStore.Remote
