import Mathlib.Tactic.Common
import LakeStore.Blob.Stream

/-!
What is read from a stream.

Whoever reads takes from the chunks that are left, empty ones aside: the first of them, or all. However the
readings follow each other, each chunk is handed out once, and closing the stream changes nothing about
that. A source that fails tells so once, to the first reading that asks for more than is left; from then on
the stream is at its end, like that of any other source.
-/

namespace LakeStore.Blob.Stream

/-! ### One action -/

namespace Action

/-- Whether an action asks for bytes. -/
def isReading : Action → Bool
  | .next | .iterate | .read => true
  | .close | .enter | .exit => false

/-- Whether an action closes the stream. -/
def isClosing : Action → Bool
  | .close | .exit => true
  | .next | .iterate | .read | .enter => false

/-- What an action gives where some chunks are left and nothing fails. -/
def gives (left : List Bytes) : Action → Result
  | .next => .chunk left.head?
  | .iterate => .chunks left
  | .read => .bytes left.flatten
  | .close | .exit => .nothing
  | .enter => .itself

/-- The chunks that are left after an action. -/
def leaves (left : List Bytes) : Action → List Bytes
  | .next => left.tail
  | .iterate | .read => []
  | .close | .exit | .enter => left

@[simp] theorem leaves_nil (a : Action) : a.leaves [] = [] := by cases a <;> rfl

theorem leaves_of_not_isReading {a : Action} (ha : a.isReading = false) (left : List Bytes) :
    a.leaves left = left := by
  cases a with
  | next | iterate | read => cases ha
  | close | exit | enter => rfl

/-- Nothing is lost between what an action gives and what it leaves. -/
theorem handedOut_gives (left : List Bytes) (a : Action) :
    (a.gives left).handedOut ++ (a.leaves left).flatten = left.flatten := by
  cases a with
  | next => cases left <;> rfl
  | iterate | read => exact List.append_nil _
  | close | exit | enter => rfl

end Action

namespace Result

/-- The chunks that a result hands out one by one. -/
def pieces : Result → List Bytes
  | .chunk c => c.toList
  | .chunks cs => cs
  | .bytes _ | .nothing | .itself => []

/-- Whether a result tells that the body is at its end. -/
def isEnd : Result → Bool
  | .chunk c => c.isNone
  | .chunks _ | .bytes _ => true
  | .nothing | .itself => false

theorem pieces_gives_subset (left : List Bytes) (a : Action) : (a.gives left).pieces ⊆ left := by
  cases a with
  | next =>
    cases left with
    | nil => exact List.nil_subset _
    | cons c rest => exact List.cons_subset.mpr ⟨List.mem_cons_self, List.nil_subset _⟩
  | iterate => exact List.Subset.refl left
  | read | close | exit | enter => exact List.nil_subset left

end Result

/-- The chunks that are still to be handed out. -/
def left (s : Stream) : List Bytes := s.pending.filter (· ≠ [])

/-- The source of a stream neither fails nor gets lost when the stream is closed. -/
structure Steady (s : Stream) : Prop where
  ending : s.ending = none
  opened : s.onWire = true → s.opened = true

variable {s : Stream} {fault : Fault} {chunk : Bytes} {rest : List Bytes} {a : Action} {actions : List Action}

theorem flatten_left (s : Stream) : s.left.flatten = s.pending.flatten := List.flatten_filter_ne_nil

theorem ne_nil_of_mem_left (h : chunk ∈ s.left) : chunk ≠ [] := by
  simpa using (List.mem_filter.mp h).2

theorem left_eq_filter_dropWhile (s : Stream) : s.left = (s.pending.dropWhile (· = [])).filter (· ≠ []) := by
  rw [left]
  induction s.pending with
  | nil => rfl
  | cons c more ih =>
    by_cases hc : c = []
    · rw [List.dropWhile_cons_of_pos (by simpa using hc), List.filter_cons_of_neg (by simpa using hc), ih]
    · rw [List.dropWhile_cons_of_neg (by simpa using hc)]

theorem left_of_dropWhile (h : s.pending.dropWhile (· = []) = chunk :: rest) :
    s.left = chunk :: rest.filter (· ≠ []) := by
  have hchunk : chunk ≠ [] := by
    have hhead := List.head?_dropWhile_not (fun c : Bytes => decide (c = [])) s.pending
    rw [h] at hhead
    simpa using hhead
  rw [left_eq_filter_dropWhile, h, List.filter_cons_of_pos (by simpa using hchunk)]

theorem dropWhile_eq_nil_iff : s.pending.dropWhile (· = []) = [] ↔ s.left = [] := by
  refine ⟨fun h => by rw [left_eq_filter_dropWhile, h]; rfl, fun h => ?_⟩
  cases hd : s.pending.dropWhile (· = []) with
  | nil => rfl
  | cons chunk rest => rw [left_of_dropWhile hd] at h; cases h

theorem next_of_dropWhile (hlate : s.isLate = false) (h : s.pending.dropWhile (· = []) = chunk :: rest) :
    s.next = (.ok (some chunk), { s with pending := rest, opened := true }) := by
  rw [next, if_neg (by rw [hlate]; exact Bool.false_ne_true), h]

theorem next_of_ending (hending : s.ending = some fault) (hlate : s.isLate = false) (h : s.left = []) :
    s.next = (.error fault, s.exhausted) := by
  rw [next, if_neg (by rw [hlate]; exact Bool.false_ne_true), dropWhile_eq_nil_iff.mpr h, hending]

theorem chunks_of_ending (hending : s.ending = some fault) (hlate : s.isLate = false) :
    s.chunks = (.error fault, s.exhausted) := by
  rw [chunks, if_neg (by rw [hlate]; exact Bool.false_ne_true), hending]

theorem chunks_of_whole (hending : s.ending = none) (hlate : s.isLate = false) :
    s.chunks = (.ok s.left, s.exhausted) := by
  rw [chunks, if_neg (by rw [hlate]; exact Bool.false_ne_true), hending]; rfl

/-- A source that does not fail is read to its end. -/
theorem read_of_whole (hending : s.ending = none) (hlate : s.isLate = false) :
    s.read.1 = .ok s.pending.flatten := by
  rw [read, chunks_of_whole hending hlate, ← flatten_left]; rfl

theorem steady_exhausted (s : Stream) : s.exhausted.Steady := ⟨rfl, fun _ => rfl⟩

@[simp] theorem left_exhausted (s : Stream) : s.exhausted.left = [] := rfl

/-- A chunk that is left is handed out, whatever comes after the last one. -/
theorem perform_next_of_left (hlate : s.isLate = false) (h : s.left = chunk :: rest) :
    ∃ more, s.perform .next = (.ok (.chunk (some chunk)), { s with pending := more, opened := true }) ∧
      more.filter (· ≠ []) = rest := by
  cases hd : s.pending.dropWhile (· = []) with
  | nil => rw [dropWhile_eq_nil_iff.mp hd] at h; cases h
  | cons c more =>
    rw [left_of_dropWhile hd] at h
    obtain ⟨rfl, hmore⟩ := List.cons.inj h
    exact ⟨more, by rw [perform, next_of_dropWhile hlate hd]; rfl, hmore⟩

namespace Steady

theorem isLate (h : s.Steady) : s.isLate = false := by
  rw [Stream.isLate]
  cases hwire : s.onWire with
  | false => rfl
  | true => rw [h.opened hwire, Bool.not_true, Bool.and_false]

theorem chunks (h : s.Steady) : s.chunks = (.ok s.left, s.exhausted) := chunks_of_whole h.ending h.isLate

theorem next_of_left_nil (h : s.Steady) (hleft : s.left = []) : s.next = (.ok none, s.exhausted) := by
  rw [next, if_neg (by rw [h.isLate]; exact Bool.false_ne_true), dropWhile_eq_nil_iff.mpr hleft, h.ending]

/-- A reading takes from what is left. -/
theorem result (h : s.Steady) (ha : a.isReading = true) : (s.perform a).1 = .ok (a.gives s.left) := by
  cases a with
  | next =>
    cases hleft : s.left with
    | nil => rw [Stream.perform, h.next_of_left_nil hleft]; rfl
    | cons chunk rest =>
      obtain ⟨more, hperform, -⟩ := perform_next_of_left h.isLate hleft
      rw [hperform]; rfl
  | iterate => rw [Stream.perform, h.chunks]; rfl
  | read => rw [Stream.perform, Stream.read, h.chunks]; rfl
  | close | exit | enter => cases ha

/-- A stream stays steady, and what an action does not take is left. -/
theorem perform (h : s.Steady) (a : Action) :
    (s.perform a).2.Steady ∧ (s.perform a).2.left = a.leaves s.left := by
  cases a with
  | next =>
    cases hleft : s.left with
    | nil =>
      rw [Stream.perform, h.next_of_left_nil hleft]
      exact ⟨steady_exhausted s, rfl⟩
    | cons chunk rest =>
      obtain ⟨more, hperform, hmore⟩ := perform_next_of_left h.isLate hleft
      rw [hperform]
      exact ⟨⟨h.ending, fun _ => rfl⟩, hmore⟩
  | iterate =>
    rw [Stream.perform, h.chunks]
    exact ⟨steady_exhausted s, rfl⟩
  | read =>
    rw [Stream.perform, Stream.read, h.chunks]
    exact ⟨steady_exhausted s, rfl⟩
  | close | exit =>
    simp only [Stream.perform, close]
    split
    · exact ⟨h, rfl⟩
    · split <;> exact ⟨⟨h.ending, h.opened⟩, rfl⟩
  | enter => exact ⟨h, rfl⟩

end Steady

/-- An action that does not read gives nothing of the body. -/
theorem pieces_of_not_isReading (ha : a.isReading = false) {r : Result} (h : (s.perform a).1 = .ok r) :
    r.handedOut = [] ∧ r.pieces = [] := by
  cases a with
  | next | iterate | read => cases ha
  | close | exit =>
    simp only [perform] at h
    cases hclose : s.close.1 with
    | error fault => rw [hclose] at h; cases h
    | ok _ =>
      rw [hclose] at h
      obtain rfl := Except.ok.inj h
      exact ⟨rfl, rfl⟩
  | enter =>
    obtain rfl := Except.ok.inj h
    exact ⟨rfl, rfl⟩

/-! ### Many actions -/

/-- A stream as some actions leave it. -/
def after (s : Stream) (actions : List Action) : Stream := actions.foldl (fun s a => (s.perform a).2) s

/-- What some actions give, one after the other. -/
def results (s : Stream) (actions : List Action) : List (Except Fault Result) :=
  (s.performAll actions).map Prod.fst

/-- What the readings among some actions give. -/
def readings (s : Stream) (actions : List Action) : List (Except Fault Result) :=
  ((actions.zip (s.results actions)).filter fun x => x.1.isReading).map Prod.snd

/-- The bytes that an action hands out, if it does not fail. -/
def bytesOf : Except Fault Result → Bytes
  | .ok r => r.handedOut
  | .error _ => []

/-- The bytes that are handed out, in order. -/
def handedOut (results : List (Except Fault Result)) : Bytes := results.flatMap bytesOf

theorem results_cons (s : Stream) (a : Action) (actions : List Action) :
    s.results (a :: actions) = (s.perform a).1 :: (s.perform a).2.results actions := rfl

theorem readings_cons (s : Stream) (a : Action) (actions : List Action) :
    s.readings (a :: actions) =
      if a.isReading then (s.perform a).1 :: (s.perform a).2.readings actions
      else (s.perform a).2.readings actions := by
  rw [readings, results_cons, List.zip_cons_cons, List.filter_cons]
  split <;> rfl

theorem readings_append (s : Stream) (actions more : List Action) :
    s.readings (actions ++ more) = s.readings actions ++ (s.after actions).readings more := by
  induction actions generalizing s with
  | nil => rfl
  | cons a actions ih =>
    rw [List.cons_append, readings_cons, readings_cons, ih]
    split <;> rfl

namespace Steady

/-- One action: every byte that was left is handed out or still left. -/
theorem bytesOf_perform (h : s.Steady) (a : Action) :
    bytesOf (s.perform a).1 ++ (s.perform a).2.left.flatten = s.left.flatten := by
  rw [(h.perform a).2]
  cases ha : a.isReading with
  | true =>
    rw [h.result ha]
    exact Action.handedOut_gives s.left a
  | false =>
    have hnone : bytesOf (s.perform a).1 = [] := by
      cases hr : (s.perform a).1 with
      | error fault => rfl
      | ok r => exact (pieces_of_not_isReading ha hr).1
    rw [hnone, Action.leaves_of_not_isReading ha, List.nil_append]

/-- Many actions: every byte that was left is handed out or still left. -/
theorem handedOut_results (h : s.Steady) (actions : List Action) :
    (s.after actions).Steady ∧ handedOut (s.results actions) ++ (s.after actions).left.flatten =
      s.left.flatten := by
  induction actions generalizing s with
  | nil => exact ⟨h, rfl⟩
  | cons a actions ih =>
    obtain ⟨hsteady, hrest⟩ := ih (h.perform a).1
    refine ⟨hsteady, ?_⟩
    calc handedOut (s.results (a :: actions)) ++ (s.after (a :: actions)).left.flatten
        = bytesOf (s.perform a).1 ++ (handedOut ((s.perform a).2.results actions) ++
            ((s.perform a).2.after actions).left.flatten) := by
          rw [results_cons, handedOut, List.flatMap_cons, List.append_assoc]; rfl
      _ = bytesOf (s.perform a).1 ++ (s.perform a).2.left.flatten := by rw [hrest]
      _ = s.left.flatten := h.bytesOf_perform a

/-- What the readings give depends on nothing but what is left. -/
theorem readings_congr {s' : Stream} (h : s.Steady) (h' : s'.Steady) (hleft : s.left = s'.left)
    (actions : List Action) : s.readings actions = s'.results (actions.filter Action.isReading) := by
  induction actions generalizing s s' with
  | nil => rfl
  | cons a actions ih =>
    obtain ⟨hs, hsleft⟩ := h.perform a
    obtain ⟨hs', hsleft'⟩ := h'.perform a
    rw [readings_cons, List.filter_cons]
    cases ha : a.isReading with
    | true =>
      rw [if_pos rfl, if_pos rfl, results_cons, h.result ha, h'.result ha, hleft]
      exact congrArg _ (ih hs hs' (by rw [hsleft, hsleft', hleft]))
    | false =>
      rw [if_neg Bool.false_ne_true, if_neg Bool.false_ne_true]
      exact ih hs h' (by rw [hsleft, Action.leaves_of_not_isReading ha, hleft])

theorem ok_of_mem_readings (h : s.Steady) {r : Except Fault Result} (hr : r ∈ s.readings actions) :
    ∃ x, r = .ok x := by
  induction actions generalizing s with
  | nil => cases hr
  | cons a actions ih =>
    rw [readings_cons] at hr
    cases ha : a.isReading with
    | true =>
      rw [ha, if_pos rfl, List.mem_cons] at hr
      rcases hr with rfl | hr
      · exact ⟨_, h.result ha⟩
      · exact ih (h.perform a).1 hr
    | false =>
      rw [ha, if_neg Bool.false_ne_true] at hr
      exact ih (h.perform a).1 hr

/-- A stream with nothing left gives nothing any more. -/
theorem results_of_left_nil (h : s.Steady) (hleft : s.left = [])
    (hactions : ∀ a ∈ actions, a.isReading = true) :
    s.results actions = actions.map fun a => .ok (a.gives []) := by
  induction actions generalizing s with
  | nil => rfl
  | cons a actions ih =>
    obtain ⟨ha, hrest⟩ := List.forall_mem_cons.mp hactions
    obtain ⟨hs, hsleft⟩ := h.perform a
    rw [results_cons, List.map_cons, h.result ha, hleft,
      ih hs (by rw [hsleft, hleft, Action.leaves_nil]) hrest]

/-- Chunks that are handed out are not empty. -/
theorem ne_nil_of_mem_pieces (h : s.Steady) {r : Result} (hr : .ok r ∈ s.results actions) :
    [] ∉ r.pieces := by
  induction actions generalizing s with
  | nil => cases hr
  | cons a actions ih =>
    rw [results_cons, List.mem_cons] at hr
    rcases hr with hr | hr
    · cases ha : a.isReading with
      | true =>
        obtain rfl := Except.ok.inj (hr.trans (h.result ha))
        exact fun hmem => ne_nil_of_mem_left (Result.pieces_gives_subset s.left a hmem) rfl
      | false => rw [(pieces_of_not_isReading ha hr.symm).2]; exact List.not_mem_nil
    · exact ih (h.perform a).1 hr

end Steady

/-! ### Releases -/

theorem perform_of_isClosing (ha : a.isClosing = true) : (s.perform a).2 = s.close.2 := by
  cases a with
  | close | exit => rfl
  | next | iterate | read | enter => cases ha

theorem perform_of_not_isClosing (ha : a.isClosing = false) :
    (s.perform a).2.closed = s.closed ∧ (s.perform a).2.release = s.release ∧
      (s.perform a).2.releases = s.releases := by
  cases a with
  | next =>
    simp only [perform, next]
    split
    · exact ⟨rfl, rfl, rfl⟩
    · split
      · exact ⟨rfl, rfl, rfl⟩
      · split <;> exact ⟨rfl, rfl, rfl⟩
  | iterate | read =>
    simp only [perform, read, chunks]
    split
    · exact ⟨rfl, rfl, rfl⟩
    · split <;> exact ⟨rfl, rfl, rfl⟩
  | enter => exact ⟨rfl, rfl, rfl⟩
  | close | exit => cases ha

theorem close_of_closed (h : s.closed = true) : s.close = (.ok (), s) := if_pos h

theorem close_of_open (h : s.closed = false) :
    s.close.2.closed = true ∧ s.close.2.releases = s.releases + if s.release.isSome then 1 else 0 := by
  rw [close, if_neg (by rw [h]; exact Bool.false_ne_true)]
  cases s.release <;> exact ⟨rfl, rfl⟩

/-- What was closed once is not released again. -/
theorem releases_after_of_closed (h : s.closed = true) (actions : List Action) :
    (s.after actions).releases = s.releases := by
  induction actions generalizing s with
  | nil => rfl
  | cons a actions ih =>
    show ((s.perform a).2.after actions).releases = s.releases
    cases ha : a.isClosing with
    | true => rw [perform_of_isClosing ha, close_of_closed h, ih h]
    | false =>
      obtain ⟨hclosed, -, hreleases⟩ := perform_of_not_isClosing (s := s) ha
      rw [ih (hclosed.trans h), hreleases]

/-- The release is run by the first action that closes the stream, if there is one, and by no other. -/
theorem releases_after (h : s.closed = false) (actions : List Action) :
    (s.after actions).releases = s.releases + if s.release.isSome ∧ actions.any Action.isClosing then 1
    else 0 := by
  induction actions generalizing s with
  | nil => simp [after]
  | cons a actions ih =>
    show ((s.perform a).2.after actions).releases = _
    cases ha : a.isClosing with
    | true =>
      obtain ⟨hclosed, hreleases⟩ := close_of_open h
      rw [perform_of_isClosing ha, releases_after_of_closed hclosed, hreleases]
      simp [ha]
    | false =>
      obtain ⟨hclosed, hrelease, hreleases⟩ := perform_of_not_isClosing (s := s) ha
      rw [ih (hclosed.trans h), hrelease, hreleases]
      simp [ha]

/-! ### Sources that do not fail -/

/-- A stream over a source that does not fail hands out every byte once, in order and in no empty chunk:
what is left is handed out by the first reading that takes everything, and later ones give nothing. Closing
the stream changes nothing about that. Its release is run once if it is closed, and else never. -/
theorem hands_out_once (body : List Bytes) (release : Option (Except Fault Unit)) (actions : List Action) :
    let s : Stream := { pending := body, release }
    handedOut (s.results actions) <+: body.flatten ∧
    (∀ r, .ok r ∈ s.results actions → [] ∉ r.pieces) ∧
    (∀ r ∈ s.readings actions, ∃ x, r = .ok x) ∧
    (∀ before a later, actions = before ++ a :: later → a = .iterate ∨ a = .read →
      handedOut (s.results (before ++ [a])) = body.flatten ∧
      s.readings actions =
        s.readings (before ++ [a]) ++ (later.filter Action.isReading).map fun a => .ok (a.gives [])) ∧
    s.readings actions = s.results (actions.filter Action.isReading) ∧
    (s.after actions).releases = if release.isSome ∧ actions.any Action.isClosing then 1 else 0 := by
  intro s
  have hsteady : s.Steady := ⟨rfl, fun h => absurd h Bool.false_ne_true⟩
  have hleft : s.left.flatten = body.flatten := flatten_left s
  refine ⟨?_, fun r hr => hsteady.ne_nil_of_mem_pieces hr, ?_, ?_,
    hsteady.readings_congr hsteady rfl actions, ?_⟩
  · rw [← hleft, ← (hsteady.handedOut_results actions).2]
    exact List.prefix_append _ _
  · exact fun r hr => hsteady.ok_of_mem_readings hr
  · rintro before a later rfl ha
    have hempty : (s.after (before ++ [a])).left = [] := by
      rw [after, List.foldl_append]
      refine ((hsteady.handedOut_results before).1.perform a).2.trans ?_
      rcases ha with rfl | rfl <;> rfl
    obtain ⟨hdrained, hall⟩ := hsteady.handedOut_results (before ++ [a])
    refine ⟨?_, ?_⟩
    · rw [hempty, List.flatten_nil, List.append_nil, hleft] at hall
      exact hall
    · rw [List.append_cons, readings_append, hdrained.readings_congr hdrained rfl,
        hdrained.results_of_left_nil hempty fun a ha => (List.mem_filter.mp ha).2]
  · rw [releases_after rfl, Nat.zero_add]

/-- A body with an empty chunk, and a release that fails. -/
def whole : Stream where
  pending := [[0x61], [], [0x62, 0x63]]
  release := some (.error .closedClient)

theorem hands_out_once_closed_between :
    handedOut (whole.results [.next, .close, .read]) = [0x61, 0x62, 0x63] ∧
      whole.readings [.next, .close, .read, .exit, .iterate] =
        whole.readings [.next, .close, .read] ++ [.ok (.chunks [])] ∧
      (whole.after [.next, .close, .read, .exit, .iterate]).releases = 1 := by
  obtain ⟨-, -, -, hdrained, -, hreleases⟩ :=
    hands_out_once [[0x61], [], [0x62, 0x63]] (some (.error .closedClient))
    [.next, .close, .read, .exit, .iterate]
  obtain ⟨hbytes, hlater⟩ := hdrained [.next, .close] .read [.exit, .iterate] rfl (.inr rfl)
  exact ⟨hbytes, hlater, hreleases⟩

/-! ### Sources that fail -/

/-- A chunk that was taken. -/
def taken (chunk : Bytes) : Except Fault Result := .ok (.chunk (some chunk))

/-- Once an action has failed, none tells that the body is at its end. -/
def StaysBroken (results : List (Except Fault Result)) : Prop :=
  results.Pairwise fun r later => ∀ fault x, r = .error fault → later = .ok x → x.isEnd = false

/-- How readings go over a source that fails after some chunks. -/
inductive Breaks (fault : Fault) (left : List Bytes) : List Action → List (Except Fault Result) → Prop
  /-- Nobody asked for more than chunks that are there. -/
  | unnoticed {given : List Bytes} : given <+: left →
      Breaks fault left (List.replicate given.length .next) (given.map taken)
  /-- The first reading that asks for more is told of the failure, and those behind it find nothing. -/
  | told {given : List Bytes} {a : Action} (later : List Action) :
      given <+: left → (a = .next → given = left) →
      Breaks fault left (List.replicate given.length .next ++ a :: later)
        (given.map taken ++ .error fault :: later.map fun a => .ok (a.gives []))

theorem Breaks.cons {left : List Bytes} {results : List (Except Fault Result)}
    (h : Breaks fault left actions results) (chunk : Bytes) :
    Breaks fault (chunk :: left) (.next :: actions) (taken chunk :: results) := by
  cases h with
  | @unnoticed given hgiven =>
    have hmore : chunk :: given <+: chunk :: left := List.cons_prefix_cons.mpr ⟨rfl, hgiven⟩
    exact .unnoticed hmore
  | @told given a later hgiven ha =>
    have hmore : chunk :: given <+: chunk :: left := List.cons_prefix_cons.mpr ⟨rfl, hgiven⟩
    exact .told later hmore fun h => congrArg _ (ha h)

/-- Chunks are taken one by one as long as there are any; then the failure is told, once. -/
theorem breaks_of_ending (hending : s.ending = some fault) (hlate : s.isLate = false)
    (hactions : ∀ a ∈ actions, a.isReading = true) : Breaks fault s.left actions (s.results actions) := by
  induction actions generalizing s with
  | nil => exact .unnoticed List.nil_prefix
  | cons a actions ih =>
    obtain ⟨ha, hrest⟩ := List.forall_mem_cons.mp hactions
    have hfails (h : s.perform a = (.error fault, s.exhausted)) (hnext : a = .next → [] = s.left) :
        Breaks fault s.left (a :: actions) (s.results (a :: actions)) := by
      rw [results_cons, h, (steady_exhausted s).results_of_left_nil (left_exhausted s) hrest]
      exact .told actions List.nil_prefix hnext
    cases a with
    | next =>
      cases hleft : s.left with
      | nil =>
        have hperform : s.perform .next = (.error fault, s.exhausted) := by
          rw [perform, next_of_ending hending hlate hleft]; rfl
        exact hleft ▸ hfails hperform fun _ => hleft.symm
      | cons chunk rest =>
        obtain ⟨more, hperform, rfl⟩ := perform_next_of_left hlate hleft
        rw [results_cons, hperform]
        exact (ih (s := { s with pending := more, opened := true }) hending (by simp [isLate]) hrest).cons
          chunk
    | iterate => exact hfails (by rw [perform, chunks_of_ending hending hlate]; rfl) nofun
    | read => exact hfails (by rw [perform, read, chunks_of_ending hending hlate]; rfl) nofun
    | close | exit | enter => cases ha

theorem ok_of_mem_taken {given : List Bytes} {r : Except Fault Result} (h : r ∈ given.map taken) :
    ∃ x, r = .ok x := by
  obtain ⟨chunk, -, rfl⟩ := List.mem_map.mp h
  exact ⟨_, rfl⟩

theorem staysBroken_taken (given : List Bytes) : StaysBroken (given.map taken) :=
  List.pairwise_map.mpr (List.pairwise_of_forall fun _ _ _ _ h => by cases h)

theorem isEnd_gives_nil (ha : a.isReading = true) : (a.gives []).isEnd = true := by
  cases a with
  | next | iterate | read => rfl
  | close | exit | enter => cases ha

/-- Readings stay broken just if nothing is read behind the one that was told of the failure. -/
theorem Breaks.staysBroken_iff {left : List Bytes} {results : List (Except Fault Result)}
    (h : Breaks fault left actions results) (hactions : ∀ a ∈ actions, a.isReading = true) :
    StaysBroken results ↔ ∀ r ∈ results.dropLast, ∃ x, r = .ok x := by
  cases h with
  | @unnoticed given hgiven =>
    exact iff_of_true (staysBroken_taken given) fun r hr => ok_of_mem_taken (List.dropLast_subset _ hr)
  | @told given a later hgiven ha =>
    rcases later with _ | ⟨b, later⟩
    · rw [List.map_nil, List.dropLast_concat]
      have hbehind : ∀ r ∈ given.map taken, ∀ r' ∈ [Except.error fault], ∀ (fault' : Fault) (x : Result),
          r = .error fault' → r' = .ok x → x.isEnd = false := by
        rintro r hr _ - fault' x rfl
        obtain ⟨x, hx⟩ := ok_of_mem_taken hr
        cases hx
      exact iff_of_true
        (List.pairwise_append.mpr ⟨staysBroken_taken given, List.pairwise_singleton _ _, hbehind⟩)
        fun r hr => ok_of_mem_taken hr
    · have hb : b.isReading = true := hactions b (by simp)
      refine iff_of_false (fun hpairs => ?_) fun hall => ?_
      · obtain ⟨-, hpairs, -⟩ := List.pairwise_append.mp hpairs
        have hend :=
          (List.pairwise_cons.mp hpairs).1 _ (List.mem_map_of_mem List.mem_cons_self) fault _ rfl rfl
        rw [isEnd_gives_nil hb] at hend
        cases hend
      · obtain ⟨x, hx⟩ := hall (.error fault) (by
          rw [List.dropLast_append_of_ne_nil (List.cons_ne_nil _ _), List.map_cons]
          exact List.mem_append_right _ List.mem_cons_self)
        cases hx

/-- A body that fails is told to be broken once: until a reading fails there are only chunks, and behind
that one the body seems to be at its end. So it never looks complete just if nothing is read behind the
reading that failed. -/
theorem failure_told_once (hending : s.ending = some fault) (hlate : s.isLate = false)
    (hactions : ∀ a ∈ actions, a.isReading = true) :
    Breaks fault s.left actions (s.results actions) ∧
      (StaysBroken (s.results actions) ↔ ∀ r ∈ (s.results actions).dropLast, ∃ x, r = .ok x) := by
  have hbreaks := breaks_of_ending hending hlate hactions
  exact ⟨hbreaks, hbreaks.staysBroken_iff hactions⟩

/-- The time to read a body ran out. -/
def lateBody : Fault :=
  .store (.temporary .transient "reading https://acct.example.net/webhdfs/v1/k failed: late" .null
    (some (.other "ReadTimeout")))

/-- A body on the wire that breaks off behind its first chunk. -/
def cutShort : Stream where
  pending := [[0x61], []]
  ending := some lateBody
  onWire := true
  release := some (.ok ())

theorem failure_told_once_cutShort :
    Breaks lateBody cutShort.left [.next, .read] (cutShort.results [.next, .read]) ∧
      StaysBroken (cutShort.results [.next, .read]) := by
  have hactions : ∀ a ∈ [Action.next, .read], a.isReading = true := by decide
  obtain ⟨hbreaks, hstays⟩ := failure_told_once (s := cutShort) rfl rfl hactions
  refine ⟨hbreaks, hstays.mpr ?_⟩
  rintro r hr
  obtain rfl := List.mem_singleton.mp hr
  exact ⟨_, rfl⟩

/-- Whoever reads a second time after a failure takes a part of the body for all of it. -/
theorem failed_body_looks_complete :
    cutShort.ending = some lateBody ∧ cutShort.closed = false ∧
      cutShort.results [.read, .read] = [.error lateBody, .ok (.bytes [])] ∧
      ¬ StaysBroken (cutShort.results [.read, .read]) := by
  have hresults : cutShort.results [.read, .read] = [.error lateBody, .ok (.bytes [])] := rfl
  refine ⟨rfl, rfl, hresults, fun hpairs => ?_⟩
  rw [hresults] at hpairs
  have hend := (List.pairwise_cons.mp hpairs).1 _ (List.mem_singleton_self _) lateBody (.bytes []) rfl rfl
  exact absurd hend (by decide)

end LakeStore.Blob.Stream
