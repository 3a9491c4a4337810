import Mathlib.Data.List.Induction
import Mathlib.Data.List.Nodup
import Mathlib.Data.List.Pairwise
import Mathlib.Data.String.Basic
import LakeStore.Manifest.Registry
import LakeStore.Proofs.Checks
import LakeStore.Proofs.Percent

/-!
Sequences of registrations, and the backend that an endpoint leads to.

A registration adds a manifest or leaves the registry as it is, so that identifiers and schemes stay
distinct. A scheme holds no colon: what stands before the first colon of an endpoint is the only scheme that
it can start with. So at most one backend serves an endpoint, and which one it is depends on what is
registered and not on the order in which that came about.
-/

namespace LakeStore

namespace Manifest

variable {id name scheme endpoint : String} {roots : List String} {m other : Manifest}

theorem checkId_eq_ok : checkId id = .ok () ↔ isComponentId id = true := by
  rw [checkId]; cases isComponentId id <;> simp

theorem checkRoot_eq_ok {root : String} : checkRoot root = .ok () ↔ isRoot root = true := by
  rw [checkRoot]; cases isRoot root <;> simp

/-- A manifest is made exactly if all of its parts are well formed. -/
theorem make_eq_ok :
    make id name scheme roots = .ok m ↔
      isComponentId id = true ∧ Text.strip name ≠ "" ∧ isScheme scheme = true ∧ distinct roots ≠ [] ∧
        (∀ root ∈ distinct roots, isRoot root = true) ∧ m = ⟨id, name, scheme, distinct roots⟩ := by
  rw [make, check_bind_eq_ok, checkId_eq_ok]
  refine and_congr_right fun _ => ?_
  by_cases hname : Text.strip name = ""
  · rw [if_pos hname]; exact iff_of_false nofun fun h => h.1 hname
  by_cases hscheme : isScheme scheme = true
  · by_cases hroots : distinct roots = []
    · rw [if_neg hname, if_neg (by simpa using hscheme), if_pos hroots]
      exact iff_of_false nofun fun h => h.2.2.1 hroots
    · rw [if_neg hname, if_neg (by simpa using hscheme), if_neg hroots, check_bind_eq_ok, forIn_eq_ok]
      simp only [checkRoot_eq_ok, pure, Except.pure, Except.ok.injEq, eq_comm (b := m)]
      exact ⟨fun h => ⟨hname, hscheme, hroots, h⟩, fun h => h.2.2.2⟩
  · rw [if_neg hname, if_pos (by simpa using hscheme)]; exact iff_of_false nofun fun h => hscheme h.2.1

/-- A manifest that was made, all of its parts being well formed. -/
def WellFormed (m : Manifest) : Prop := ∃ id name scheme roots, make id name scheme roots = .ok m

theorem WellFormed.isScheme (h : m.WellFormed) : isScheme m.scheme = true := by
  obtain ⟨id, name, scheme, roots, hmake⟩ := h
  obtain ⟨-, -, hscheme, -, -, rfl⟩ := make_eq_ok.mp hmake
  exact hscheme

theorem colon_notMem (h : isScheme scheme = true) : ':' ∉ scheme.toList := by
  intro hmem
  rw [Manifest.isScheme] at h
  cases hs : scheme.toList with
  | nil => rw [hs] at hmem; cases hmem
  | cons c rest =>
    rw [hs, isWord, Bool.and_eq_true, List.all_eq_true] at h
    rw [hs] at hmem
    rcases List.mem_cons.mp hmem with rfl | hrest
    · exact absurd h.1 (by decide)
    · exact absurd (h.2 _ hrest) (by decide)

/-- An endpoint of a backend is its scheme, a colon and two slashes, and something more. -/
theorem claims_iff :
    m.claims endpoint = true ↔ ∃ rest, endpoint.toList = m.scheme.toList ++ ':' :: '/' :: '/' :: rest := by
  rw [claims, Text.after?, Option.isSome_map, Option.isSome_iff_exists]
  refine exists_congr fun rest => ?_
  rw [List.isPrefixOf?_eq_some_iff_append_eq, mark, String.toList_append, List.append_assoc, eq_comm]
  rfl

/-- What stands before the first colon of an endpoint is the scheme of its backend. -/
theorem WellFormed.cutAt_of_claims (hm : m.WellFormed) (h : m.claims endpoint = true) :
    (Text.cutAt ':' endpoint.toList).1 = m.scheme.toList := by
  obtain ⟨rest, hrest⟩ := claims_iff.mp h
  rw [hrest, Text.cutAt_append (colon_notMem hm.isScheme)]

theorem WellFormed.scheme_eq_of_claims (hm : m.WellFormed) (hother : other.WellFormed)
    (h : m.claims endpoint = true) (h' : other.claims endpoint = true) : m.scheme = other.scheme :=
  String.toList_injective ((hm.cutAt_of_claims h).symm.trans (hother.cutAt_of_claims h'))

end Manifest

namespace Registry

variable {r s : Registry} {m other : Manifest} {calls : List Manifest} {endpoint : String}

/-! ### One registration -/

/-- What a registration comes to. -/
inductive Registers (r : Registry) (m : Manifest) : Except ManifestError Registry → Prop
  | known : m ∈ r.manifests → Registers r m (.ok r)
  | mismatched {other : Manifest} : other ∈ r.manifests → other.id = m.id → other ≠ m →
      Registers r m (.error (.duplicate m.id))
  | rivalled {other : Manifest} : other ∈ r.manifests → other.id ≠ m.id → other.scheme = m.scheme →
      Registers r m (.error (.claimed m.scheme other.id))
  | added : (∀ other ∈ r.manifests, other.id ≠ m.id ∧ other.scheme ≠ m.scheme) →
      Registers r m (.ok ⟨r.manifests ++ [m]⟩)

theorem rival?_eq_some (h : r.rival? m = some other) :
    other ∈ r.manifests ∧ other.id ≠ m.id ∧ other.scheme = m.scheme := by
  have hrival := List.find?_some h
  rw [Bool.and_eq_true, bne_iff_ne, beq_iff_eq] at hrival
  exact ⟨List.mem_of_find?_eq_some h, hrival⟩

theorem registers (r : Registry) (m : Manifest) : Registers r m (r.register m) := by
  rw [register]
  cases hfind : r.find? m.id with
  | some registered =>
    have hmem := List.mem_of_find?_eq_some hfind
    have hid : registered.id = m.id := by simpa using List.find?_some hfind
    by_cases hsame : registered = m
    · subst hsame
      cases hrival : r.rival? registered with
      | some other =>
        obtain ⟨hother, hne, hscheme⟩ := rival?_eq_some hrival
        simpa [hrival] using Registers.rivalled hother hne hscheme
      | none => simpa [hrival] using Registers.known hmem
    · simpa [hsame] using Registers.mismatched hmem hid hsame
  | none =>
    have hnew : ∀ other ∈ r.manifests, other.id ≠ m.id := by simpa using List.find?_eq_none.mp hfind
    cases hrival : r.rival? m with
    | some other =>
      obtain ⟨hother, hne, hscheme⟩ := rival?_eq_some hrival
      simpa [hrival] using Registers.rivalled hother hne hscheme
    | none =>
      have hfree : ∀ other ∈ r.manifests, other.scheme ≠ m.scheme := fun other hother hscheme =>
        List.find?_eq_none.mp hrival other hother (by simp [hnew other hother, hscheme])
      simpa [hrival] using Registers.added fun other hother => ⟨hnew other hother, hfree other hother⟩

/-- A registry that came about by registrations of well-formed manifests. -/
structure Sound (r : Registry) : Prop where
  ids : (r.manifests.map Manifest.id).Nodup
  schemes : (r.manifests.map Manifest.scheme).Nodup
  wellFormed : ∀ m ∈ r.manifests, m.WellFormed

/-- A manifest that a registry has no place for: its identifier stands for another manifest, or its scheme
belongs to another identifier. -/
def Bars (r : Registry) (m : Manifest) : Prop :=
  ∃ other ∈ r.manifests, other.id = m.id ∧ other ≠ m ∨ other.id ≠ m.id ∧ other.scheme = m.scheme

/-- The registry after a registration was tried; a refusal leaves it as it is. -/
def attempt (r : Registry) (m : Manifest) : Registry := (r.register m).toOption.getD r

/-- The registry after registrations were tried one after the other, from an empty one. -/
def afterAll (calls : List Manifest) : Registry := calls.foldl attempt {}

theorem Sound.not_bars (hr : r.Sound) (hm : m ∈ r.manifests) : ¬ r.Bars m := by
  rintro ⟨other, hother, ⟨hid, hne⟩ | ⟨hid, hscheme⟩⟩
  · exact hne (List.inj_on_of_nodup_map hr.ids hother hm hid)
  · exact hid (congrArg Manifest.id (List.inj_on_of_nodup_map hr.schemes hother hm hscheme))

/-- A registration is refused exactly if the registry has no place for the manifest. -/
theorem Sound.register_eq_error_iff (hr : r.Sound) : (∃ e, r.register m = .error e) ↔ r.Bars m := by
  have hregisters := registers r m
  generalize r.register m = result at hregisters
  cases hregisters with
  | known hm => simp [hr.not_bars hm]
  | mismatched hother hid hne => exact iff_of_true ⟨_, rfl⟩ ⟨_, hother, .inl ⟨hid, hne⟩⟩
  | rivalled hother hid hscheme => exact iff_of_true ⟨_, rfl⟩ ⟨_, hother, .inr ⟨hid, hscheme⟩⟩
  | added hnew =>
    refine iff_of_false (by simp) ?_
    rintro ⟨other, hother, ⟨hid, -⟩ | ⟨-, hscheme⟩⟩
    · exact (hnew other hother).1 hid
    · exact (hnew other hother).2 hscheme

theorem attempt_of_mem (hm : m ∈ r.manifests) : r.attempt m = r := by
  rw [attempt]
  have hregisters := registers r m
  generalize r.register m = result at hregisters
  cases hregisters with
  | added hnew => exact absurd rfl (hnew m hm).1
  | _ => rfl

theorem attempt_of_bars (hr : r.Sound) (hm : r.Bars m) : r.attempt m = r := by
  obtain ⟨e, he⟩ := hr.register_eq_error_iff.mpr hm
  rw [attempt, he]; rfl

/-- A manifest that is not there is added behind all others, unless the registry has no place for it. -/
theorem attempt_of_new (hm : m ∉ r.manifests) (hbars : ¬ r.Bars m) : r.attempt m = ⟨r.manifests ++ [m]⟩ := by
  rw [attempt]
  have hregisters := registers r m
  generalize r.register m = result at hregisters
  cases hregisters with
  | known hmem => exact absurd hmem hm
  | mismatched hother hid hne => exact absurd ⟨_, hother, .inl ⟨hid, hne⟩⟩ hbars
  | rivalled hother hid hscheme => exact absurd ⟨_, hother, .inr ⟨hid, hscheme⟩⟩ hbars
  | added hnew => rfl

/-- The three ways in which a registration can go. -/
theorem Sound.attempt_cases (hr : r.Sound) (m : Manifest) :
    (m ∈ r.manifests ∨ r.Bars m) ∧ r.attempt m = r ∨
      (m ∉ r.manifests ∧ ¬ r.Bars m) ∧ r.attempt m = ⟨r.manifests ++ [m]⟩ := by
  by_cases hm : m ∈ r.manifests
  · exact .inl ⟨.inl hm, attempt_of_mem hm⟩
  by_cases hbars : r.Bars m
  · exact .inl ⟨.inr hbars, attempt_of_bars hr hbars⟩
  · exact .inr ⟨⟨hm, hbars⟩, attempt_of_new hm hbars⟩

theorem Sound.attempt (hr : r.Sound) (hm : m.WellFormed) : (r.attempt m).Sound := by
  rcases hr.attempt_cases m with ⟨-, heq⟩ | ⟨⟨hmem, hbars⟩, heq⟩ <;> rw [heq]
  · exact hr
  have hid : m.id ∉ r.manifests.map Manifest.id := fun h => by
    obtain ⟨other, hother, hid⟩ := List.mem_map.mp h
    exact hbars ⟨other, hother, .inl ⟨hid, by rintro rfl; exact hmem hother⟩⟩
  have hscheme : m.scheme ∉ r.manifests.map Manifest.scheme := fun h => by
    obtain ⟨other, hother, hscheme⟩ := List.mem_map.mp h
    exact hbars ⟨other, hother, .inr ⟨fun hid' => hid (List.mem_map.mpr ⟨other, hother, hid'⟩), hscheme⟩⟩
  refine ⟨?_, ?_, ?_⟩
  · rw [List.map_append, List.map_singleton, ← List.concat_eq_append]; exact hr.ids.concat hid
  · rw [List.map_append, List.map_singleton, ← List.concat_eq_append]; exact hr.schemes.concat hscheme
  · exact List.forall_mem_append.mpr ⟨hr.wellFormed, List.forall_mem_singleton.mpr hm⟩

theorem Sound.subset_attempt (hr : r.Sound) (m : Manifest) : r.manifests ⊆ (r.attempt m).manifests := by
  rcases hr.attempt_cases m with ⟨-, heq⟩ | ⟨-, heq⟩ <;> rw [heq]
  · exact List.Subset.refl _
  · exact List.subset_append_left _ _

/-- What a registry has no place for, a larger one has no place for. -/
theorem Bars.mono (h : r.Bars m) (hs : r.manifests ⊆ s.manifests) : s.Bars m := by
  obtain ⟨other, hother, hbars⟩ := h
  exact ⟨other, hs hother, hbars⟩

/-! ### Sequences of registrations -/

theorem afterAll_concat (calls : List Manifest) (m : Manifest) :
    afterAll (calls ++ [m]) = (afterAll calls).attempt m := by
  rw [afterAll, List.foldl_append]; rfl

theorem sound_afterAll (h : ∀ m ∈ calls, m.WellFormed) : (afterAll calls).Sound := by
  induction calls using List.reverseRecOn with
  | nil => exact ⟨List.nodup_nil, List.nodup_nil, fun _ hm => absurd hm List.not_mem_nil⟩
  | append_singleton calls m ih =>
    obtain ⟨hcalls, hm⟩ := List.forall_mem_append.mp h
    rw [afterAll_concat]
    exact (ih hcalls).attempt (hm m (List.mem_singleton_self m))

/-- A manifest whose registration was tried is there for good, or has no place for good. -/
theorem settled_of_mem (h : ∀ m ∈ calls, m.WellFormed) (hm : m ∈ calls) :
    m ∈ (afterAll calls).manifests ∨ (afterAll calls).Bars m := by
  induction calls using List.reverseRecOn with
  | nil => cases hm
  | append_singleton calls last ih =>
    obtain ⟨hcalls, -⟩ := List.forall_mem_append.mp h
    have hr := sound_afterAll hcalls
    rw [afterAll_concat]
    have hkept := hr.subset_attempt last
    rcases List.mem_append.mp hm with hearlier | hlast
    · exact (ih hcalls hearlier).imp (fun hmem => hkept hmem) fun hbars => hbars.mono hkept
    · obtain rfl := List.mem_singleton.mp hlast
      rcases hr.attempt_cases m with ⟨hsettled, heq⟩ | ⟨-, heq⟩ <;> rw [heq]
      · exact hsettled
      · exact .inl (List.mem_append_right _ (List.mem_singleton_self m))

/-! ### The list of backends, and the way to one -/

theorem mem_toList : m ∈ r.toList ↔ m ∈ r.manifests := (List.mergeSort_perm _ _).mem_iff

theorem Sound.pairwise_toList (hr : r.Sound) : r.toList.Pairwise fun a b => a.id < b.id := by
  have hordered : r.toList.Pairwise fun a b => decide (¬ b.id < a.id) = true := by
    refine List.pairwise_mergeSort ?_ ?_ r.manifests
    · intro a b c hab hbc
      rw [decide_eq_true_iff, not_lt] at *
      exact hab.trans hbc
    · intro a b
      rw [Bool.or_eq_true, decide_eq_true_iff, decide_eq_true_iff, not_lt, not_lt]
      exact le_total a.id b.id
  have hdistinct : r.toList.Pairwise fun a b => a.id ≠ b.id :=
    List.pairwise_map.mp (((List.mergeSort_perm _ _).map Manifest.id).nodup_iff.mpr hr.ids)
  exact (hordered.and hdistinct).imp fun ⟨hle, hne⟩ => lt_of_le_of_ne (not_lt.mp (of_decide_eq_true hle)) hne

theorem Sound.nodup_schemes_toList (hr : r.Sound) : (r.toList.map Manifest.scheme).Nodup :=
  ((List.mergeSort_perm _ _).map Manifest.scheme).nodup_iff.mpr hr.schemes

/-- The list of backends is known from what is on it. -/
theorem Sound.toList_eq (hr : r.Sound) (hs : s.Sound) (h : ∀ m, m ∈ r.toList ↔ m ∈ s.toList) :
    r.toList = s.toList := by
  have hnodup : ∀ {t : Registry}, t.Sound → t.toList.Nodup := fun ht =>
    ht.pairwise_toList.imp fun {a b} hlt => ne_of_apply_ne Manifest.id hlt.ne
  have hperm := (List.perm_ext_iff_of_nodup (hnodup hr) (hnodup hs)).mpr h
  exact hperm.eq_of_pairwise (fun _ _ _ _ hab hba => absurd hba (lt_asymm hab)) hr.pairwise_toList
    hs.pairwise_toList

/-- No two backends serve one endpoint. -/
theorem Sound.eq_of_claims (hr : r.Sound) (hm : m ∈ r.toList) (hother : other ∈ r.toList)
    (h : m.claims endpoint = true) (h' : other.claims endpoint = true) : m = other := by
  rw [mem_toList] at hm hother
  exact List.inj_on_of_nodup_map hr.schemes hm hother
    ((hr.wellFormed m hm).scheme_eq_of_claims (hr.wellFormed other hother) h h')

theorem Sound.resolve_eq_some_iff (hr : r.Sound) :
    r.resolve endpoint = some m ↔ m ∈ r.toList ∧ m.claims endpoint = true := by
  rw [resolve]
  constructor
  · intro h; exact ⟨List.mem_of_find?_eq_some h,
      List.find?_some (p := fun m : Manifest => m.claims endpoint) h⟩
  · rintro ⟨hm, hclaims⟩
    cases hfind : r.toList.find? fun m => m.claims endpoint with
    | none => exact absurd hclaims (List.find?_eq_none.mp hfind m hm)
    | some other =>
      have hother := List.find?_some (p := fun m : Manifest => m.claims endpoint) hfind
      rw [hr.eq_of_claims hm (List.mem_of_find?_eq_some hfind) hclaims hother]

/-- After any registrations of well-formed manifests, the backends are listed by ascending identifiers and
have distinct schemes. One more registration is refused exactly if its identifier stands for another
manifest or its scheme belongs to another identifier; a refused one and one that was tried before leave the
list as it is, and any other adds its manifest. An endpoint leads to the only backend that serves it, if any
does. Whichever way the same manifests came to be registered, the list and the way from each endpoint are
the same. -/
theorem routes_uniquely (h : ∀ m ∈ calls, m.WellFormed) :
    (afterAll calls).toList.Pairwise (fun a b => a.id < b.id) ∧
    ((afterAll calls).toList.map Manifest.scheme).Nodup ∧
    (∀ m, (∃ e, (afterAll calls).register m = .error e) ↔
      ∃ other ∈ (afterAll calls).toList, other.id = m.id ∧ other ≠ m ∨ other.id ≠ m.id ∧
      other.scheme = m.scheme) ∧
    (∀ m, (m ∈ calls ∨ ∃ e, (afterAll calls).register m = .error e) →
      (afterAll (calls ++ [m])).toList = (afterAll calls).toList) ∧
    (∀ m, (∃ s, (afterAll calls).register m = .ok s) →
      ∀ x, x ∈ (afterAll (calls ++ [m])).toList ↔ x = m ∨ x ∈ (afterAll calls).toList) ∧
    (∀ endpoint, ∀ m ∈ (afterAll calls).toList, ∀ other ∈ (afterAll calls).toList,
      m.claims endpoint = true → other.claims endpoint = true → m = other) ∧
    (∀ endpoint m, (afterAll calls).resolve endpoint = some m ↔
      m ∈ (afterAll calls).toList ∧ m.claims endpoint = true) ∧
    ∀ others : List Manifest, (∀ m ∈ others, m.WellFormed) →
      (∀ m, m ∈ (afterAll calls).toList ↔ m ∈ (afterAll others).toList) →
      (afterAll calls).toList = (afterAll others).toList ∧
        ∀ endpoint, (afterAll calls).resolve endpoint = (afterAll others).resolve endpoint := by
  have hr := sound_afterAll h
  refine ⟨hr.pairwise_toList, hr.nodup_schemes_toList, fun m => ?_, fun m hm => ?_, fun m hm x => ?_,
    fun endpoint m hm other hother hclaims hclaims' => hr.eq_of_claims hm hother hclaims hclaims',
    fun endpoint m => hr.resolve_eq_some_iff, fun others hothers hsame => ?_⟩
  · simp only [mem_toList]
    exact hr.register_eq_error_iff
  · rw [afterAll_concat]
    rw [hr.register_eq_error_iff] at hm
    rcases hm with hm | hbars
    · exact congrArg toList ((settled_of_mem h hm).elim attempt_of_mem (attempt_of_bars hr))
    · exact congrArg toList (attempt_of_bars hr hbars)
  · have hbars : ¬ (afterAll calls).Bars m := fun hbars => by
      obtain ⟨s, hs⟩ := hm
      obtain ⟨e, he⟩ := hr.register_eq_error_iff.mpr hbars
      rw [hs] at he; cases he
    simp only [afterAll_concat, mem_toList]
    rcases hr.attempt_cases m with ⟨hmem, heq⟩ | ⟨-, heq⟩ <;> rw [heq]
    · refine ⟨.inr, ?_⟩
      rintro (rfl | hx)
      · exact hmem.resolve_right hbars
      · exact hx
    · rw [List.mem_append, List.mem_singleton, or_comm]
  · have hlist := hr.toList_eq (sound_afterAll hothers) hsame
    exact ⟨hlist, fun endpoint => by rw [resolve, resolve, hlist]⟩

/-- A backend of another lake. -/
def pond : Manifest := ⟨"substrate_pond", "pond", "adl2", ["resources.pond"]⟩

/-- A backend that takes the scheme of the lake. -/
def poacher : Manifest := ⟨"substrate_poacher", "poacher", "adl", ["resources.poacher"]⟩

/-- Four registrations, of which one is refused and one is repeated. A scheme that begins like another one
leads elsewhere. -/
theorem routes_uniquely_refused :
    (∀ m ∈ [pond, lake, poacher, pond], m.WellFormed) ∧
      (∃ e, (afterAll [pond, lake, poacher, pond]).register poacher = .error e) ∧
      (afterAll [pond, lake, poacher, pond]).resolve "adl://a.b" = some lake ∧
      (afterAll [pond, lake, poacher, pond]).resolve "adl2://a.b" = some pond := by
  have hpond : pond.WellFormed := ⟨pond.id, pond.name, pond.scheme, pond.roots, by decide +kernel⟩
  have hlake : lake.WellFormed := ⟨lake.id, lake.name, lake.scheme, lake.roots, by decide +kernel⟩
  have hpoacher : poacher.WellFormed :=
    ⟨poacher.id, poacher.name, poacher.scheme, poacher.roots, by decide +kernel⟩
  have h : ∀ m ∈ [pond, lake, poacher, pond], m.WellFormed := by simp [hpond, hlake, hpoacher]
  have hstate : afterAll [pond, lake, poacher, pond] = ⟨[pond, lake]⟩ := by decide +kernel
  obtain ⟨-, -, hrefused, -, -, -, hresolve, -⟩ := routes_uniquely h
  refine ⟨h, (hrefused poacher).mpr ⟨lake, ?_, by decide +kernel⟩, (hresolve _ _).mpr ⟨?_, by decide +kernel⟩,
    (hresolve _ _).mpr ⟨?_, by decide +kernel⟩⟩ <;> rw [mem_toList, hstate] <;> simp

end Registry

end LakeStore
