import Mathlib.Data.List.Find
import LakeStore.Config
import LakeStore.Proofs.Checks
import LakeStore.Proofs.Overlay

/-!
Which source a setting comes from.

The sources of a configuration are laid over each other, so that at every path on the way to which they
agree stands what the caller gives, and below it what the environment says, and below that what the document
says. Components take the blocks that they find there.
-/

namespace LakeStore

namespace Config

open Value (layer?)

/-! ### Sources -/

namespace Sources

variable (s : Sources)

/-- What the sources say, from the one that counts most. -/
def said : List (List (String × Value)) := [s.given, s.environment, s.document]

/-- What all sources hold at a path, the ones that count more over the others. -/
def at? (path : List String) : Option Value :=
  layer? ((Value.table s.document).at? path)
    (layer? ((Value.table s.environment).at? path) ((Value.table s.given).at? path))

/-- What the first source holds at a path that holds anything there. -/
def first? (path : List String) : Option Value :=
  ((Value.table s.given).at? path).or
    (((Value.table s.environment).at? path).or ((Value.table s.document).at? path))

/-- No two sources disagree whether there is a table, on the way along a path. -/
def Agree (path : List String) : Prop := ∀ e ∈ s.said, ∀ f ∈ s.said, Value.Agree path (.table e) (.table f)

/-- The sources are those of an environment and a text. All that they say goes by names, by each of them
once, and sections go by names in small letters. -/
structure Of (environment : Environment) (text : Option String) : Prop where
  document : Yaml.Document.ofText (text.getD "") = .ok (Entries.keyed s.document)
  environment : environment.sections (Naming.ofOptions s.given) = .ok s.environment
  tidy : ∀ entries ∈ s.said, (Value.table entries).Tidy
  small : ∀ entries ∈ [s.given, s.document], ∀ name ∈ Entries.names entries, Text.lower name = name

end Sources

section Declared

variable {entries : List (String × Value)} {name : String} {path : List String}

theorem declared_eq (hnodup : (Entries.names entries).Nodup)
    (hsmall : ∀ name ∈ Entries.names entries, Text.lower name = name) :
    declared entries =
      (Section.all.map Section.name).filterMap fun name => (Entries.find? name entries).map (name, ·) := by
  rw [declared, List.filterMap_map]
  refine List.filterMap_congr fun s _ => ?_
  have hfind : (entries.find? fun e => Text.lower e.1 = s.name) = entries.find? fun e => e.1 = s.name :=
    List.find?_congr fun e he => by rw [hsmall e.1 (List.mem_map_of_mem he)]
  rw [hfind, Function.comp, ← Entries.find?_eq_of_nodup hnodup, Option.map_map]
  rfl

/-- Entries that go by names in small letters, each of them once, are found as they are if they stand for
sections. -/
theorem find?_declared (hnodup : (Entries.names entries).Nodup)
    (hsmall : ∀ name ∈ Entries.names entries, Text.lower name = name) :
    Entries.find? name (declared entries) =
      if name ∈ Section.all.map Section.name then Entries.find? name entries else none := by
  rw [declared_eq hnodup hsmall, Entries.find?_filterMap]

theorem tidy_declared (h : (Value.table entries).Tidy)
    (hsmall : ∀ name ∈ Entries.names entries, Text.lower name = name) :
    (Value.table (declared entries)).Tidy := by
  refine .of_get ?_ fun name w hw => ?_
  · show (Entries.names (declared entries)).Nodup
    rw [declared_eq h.named hsmall, Entries.names_filterMap]
    exact List.Nodup.filter _ (by decide)
  · rw [Value.get?, find?_declared h.named hsmall] at hw
    split at hw
    · exact h.get hw
    · cases hw

end Declared

namespace Sources

variable {s : Sources} {environment : Environment} {text : Option String} {path : List String}

theorem table_merged :
    Value.table s.merged =
      (Value.table (declared s.document)).over
        ((Value.table s.environment).over (.table (declared s.given))) := by
  rw [Value.table_over_table, Value.table_over_table]
  rfl

/-- What a source declares is in order, and leads to the components that it says. -/
theorem Of.declared (h : s.Of environment text) (entries : List (String × Value))
    (he : entries ∈ [s.given, s.document]) :
    (Value.table (declared entries)).Tidy ∧
      Entries.find? "components" (declared entries) = Entries.find? "components" entries := by
  have hsaid : entries ∈ s.said := by
    rcases List.mem_pair.mp he with rfl | rfl <;> simp [said]
  have htidy := h.tidy entries hsaid
  refine ⟨tidy_declared htidy (h.small entries he), ?_⟩
  rw [find?_declared htidy.named (h.small entries he), if_pos (by decide)]

theorem Of.tidy_merged (h : s.Of environment text) : (Value.table s.merged).Tidy := by
  rw [table_merged]
  exact (h.declared s.document (by simp)).1.over
    ((h.tidy _ (by simp [said])).over (h.declared s.given (by simp)).1)

/-- At a path among the components, on the way to which the sources agree, stands what they hold there. -/
theorem Of.at?_merged (h : s.Of environment text) (hagree : s.Agree ("components" :: path)) :
    (Value.table s.merged).at? ("components" :: path) = s.at? ("components" :: path) := by
  obtain ⟨hgiven, hgivenFound⟩ := h.declared s.given (by simp)
  obtain ⟨hdocument, hdocumentFound⟩ := h.declared s.document (by simp)
  have henvironment : (Value.table s.environment).Tidy := h.tidy _ (by simp [said])
  have hupper :
      Value.Agree ("components" :: path) (.table s.environment) (.table (Config.declared s.given)) := by
    rw [Value.agree_tables_iff, hgivenFound, ← Value.agree_tables_iff]
    exact hagree _ (by simp [said]) _ (by simp [said])
  have hlower :
      Value.Agree ("components" :: path) (.table (Config.declared s.document)) (.table s.environment) := by
    rw [Value.agree_tables_iff, hdocumentFound, ← Value.agree_tables_iff]
    exact hagree _ (by simp [said]) _ (by simp [said])
  have houter :
      Value.Agree ("components" :: path) (.table (Config.declared s.document))
        (.table (Config.declared s.given)) := by
    rw [Value.agree_tables_iff, hdocumentFound, hgivenFound, ← Value.agree_tables_iff]
    exact hagree _ (by simp [said]) _ (by simp [said])
  rw [table_merged, Value.at?_over hdocument (henvironment.over hgiven)
    (hlower.over henvironment hgiven houter hupper), Value.at?_over henvironment hgiven hupper, at?,
    Value.at?_table_congr hdocumentFound, Value.at?_table_congr hgivenFound]

theorem named_keyed (entries : List (String × Value)) :
    named (Entries.keyed entries) = .ok (entries, false) := by
  simp [named, Entries.keyed, Value.text?]

/-- From such sources the configuration is loaded that the entries of all of them spell. -/
theorem Of.load_eq_ok_iff (h : s.Of environment text) {c : Config} :
    load s.given environment text = .ok c ↔ ofEntries s.merged = .ok c := by
  rw [load, h.document]
  show (named (Entries.keyed s.document) >>= _) = _ ↔ _
  rw [named_keyed]
  show ((environment.sections (Naming.ofOptions s.given)).mapError ConfigError.environment >>= _) = _ ↔ _
  rw [h.environment]
  exact mapError_eq_ok

/-- Where the first source that holds anything holds no table, this is what all sources hold. -/
theorem Of.at?_eq_first? (h : s.Of environment text) (hleaf : ∀ v, s.first? path = some v → ¬ v.IsTable) :
    s.at? path = s.first? path := by
  rw [first?, ← Option.or_assoc] at hleaf
  rw [at?, first?, ← Option.or_assoc, ← Value.layer?_eq_or, ← Value.layer?_eq_or]
  · exact fun l hl => h.tidy _ (by simp [said]) path l hl
  · exact fun u hu => hleaf u (by rw [hu]; rfl)
  · exact fun l hl => h.tidy _ (by simp [said]) path l hl
  · exact fun u hu => hleaf u (by rw [hu]; rfl)

end Sources

/-! ### Components -/

/-- The components of a source are a table without names that run a kind and a name together, and its
substrates are one, too. -/
def Kinds (v : Value) : Prop :=
  ∃ entries, v = .table entries ∧ (∀ name ∈ Entries.names entries, flatName? name = none) ∧
    ∀ w, Entries.find? substrateKind entries = some w → w.IsTable

theorem nameless_table (entries : List (String × Value)) : Lax.nameless (.table entries) = [] := by
  simp [Lax.nameless, Lax.strays, Value.keyed?]

theorem readSubstrates_eq_ok_iff {w : Value} {entries : List (String × Value)} (hw : w.Named) :
    readSubstrates w = .ok entries ↔ w = .table entries := by
  cases w with
  | table es =>
    rw [readSubstrates, Lax.record_table, nameless_table, Checked.also_eq_ok]
    simp [Checked.pure]
  | mapping es => exact hw.elim
  | _ => exact iff_of_false (fun h => by cases h) (fun h => by cases h)

theorem substrates_eq_ok_iff {entries subs : List (String × Value)} (h : (Value.table entries).Tidy) :
    Lax.field entries substrateKind (some []) readSubstrates = .ok subs ↔
      (∀ w, Entries.find? substrateKind entries = some w → w.IsTable) ∧
        subs = ((Entries.find? substrateKind entries).getD (.table [])).entries := by
  rw [Lax.field_some_eq_ok]
  cases hw : Entries.find? substrateKind entries with
  | none => simp [Value.entries]
  | some w =>
    refine (readSubstrates_eq_ok_iff (h.found hw).named).trans ⟨?_, ?_⟩
    · rintro rfl
      exact ⟨fun w hw => ⟨subs, (Option.some.inj hw).symm⟩, rfl⟩
    · rintro ⟨htable, rfl⟩
      obtain ⟨es, rfl⟩ := htable w rfl
      rfl

/-- Components are read if they are as they should be, and as what they hold. -/
theorem readComponents_eq_ok_iff {v : Value} {p : List (String × Value) × List (String × Value)}
    (hv : v.Tidy) :
    readComponents v = .ok p ↔
      Kinds v ∧
      p = (((v.get? substrateKind).getD (.table [])).entries, Entries.without [substrateKind] v.entries) := by
  cases v with
  | table entries =>
    have hflat :
        ((Value.named ((Value.table entries).keyed?.getD [])).findSome? fun e => flatName? e.1) = none ↔
        ∀ name ∈ Entries.names entries, flatName? name = none := by
      show ((Value.named (Entries.keyed entries)).findSome? fun e => flatName? e.1) = none ↔ _
      rw [Entries.named_keyed]
      simp [Entries.names]
    rw [readComponents]
    cases hwhy : (Value.named ((Value.table entries).keyed?.getD [])).findSome? fun e => flatName? e.1 with
    | some why =>
      refine iff_of_false (fun h => by cases h) ?_
      rintro ⟨⟨es, hes, hnames, -⟩, -⟩
      obtain rfl := Value.table.inj hes
      rw [hflat.mpr hnames] at hwhy
      cases hwhy
    | none =>
      simp only [Lax.record_table, nameless_table, Checked.also_eq_ok, and_true, Checked.apply_eq_ok,
        substrates_eq_ok_iff hv]
      constructor
      · rintro ⟨g, subs, hg, ⟨htable, rfl⟩, rfl⟩
        obtain rfl := Except.ok.inj hg
        exact ⟨⟨entries, rfl, hflat.mp hwhy, htable⟩, rfl⟩
      · rintro ⟨⟨es, hes, -, htable⟩, rfl⟩
        obtain rfl := Value.table.inj hes
        exact ⟨_, _, rfl, ⟨htable, rfl⟩, rfl⟩
  | mapping entries => exact hv.named.elim
  | _ =>
    refine iff_of_false (fun h => by cases h) ?_
    rintro ⟨⟨es, hes, -⟩, -⟩
    cases hes

/-- Components that lie over each other are as they should be if both are. -/
theorem Kinds.over {l u : Value} (hl : l.Tidy) (hu : u.Tidy) (hlk : Kinds l) (huk : Kinds u) :
    Kinds (l.over u) := by
  obtain ⟨le, rfl, hlnames, hltable⟩ := hlk
  obtain ⟨ue, rfl, hunames, hutable⟩ := huk
  refine ⟨Entries.over le ue, Value.table_over_table le ue, fun name hname => ?_, fun w hw => ?_⟩
  · by_cases hmem : name ∈ Entries.names ue
    · exact hunames name hmem
    · refine hlnames name (by_contra fun hlower => ?_)
      have hnone : Entries.find? name (Entries.over le ue) = none := by
        rw [Entries.find?_over hl.named hu.named, Entries.find?_eq_none_iff.mpr hmem,
          Entries.find?_eq_none_iff.mpr hlower]
        rfl
      exact Entries.find?_eq_none_iff.mp hnone hname
  · rw [Entries.find?_over hl.named hu.named] at hw
    rcases hup : Entries.find? substrateKind ue with _ | b <;> rw [hup] at hw
    · exact hltable w hw
    · obtain rfl := Option.some.inj hw
      have hb := hutable b hup
      rcases hlow : Entries.find? substrateKind le with _ | a
      · exact hb
      · exact (Value.isTable_over_iff (hl.found hlow).named).mpr hb

theorem ofEntries_eq_ok_iff {entries : List (String × Value)} {c : Config} :
    ofEntries entries = .ok c ↔
      ∃ logging components, Lax.record Log.Settings.ofEntries (sectionOf entries .logging) = .ok logging ∧
        readComponents (sectionOf entries .components) = .ok components ∧
        c = ⟨logging, components.1, components.2⟩ := by
  simp only [ofEntries, Checked.apply_eq_ok, Checked.under_eq_ok]
  constructor
  · rintro ⟨_, components, ⟨_, logging, hf, hlogging, rfl⟩, hcomponents, rfl⟩
    obtain rfl := Except.ok.inj hf
    exact ⟨logging, components, hlogging, hcomponents, rfl⟩
  · rintro ⟨logging, components, hlogging, hcomponents, rfl⟩
    exact ⟨_, components, ⟨_, logging, rfl, hlogging, rfl⟩, hcomponents, rfl⟩

/-! ### Loaded settings -/

variable {s : Sources} {environment : Environment} {text : Option String} {c : Config} {name : String}

theorem Sources.Of.tidy_components (h : s.Of environment text) : (sectionOf s.merged .components).Tidy := by
  rw [sectionOf]
  cases hv : Entries.find? Section.components.name s.merged with
  | none => exact Value.tidy_nil
  | some v => exact h.tidy_merged.found hv

/-- The substrates that are loaded are those of all sources. -/
theorem Sources.Of.substrates_eq (h : s.Of environment text) (hc : load s.given environment text = .ok c) :
    Value.table c.substrates = ((Value.table s.merged).at? ["components", "substrate"]).getD (.table []) := by
  obtain ⟨logging, components, -, hcomponents, rfl⟩ := ofEntries_eq_ok_iff.mp (h.load_eq_ok_iff.mp hc)
  obtain ⟨⟨entries, hv, -, htable⟩, rfl⟩ := (readComponents_eq_ok_iff h.tidy_components).mp hcomponents
  have hmerged : (Value.table s.merged).at? ["components", "substrate"] =
      (sectionOf s.merged .components).get? substrateKind := by
    rw [sectionOf, Value.at?_cons, Value.get?]
    show (Entries.find? Section.components.name s.merged).bind _ = _
    cases Entries.find? Section.components.name s.merged <;> simp <;> rfl
  rw [hmerged, hv, Value.get?]
  cases hw : Entries.find? substrateKind entries with
  | none => rfl
  | some w =>
    obtain ⟨subs, rfl⟩ := htable w hw
    rfl

theorem Sources.Of.tidy_substrates (h : s.Of environment text) (hc : load s.given environment text = .ok c) :
    (Value.table c.substrates).Tidy := by
  rw [h.substrates_eq hc]
  cases hv : (Value.table s.merged).at? ["components", "substrate"] with
  | none => exact Value.tidy_nil
  | some v => exact h.tidy_merged.at hv

theorem Sources.Of.at?_substrates (h : s.Of environment text) (hc : load s.given environment text = .ok c)
    (name : String) (path : List String) :
    (Value.table c.substrates).at? (name :: path) =
      (Value.table s.merged).at? ("components" :: "substrate" :: name :: path) := by
  rw [h.substrates_eq hc, show "components" :: "substrate" :: name :: path =
    ["components", "substrate"] ++ name :: path from rfl, Value.at?_append]
  cases (Value.table s.merged).at? ["components", "substrate"] <;> rfl

/-- What can be loaded: the section for logging can be read, and the components of all sources are as they
should be. -/
structure Sources.Loadable (s : Sources) : Prop where
  logging : ∃ logging, Lax.record Log.Settings.ofEntries (sectionOf s.merged .logging) = .ok logging
  components : ∀ entries ∈ s.said, ∀ v, Entries.find? "components" entries = some v → Kinds v

theorem Kinds.layer? {lower upper : Option Value} (hl : ∀ v, lower = some v → v.Tidy ∧ Kinds v)
    (hu : ∀ v, upper = some v → v.Tidy ∧ Kinds v) : ∀ v, layer? lower upper = some v → v.Tidy ∧ Kinds v := by
  intro v hv
  rcases lower with _ | l <;> rcases upper with _ | u
  · cases hv
  · exact hu v hv
  · exact hl v hv
  · obtain rfl := Option.some.inj hv
    obtain ⟨hlt, hlk⟩ := hl l rfl
    obtain ⟨hut, huk⟩ := hu u rfl
    exact ⟨hlt.over hut, hlk.over hlt hut huk⟩

/-- The components of all sources are as they should be if those of each are. -/
theorem Sources.Of.kinds_components (h : s.Of environment text) (hs : s.Loadable) :
    Kinds (sectionOf s.merged .components) := by
  have hagree : s.Agree ["components"] := fun e _ f _ =>
    Value.agree_tables_iff.mpr fun a b _ _ => Value.agree_nil a b
  have hsource : ∀ entries ∈ s.said, ∀ v, (Value.table entries).at? ["components"] = some v →
    v.Tidy ∧ Kinds v := by
    intro entries hentries v hv
    rw [Value.at?_singleton] at hv
    exact ⟨(h.tidy entries hentries).found hv, hs.components entries hentries v hv⟩
  have hall := Kinds.layer? (hsource s.document (by simp [Sources.said]))
    (Kinds.layer? (hsource s.environment (by simp [Sources.said])) (hsource s.given (by simp [Sources.said])))
  have hmerged : (Value.table s.merged).at? ["components"] = Entries.find? Section.components.name s.merged :=
    Value.at?_singleton _ _
  rw [sectionOf, ← hmerged, h.at?_merged hagree]
  cases hv : s.at? ["components"] with
  | none => exact ⟨[], rfl, nofun, nofun⟩
  | some v => exact (hall v hv).2

theorem Sources.Of.loads (h : s.Of environment text) (hs : s.Loadable) :
    ∃ c, load s.given environment text = .ok c := by
  obtain ⟨logging, hlogging⟩ := hs.logging
  have hcomponents := (readComponents_eq_ok_iff h.tidy_components).mpr ⟨h.kinds_components hs, rfl⟩
  exact ⟨_, h.load_eq_ok_iff.mpr (ofEntries_eq_ok_iff.mpr ⟨logging, _, hlogging, hcomponents, rfl⟩)⟩

/-- The block that a component is handed, by what is held under its name. -/
def handed (name : String) : Option Value → Except ConfigError Value
  | none => .ok (.table [])
  | some (.table entries) => .ok (.table entries)
  | some _ => .error (.notTable substrateKind name)

theorem cut_substrate (name : String) : Text.cut '_' ("substrate_" ++ name) = (substrateKind, name) := by
  rw [Text.cut, String.toList_append]
  show (String.ofList "substrate".toList, String.ofList name.toList) = _
  rw [String.ofList_toList, String.ofList_toList]
  rfl

/-- A component of a name is handed the block that is held under it. -/
theorem resolve_eq (htidy : (Value.table c.substrates).Tidy) (hname : name ≠ "") {α : Type}
    (read : Value → Checked α) :
    c.resolve ("substrate_" ++ name) read =
      handed name ((Value.table c.substrates).at? [name]) >>= fun block =>
        (read block).mapError .invalid := by
  have hblock : c.block ("substrate_" ++ name) = handed name (Entries.find? name c.substrates) := by
    rw [block, cut_substrate]
    show (if substrateKind ≠ substrateKind ∨ name = "" then _ else _) = _
    rw [if_neg (by simp [hname])]
    cases hv : Entries.find? name c.substrates with
    | none => rfl
    | some v =>
      cases v with
      | mapping entries => exact (htidy.found hv).named.elim
      | _ => rfl
  rw [resolve, hblock, Value.at?_singleton]
  rfl

/-- From sources that are in order a configuration is loaded. Wherever the sources agree on the way, it
holds under the name of a substrate what they hold there, laid over each other; if the first source that
holds anything there holds no table, this is what it holds. A component is handed the block that is held
under its name. -/
theorem substrates_by_source (h : s.Of environment text) :
    (s.Loadable → ∃ c, load s.given environment text = .ok c) ∧
    ∀ c, load s.given environment text = .ok c → ∀ name,
      (∀ path, s.Agree ("components" :: "substrate" :: name :: path) →
        let held := (Value.table c.substrates).at? (name :: path)
        held = s.at? ("components" :: "substrate" :: name :: path) ∧
        ((∀ v, s.first? ("components" :: "substrate" :: name :: path) = some v → ¬ v.IsTable) →
          held = s.first? ("components" :: "substrate" :: name :: path))) ∧
      (name ≠ "" → ∀ (α : Type) (read : Value → Checked α),
        c.resolve ("substrate_" ++ name) read =
          handed name ((Value.table c.substrates).at? [name]) >>= fun block =>
            (read block).mapError .invalid) := by
  refine ⟨h.loads, fun c hc name => ⟨fun path hagree => ?_, fun hname α read => ?_⟩⟩
  · have hheld := (h.at?_substrates hc name path).trans (h.at?_merged hagree)
    exact ⟨hheld, fun hleaf => hheld.trans (h.at?_eq_first? hleaf)⟩
  · exact resolve_eq (h.tidy_substrates hc) hname read

/-- A table that a path of names leads to. -/
def nested (v : Value) (path : List String) : Value := path.foldr (fun name v => .table [(name, v)]) v

theorem tidy_nested {v : Value} (h : v.Tidy) : ∀ path, (nested v path).Tidy
  | [] => h
  | _ :: path => Value.tidy_singleton (tidy_nested h path)

/-- A variable that sets one entry in the table of a setting. -/
def oneVariable : Environment := [("LAKEBLOB_COMPONENTS__SUBSTRATE__N__X__B", "2")]

/-- A caller that gives another entry of that table, where nothing is written in the document. -/
def overlapping : Sources where
  given := [("components", nested (.int 1) ["substrate", "n", "x", "a"])]
  environment := [("components", nested (.text "2") ["substrate", "n", "x", "b"])]

theorem overlapping_of : overlapping.Of oneVariable none where
  document := by rfl
  environment := by decide +kernel
  tidy := by
    have hleaf : (Value.int 1).Tidy ∧ (Value.text "2").Tidy :=
      ⟨.of_get trivial fun _ _ hw => (by cases hw), .of_get trivial fun _ _ hw => (by cases hw)⟩
    have hgiven := tidy_nested hleaf.1 ["components", "substrate", "n", "x", "a"]
    have henvironment := tidy_nested hleaf.2 ["components", "substrate", "n", "x", "b"]
    simp only [Sources.said, List.forall_mem_cons]
    exact ⟨hgiven, henvironment, Value.tidy_nil, nofun⟩
  small := by decide +kernel

theorem overlapping_agree : overlapping.Agree ["components", "substrate", "n", "x", "b"] := by
  simp [Sources.Agree, Sources.said, overlapping, nested, Value.agree_cons_iff, Value.agree_nil, Value.get?,
    Entries.find?_cons, Value.IsTable]

theorem overlapping_loadable : overlapping.Loadable where
  logging := ⟨{ service := some "lakeblob", environment := some "dev" }, by decide +kernel⟩
  components := by
    simp [Sources.said, overlapping, nested, Entries.find?_cons, Kinds, Entries.names, substrateKind,
      Value.IsTable]
    decide +kernel

/-- What the caller gives does not hide what a variable sets beside it, and the component is handed both. -/
theorem substrates_by_source_beside :
    ∃ c, load overlapping.given oneVariable none = .ok c ∧
      (Value.table c.substrates).at? ["n", "x", "b"] = some (.text "2") ∧
      c.resolve "substrate_n" Checked.pure =
        .ok (.table [("x", .table [("b", .text "2"), ("a", .int 1)])]) := by
  obtain ⟨hloads, hall⟩ := substrates_by_source overlapping_of
  obtain ⟨c, hc⟩ := hloads overlapping_loadable
  obtain ⟨hpath, hblock⟩ := hall c hc "n"
  have hfirst : overlapping.first? ["components", "substrate", "n", "x", "b"] = some (.text "2") := rfl
  have hleaf : ∀ v, overlapping.first? ["components", "substrate", "n", "x", "b"] = some v → ¬ v.IsTable := by
    rw [hfirst]
    rintro v hv ⟨entries, rfl⟩
    cases hv
  have hshort : overlapping.Agree ["components", "substrate", "n"] := fun v hv w hw =>
    (overlapping_agree v hv w hw).before ⟨["x", "b"], rfl⟩
  have hboth : overlapping.at? ["components", "substrate", "n"] =
      some (.table [("x", .table [("b", .text "2"), ("a", .int 1)])]) := by decide +kernel
  refine ⟨c, hc, ((hpath ["x", "b"] overlapping_agree).2 hleaf).trans hfirst, ?_⟩
  rw [show "substrate_n" = "substrate_" ++ "n" by rfl, hblock (by decide), (hpath [] hshort).1, hboth]
  rfl

/-- Where two sources hold tables, what is held is more than the first of them holds. -/
theorem overlapping_tables :
    ∃ c v, overlapping.Of oneVariable none ∧ overlapping.Loadable ∧
      overlapping.Agree ["components", "substrate", "n", "x"] ∧
      load overlapping.given oneVariable none = .ok c ∧
      (Value.table overlapping.given).at? ["components", "substrate", "n", "x"] = some v ∧
      (Value.table c.substrates).at? ["n", "x"] ≠ some v := by
  obtain ⟨c, hc⟩ := overlapping_of.loads overlapping_loadable
  have hagree : overlapping.Agree ["components", "substrate", "n", "x"] := fun v hv w hw =>
    (overlapping_agree v hv w hw).before ⟨["b"], rfl⟩
  refine ⟨c, .table [("a", .int 1)], overlapping_of, overlapping_loadable, hagree, hc, rfl, ?_⟩
  rw [overlapping_of.at?_substrates hc, overlapping_of.at?_merged hagree]
  decide +kernel

end Config

end LakeStore
