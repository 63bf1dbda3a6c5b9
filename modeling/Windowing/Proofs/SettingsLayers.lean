import Mathlib
import Windowing.Proofs.SettingTrees

set_option autoImplicit false

/-! # Layered settings

`loadSettings` reads the settings from four layers, each merged over the ones before it: the
built-in defaults, the settings file, the `CORRELOG_` environment variables and the flags. When
each layer holds the settings where their dotted keys say, every setting is read from the
highest layer that gives it (`load_reads_highest_layer`):

* the file nests the keys as maps (`NestsSettings`): it may leave any key out and hold other
  keys beside them, but no value stands on the way to a setting, no map stands at its place,
  and no key of the file spells a setting's key another way;
* each variable names a setting's key, or a key lying neither above nor below one, nor above
  nor below another variable's (`EnvFits`). A variable naming a key below a setting turns the
  setting into a map, which reads as empty or zero (`env_key_below_setting_refused`); one naming
  a key below another variable's is placed beside it when the other comes first;
* a flag gives its key only when it is set: the defaults hold every key, so the default of a
  flag left unset is never placed (`flagLayer_of_hasKey`).

The settings so read are then validated: they pass exactly when nothing is wrong with them, and
the refusal has one line for each key refused, in order, each starting with that key. -/

namespace Windowing

/-! ## The settings keys -/

/-- The dotted keys of the settings. -/
def settingKeys : List String := defaultSettings.map Prod.fst

theorem settingKeys_nodup : settingKeys.Nodup := by decide

/-- No settings key lies above another. -/
theorem settingKeys_unnested : ∀ a ∈ settingKeys, ∀ b ∈ settingKeys, Unnested a b := by
  decide

/-- Each setting has a flag named by its key. -/
theorem settingFlags_names : settingFlags.map Flag.name = settingKeys := rfl

/-- Two readings of the keys that agree on the settings keys give the same settings. -/
theorem Settings.read_congr {f g : String → Option SettingTree}
    (h : ∀ key ∈ settingKeys, f key = g key) : Settings.read f = Settings.read g := by
  simp [Settings.read, h, settingKeys, defaultSettings]

/-! ## The defaults -/

theorem defaultSettings_flat : Flat defaultSettings where
  leaf := by simp [defaultSettings]
  unnested a ha b hb :=
    settingKeys_unnested a.1 (List.mem_map.2 ⟨a, ha, rfl⟩) b.1 (List.mem_map.2 ⟨b, hb, rfl⟩)

theorem defaultSettings_unnested {key : String} (hkey : key ∈ settingKeys) :
    ∀ p ∈ defaultSettings, Unnested p.1 key :=
  fun p hp => settingKeys_unnested p.1 (List.mem_map.2 ⟨p, hp, rfl⟩) key hkey

theorem holdsSetting_defaultLayer {key : String} (hkey : key ∈ settingKeys) :
    HoldsSetting defaultLayer key :=
  defaultSettings_flat.holdsSetting (defaultSettings_unnested hkey)

/-- The default layer holds each setting's default at its key. -/
theorem searchPath_defaultLayer {key : String} (hkey : key ∈ settingKeys) :
    searchPath defaultLayer (keyParts key) = defaultSettings.lookup key := by
  rw [defaultLayer, searchPath_unflatten defaultSettings_flat (defaultSettings_unnested hkey),
    lookup_reverse_of_nodup _ settingKeys_nodup]

/-- Every setting has a default. -/
theorem lookup_defaultSettings_isSome {key : String} (hkey : key ∈ settingKeys) :
    (defaultSettings.lookup key).isSome := by
  obtain ⟨p, hp, rfl⟩ := List.mem_map.1 hkey
  rw [List.lookup_isSome_iff]
  exact ⟨p, hp, by simp⟩

/-! ## The environment -/

/-- The tree the environment gives a key: the value of the last variable naming it. -/
def envSetting (env : List (String × String)) (key : String) : Option SettingTree :=
  (envEntries env).reverse.lookup key

/-- The variables fit the settings when each names a settings key, or a key lying neither
above nor below one, and no variable's key lies above or below another's. -/
structure EnvFits (env : List (String × String)) : Prop where
  settings : ∀ e ∈ envEntries env, ∀ key ∈ settingKeys, Unnested e.1 key
  unnested : ∀ a ∈ envEntries env, ∀ b ∈ envEntries env, Unnested a.1 b.1

/-- The variables give text. -/
theorem envEntries_leaf (env : List (String × String)) :
    ∀ p ∈ envEntries env, ∃ w, p.2 = .leaf w := by
  intro p hp
  obtain ⟨⟨name, v⟩, -, hv⟩ := List.mem_filterMap.1 hp
  by_cases hname : (name.startsWith envPrefix && !(envKey name).isEmpty) = true
  · simp only [hname, if_true, Option.some.injEq] at hv
    exact ⟨_, by rw [← hv]⟩
  · simp [hname] at hv

theorem EnvFits.flat {env : List (String × String)} (h : EnvFits env) : Flat (envEntries env) :=
  ⟨envEntries_leaf env, h.unnested⟩

theorem EnvFits.holdsSetting {env : List (String × String)} (h : EnvFits env) {key : String}
    (hkey : key ∈ settingKeys) : HoldsSetting (envLayer env) key :=
  h.flat.holdsSetting fun p hp => h.settings p hp key hkey

/-- The environment layer holds at each setting's key the last variable naming it. -/
theorem EnvFits.searchPath_envLayer {env : List (String × String)} (h : EnvFits env)
    {key : String} (hkey : key ∈ settingKeys) :
    searchPath (envLayer env) (keyParts key) = envSetting env key :=
  searchPath_unflatten h.flat fun p hp => h.settings p hp key hkey

/-! ## The flags -/

/-- The tree a flag set on the command line gives its key. -/
def flagSetting (parsed : ParsedFlags) (key : String) : Option SettingTree :=
  (parsed.set.lookup key).map fun v => .leaf v.toSetting

/-- The flags set, by name, in the order of `names`. -/
def flagPairs (names : List String) (parsed : ParsedFlags) : List (String × SettingTree) :=
  names.filterMap fun n => (flagSetting parsed n).map (n, ·)

/-- A name among `names` pairs with the value of its flag, if it is set. -/
theorem lookup_flagPairs (parsed : ParsedFlags) :
    ∀ (names : List String) (key : String),
      (flagPairs names parsed).lookup key = if key ∈ names then flagSetting parsed key else none
  | [], _ => rfl
  | n :: rest, key => by
    have ih := lookup_flagPairs parsed rest key
    unfold flagPairs at ih ⊢
    rw [List.filterMap_cons]
    by_cases hk : key = n
    · subst hk
      cases hv : flagSetting parsed key <;> simp [hv, ih]
    · cases hv : flagSetting parsed n with
      | none => simp [ih, hk]
      | some t => simp [ih, hk, List.lookup_cons, beq_false_of_ne hk]

/-- The names of the flags set, among `names`. -/
theorem keys_flagPairs_sublist (parsed : ParsedFlags) :
    ∀ names : List String, ((flagPairs names parsed).map Prod.fst).Sublist names
  | [] => by simp [flagPairs]
  | n :: rest => by
    have ih := keys_flagPairs_sublist parsed rest
    unfold flagPairs at ih ⊢
    cases hv : flagSetting parsed n
    · simpa [hv] using ih.cons n
    · simpa [hv] using ih.cons_cons n

section FlagNames

variable {names : List String} (hnames : names.Perm settingKeys) (parsed : ParsedFlags)
include hnames

theorem mem_settingKeys_of_mem_flagPairs {p : String × SettingTree}
    (hp : p ∈ flagPairs names parsed) : p.1 ∈ settingKeys :=
  hnames.mem_iff.1 ((keys_flagPairs_sublist parsed names).subset (List.mem_map.2 ⟨p, hp, rfl⟩))

theorem flagPairs_flat : Flat (flagPairs names parsed) where
  leaf p hp := by
    obtain ⟨n, -, hn⟩ := List.mem_filterMap.1 hp
    obtain ⟨t, ht, rfl⟩ := Option.map_eq_some_iff.1 hn
    obtain ⟨v, -, rfl⟩ := Option.map_eq_some_iff.1 ht
    exact ⟨_, rfl⟩
  unnested a ha b hb :=
    settingKeys_unnested a.1 (mem_settingKeys_of_mem_flagPairs hnames parsed ha)
      b.1 (mem_settingKeys_of_mem_flagPairs hnames parsed hb)

theorem flagPairs_unnested {key : String} (hkey : key ∈ settingKeys) :
    ∀ p ∈ flagPairs names parsed, Unnested p.1 key := fun p hp =>
  settingKeys_unnested p.1 (mem_settingKeys_of_mem_flagPairs hnames parsed hp) key hkey

theorem holdsSetting_flagPairs {key : String} (hkey : key ∈ settingKeys) :
    HoldsSetting (unflatten (flagPairs names parsed)) key :=
  (flagPairs_flat hnames parsed).holdsSetting (flagPairs_unnested hnames parsed hkey)

/-- The layer of the flags set holds at each setting's key the value of its flag. -/
theorem searchPath_flagPairs {key : String} (hkey : key ∈ settingKeys) :
    searchPath (unflatten (flagPairs names parsed)) (keyParts key) = flagSetting parsed key := by
  have hnodup : ((flagPairs names parsed).map Prod.fst).Nodup :=
    (keys_flagPairs_sublist parsed names).nodup (hnames.nodup_iff.2 settingKeys_nodup)
  rw [searchPath_unflatten (flagPairs_flat hnames parsed) (flagPairs_unnested hnames parsed hkey),
    lookup_reverse_of_nodup _ hnodup, lookup_flagPairs, if_pos (hnames.mem_iff.2 hkey)]

end FlagNames

/-- Where the settings so far hold every flag's key, the flag layer is made of the flags set:
no default of a flag left unset is placed. -/
theorem flagLayer_of_hasKey {flags : List Flag} {parsed : ParsedFlags} {sofar : SettingEntries}
    (h : ∀ f ∈ flags, hasKey sofar f.name = true) :
    flagLayer flags parsed sofar =
      unflatten (flagPairs ((flags.mergeSort fun a b => decide (a.name ≤ b.name)).map Flag.name)
        parsed) := by
  unfold flagLayer flagPairs
  dsimp only
  rw [List.filterMap_map]
  congr 1
  apply List.filterMap_congr
  intro f hf
  have hkey := h f ((List.mergeSort_perm _ _).mem_iff.1 hf)
  cases hv : parsed.set.lookup f.name <;> simp [flagSetting, hv, hkey]

/-- The settings flags in name order are the settings keys in another order. -/
theorem sorted_settingFlags_perm :
    ((settingFlags.mergeSort fun a b => decide (a.name ≤ b.name)).map Flag.name).Perm
      settingKeys := by
  rw [← settingFlags_names]
  exact (List.mergeSort_perm _ _).map _

/-! ## Reading the layers -/

/-- The tree each key takes from the layers: the flag set for it, else the last environment
variable naming it, else the file's value at its parts, else its default. -/
def layeredSetting (file : SettingEntries) (env : List (String × String)) (parsed : ParsedFlags)
    (key : String) : Option SettingTree :=
  (flagSetting parsed key).or <|
    (envSetting env key).or <| (searchPath file (keyParts key)).or (defaultSettings.lookup key)

/-- A settings file's layer nests the settings keys as maps: it holds each of them. -/
def NestsSettings (file : SettingEntries) : Prop := ∀ key ∈ settingKeys, HoldsSetting file key

/-- Reading the merged layers is reading each setting from the highest layer that gives it. -/
theorem ofEntries_merged_layers {file : SettingEntries} (hfile : NestsSettings file)
    {env : List (String × String)} (henv : EnvFits env) (parsed : ParsedFlags) :
    let sofar := mergeEntries (envLayer env) (mergeEntries file defaultLayer)
    Settings.ofEntries (mergeEntries (flagLayer settingFlags parsed sofar) sofar) =
      Settings.read fun key => unlessNull (layeredSetting file env parsed key) := by
  intro sofar
  -- below the flags, each key holds the variable's value, else the file's, else its default
  have hsofar : ∀ key ∈ settingKeys, searchPath sofar (keyParts key) =
      (envSetting env key).or ((searchPath file (keyParts key)).or (defaultSettings.lookup key)) := by
    intro key hkey
    rw [(henv.holdsSetting hkey).searchPath_mergeEntries, (hfile key hkey).searchPath_mergeEntries,
      henv.searchPath_envLayer hkey, searchPath_defaultLayer hkey]
  have hnoAlias : ∀ key ∈ settingKeys, NoAlias sofar key := fun key hkey =>
    (henv.holdsSetting hkey).noAlias.mergeEntries
      ((hfile key hkey).noAlias.mergeEntries (holdsSetting_defaultLayer hkey).noAlias)
  -- the defaults give every key, so the flags left unset place nothing
  have hhas : ∀ f ∈ settingFlags, hasKey sofar f.name = true := by
    intro f hf
    have hkey : f.name ∈ settingKeys := settingFlags_names ▸ List.mem_map.2 ⟨f, hf, rfl⟩
    have hsome : (searchPath sofar (keyParts f.name)).isSome := by
      simp [hsofar _ hkey, lookup_defaultSettings_isSome hkey]
    obtain ⟨t, ht⟩ := Option.isSome_iff_exists.1 hsome
    exact hasKey_of_searchPath ht
  rw [flagLayer_of_hasKey hhas, Settings.ofEntries]
  apply Settings.read_congr
  intro key hkey
  have hflags := holdsSetting_flagPairs sorted_settingFlags_perm parsed hkey
  rw [lookupKey_eq (hflags.noAlias.mergeEntries (hnoAlias key hkey)),
    hflags.searchPath_mergeEntries, searchPath_flagPairs sorted_settingFlags_perm parsed hkey,
    hsofar key hkey, layeredSetting]

/-! ## Validation -/

/-- The keys whose values the engine cannot run with, in the order validation reports them. -/
def Settings.refusedKeys (s : Settings) : List String :=
  (if s.timerStep.toInt ≤ 0 then ["timer.step"] else []) ++
  (if s.queueSize ≤ 0 then ["queue.size"] else []) ++
  (if s.stopTimeout.toInt ≤ 0 then ["stop.timeout"] else []) ++
  (if s.stopRetries < 0 then ["stop.retries"] else []) ++
  (if s.ingestRate < 0 then ["ingest.rate"] else [])

/-- A line of a refusal names a key when it starts with the key and "must". -/
def NamesKey (key line : String) : Prop := (key ++ " must ").toList <+: line.toList

theorem namesKey_append {key lead : String} (h : (key ++ " must ").toList <+: lead.toList)
    (rest : String) : NamesKey key (lead ++ rest) := by
  have hsplit : (lead ++ rest).toList = lead.toList ++ rest.toList := String.toList_append
  unfold NamesKey
  rw [hsplit]
  exact h.trans (List.prefix_append _ _)

theorem forall₂_namesKey_ite (c : Prop) [Decidable c] {key line : String}
    (h : NamesKey key line) :
    List.Forall₂ NamesKey (if c then [key] else []) (if c then [line] else []) := by
  split
  · exact List.Forall₂.cons h List.Forall₂.nil
  · exact List.Forall₂.nil

/-- Validation reports one line for each key it refuses, in order, each naming its key. -/
theorem Settings.problems_name_refusedKeys (s : Settings) :
    List.Forall₂ NamesKey s.refusedKeys s.problems := by
  unfold Settings.refusedKeys Settings.problems
  refine List.rel_append (List.rel_append (List.rel_append (List.rel_append ?_ ?_) ?_) ?_) ?_ <;>
    exact forall₂_namesKey_ite _ (namesKey_append (by decide) _)

/-- Validation passes settings exactly when nothing is wrong with them, and returns them. -/
theorem Settings.validate_eq_ok_iff (s s' : Settings) :
    s.validate = .ok s' ↔ s.problems = [] ∧ s' = s := by
  unfold Settings.validate
  cases s.problems with
  | nil => simp [eq_comm]
  | cons p ps => simp

/-- Validation refuses settings with something wrong with them, listing every problem. -/
theorem Settings.validate_eq_error_iff (s : Settings) (f : Failure) :
    s.validate = .error f ↔
      s.problems ≠ [] ∧ f = Failure.plain ("invalid settings: " ++ "\n".intercalate s.problems) := by
  unfold Settings.validate
  cases s.problems with
  | nil => simp
  | cons p ps => simp [eq_comm]

/-! ## Loading the settings -/

/-- Loading with a settings file: the file's layer over the defaults, the environment's over
that, and the flags' over all. -/
theorem loadSettings_contents {read : String → FileRead} {path text : String}
    {layer : SettingEntries} (env : List (String × String)) (flags : List Flag)
    (parsed : ParsedFlags) (hread : read (if path.isEmpty then defaultSettingsFile else path) =
      .contents text)
    (hlayer : fileLayer (if path.isEmpty then defaultSettingsFile else path) text = .ok layer) :
    loadSettings read path env (some (flags, parsed)) =
      let sofar := mergeEntries (envLayer env) (mergeEntries layer defaultLayer)
      (Settings.ofEntries (mergeEntries (flagLayer flags parsed sofar) sofar)).validate := by
  unfold loadSettings
  cases hempty : path.isEmpty <;> simp_all [bind, Except.bind, pure, Except.pure]

/-- With no settings file at the default path, loading starts from the defaults. -/
theorem loadSettings_missing_default {read : String → FileRead}
    (env : List (String × String)) (flags : List Flag) (parsed : ParsedFlags)
    (hread : read defaultSettingsFile = .missing) :
    loadSettings read "" env (some (flags, parsed)) =
      let sofar := mergeEntries (envLayer env) defaultLayer
      (Settings.ofEntries (mergeEntries (flagLayer flags parsed sofar) sofar)).validate := by
  unfold loadSettings
  simp [hread]

/-- A settings file given by its path must be there. -/
theorem loadSettings_missing_explicit {read : String → FileRead} {path : String}
    (env : List (String × String)) (flags : Option (List Flag × ParsedFlags))
    (hpath : path ≠ "") (hread : read path = .missing) :
    loadSettings read path env flags =
      .error (Failure.plain ("config file " ++ path ++ " not found")) := by
  have hempty : path.isEmpty = false := by simpa [String.isEmpty_iff] using hpath
  unfold loadSettings
  simp [hempty, hread, bind, Except.bind, throw, throwThe, MonadExceptOf.throw]

/-- Loading reads each setting from the highest layer that gives it: a flag set for it, else the
last `CORRELOG_` variable naming it, else the settings file, else its default; a flag left unset
never overrides a lower layer. A missing file is refused only when its path was given. The
settings so read are returned exactly when they pass validation, and a refusal lists a line for
every key refused, in order, naming it. -/
theorem load_reads_highest_layer (read : String → FileRead) (path : String)
    (env : List (String × String)) (parsed : ParsedFlags) (henv : EnvFits env) :
    let file := if path.isEmpty then defaultSettingsFile else path
    let load := loadSettings read path env (some (settingFlags, parsed))
    (∀ text layer, read file = .contents text → fileLayer file text = .ok layer →
      NestsSettings layer →
        load = (Settings.read fun key => unlessNull (layeredSetting layer env parsed key)).validate) ∧
    (read file = .missing → path = "" →
      load = (Settings.read fun key => unlessNull (layeredSetting [] env parsed key)).validate) ∧
    (read file = .missing → path ≠ "" →
      load = .error (Failure.plain ("config file " ++ path ++ " not found"))) ∧
    ∀ s : Settings, (∀ s', s.validate = .ok s' ↔ s.problems = [] ∧ s' = s) ∧
      (∀ f, s.validate = .error f ↔
        s.problems ≠ [] ∧ f = Failure.plain ("invalid settings: " ++ "\n".intercalate s.problems)) ∧
      List.Forall₂ NamesKey s.refusedKeys s.problems := by
  dsimp only
  refine ⟨?_, ?_, ?_, fun s => ⟨s.validate_eq_ok_iff, s.validate_eq_error_iff, ?_⟩⟩
  · intro text layer hread hlayer hnests
    rw [loadSettings_contents env settingFlags parsed hread hlayer]
    exact congrArg Settings.validate (ofEntries_merged_layers hnests henv parsed)
  · intro hread hpath
    subst hpath
    have hlayers := ofEntries_merged_layers (fun key _ => holdsSetting_nil key) henv parsed
    rw [mergeEntries_nil_left] at hlayers
    rw [loadSettings_missing_default env settingFlags parsed hread]
    exact congrArg Settings.validate hlayers
  · intro hread hpath
    have hempty : path.isEmpty = false := by simpa [String.isEmpty_iff] using hpath
    rw [hempty, if_neg Bool.false_ne_true] at hread
    exact loadSettings_missing_explicit env _ hpath hread
  · exact s.problems_name_refusedKeys

/-- The key and text of an entry that is a text leaf. A layer has no decidable equality (it may
hold floats), so a layer read from a file is known by the texts of its entries instead. -/
def textLeaf? : String × SettingTree → Option (String × String)
  | (k, .leaf (.text t)) => some (k, t)
  | _ => none

theorem textLeaf?_eq_some {p : String × SettingTree} {q : String × String}
    (h : textLeaf? p = some q) : p = (q.1, .leaf (.text q.2)) := by
  unfold textLeaf? at h
  split at h
  · cases h
    rfl
  · cases h

theorem eq_of_mapM_textLeaf? {es : SettingEntries} {ps : List (String × String)}
    (h : es.mapM textLeaf? = some ps) : es = ps.map fun q => (q.1, .leaf (.text q.2)) := by
  induction es generalizing ps with
  | nil =>
    cases h
    rfl
  | cons p es ih =>
    simp only [List.mapM_cons, Option.bind_eq_bind, Option.bind_eq_some_iff, Option.pure_def,
      Option.some.injEq] at h
    obtain ⟨q, hq, qs, hqs, rfl⟩ := h
    rw [textLeaf?_eq_some hq, ih hqs, List.map_cons]

/-- `CORRELOG_DB` gives the journal path over the settings file that sets it and over its
default, and with no settings file over its default alone. -/
theorem env_db_read :
    EnvFits [("CORRELOG_DB", "alerts.db")] ∧
      fileLayer defaultSettingsFile "db: x.db\n" = .ok [("db", .leaf (.text "x.db"))] ∧
      NestsSettings [("db", .leaf (.text "x.db"))] ∧
      loadSettings (fun _ => .contents "db: x.db\n") "" [("CORRELOG_DB", "alerts.db")]
          (some (settingFlags, {})) =
        (Settings.read fun key => unlessNull (layeredSetting [("db", .leaf (.text "x.db"))]
          [("CORRELOG_DB", "alerts.db")] {} key)).validate ∧
      loadSettings (fun _ => .missing) "" [("CORRELOG_DB", "alerts.db")] (some (settingFlags, {})) =
        (Settings.read fun key =>
          unlessNull (layeredSetting [] [("CORRELOG_DB", "alerts.db")] {} key)).validate := by
  have hfits : EnvFits [("CORRELOG_DB", "alerts.db")] :=
    ⟨by decide +kernel, by decide +kernel⟩
  have hlayer : fileLayer defaultSettingsFile "db: x.db\n" = .ok [("db", .leaf (.text "x.db"))] := by
    have h : ((fileLayer defaultSettingsFile "db: x.db\n").toOption.bind
        fun es => es.mapM textLeaf?) = some [("db", "x.db")] := by
      decide +kernel
    cases hf : fileLayer defaultSettingsFile "db: x.db\n" with
    | error e =>
      rw [hf] at h
      cases h
    | ok es =>
      rw [hf] at h
      rw [eq_of_mapM_textLeaf? h]
      rfl
  have hnests : NestsSettings [("db", .leaf (.text "x.db"))] := by
    have hflat : Flat [("db", SettingTree.leaf (.text "x.db"))] := ⟨by simp, by simp [Unnested]⟩
    have hunnested : ∀ key ∈ settingKeys,
        ∀ p ∈ [("db", SettingTree.leaf (.text "x.db"))], Unnested p.1 key := by
      decide +kernel
    exact fun key hkey => hflat.holdsSetting (hunnested key hkey)
  have hload := load_reads_highest_layer (fun _ => .contents "db: x.db\n") "" _ {} hfits
  exact ⟨hfits, hlayer, hnests, hload.1 _ _ rfl hlayer hnests,
    (load_reads_highest_layer (fun _ => .missing) "" _ {} hfits).2.1 rfl rfl⟩

/-- A variable naming a key below a setting turns the setting into a map: with only
`CORRELOG_QUEUE_SIZE_X` set, the queue size reads as zero and the settings are refused. -/
theorem env_key_below_setting_refused :
    ∃ s : Settings, s.queueSize = 0 ∧ "queue.size must be positive, got 0" ∈ s.problems ∧
      loadSettings (fun _ => .missing) "" [("CORRELOG_QUEUE_SIZE_X", "5")]
          (some (settingFlags, {})) =
        .error (Failure.plain ("invalid settings: " ++ "\n".intercalate s.problems)) := by
  -- the defaults give every flag's key, and no flag is set: the flag layer is empty
  have hhas : ∀ f ∈ settingFlags, hasKey (mergeEntries (envLayer [("CORRELOG_QUEUE_SIZE_X", "5")])
      defaultLayer) f.name = true := by
    decide +kernel
  have hunset : ∀ names, flagPairs names {} = [] := fun names => by
    simp [flagPairs, flagSetting]
  have hq : (Settings.ofEntries (mergeEntries (envLayer [("CORRELOG_QUEUE_SIZE_X", "5")])
      defaultLayer)).queueSize = 0 := by
    decide +kernel
  have hmem : "queue.size must be positive, got 0" ∈ (Settings.ofEntries
      (mergeEntries (envLayer [("CORRELOG_QUEUE_SIZE_X", "5")])
        defaultLayer)).problems := by
    unfold Settings.problems
    refine List.mem_append_left _ (List.mem_append_left _
      (List.mem_append_left _ (List.mem_append_right _ ?_)))
    rw [hq]
    decide
  refine ⟨_, hq, hmem, ?_⟩
  rw [loadSettings_missing_default _ _ _ rfl]
  dsimp only
  rw [flagLayer_of_hasKey hhas, hunset]
  exact (Settings.validate_eq_error_iff _ _).2 ⟨List.ne_nil_of_mem hmem, rfl⟩

end Windowing
