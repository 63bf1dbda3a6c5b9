import Windowing.Flags
import Windowing.Yaml.Decode
import Windowing.Failure

set_option autoImplicit false

/-! # Process settings

Settings come in layers, each overriding the one before: built-in defaults, the settings
file, `CORRELOG_*` environment variables, and flags. A layer is a tree keyed by the parts
of dotted names (`log.level` is `level` under `log`). A layer is merged into the settings
so far key by key: two subtrees merge, anything else replaces. An environment variable
names its key by what follows the prefix, lower-cased, with `_` for `.`; a variable with
nothing after the prefix is left out.

A flag the arguments did not set still counts, with its default value, for every key the
earlier layers do not have. A settings file that is not there is fine unless its path
was given.

Reading a setting: text as it is (anything else as it prints); a number from an integer
or, through its printed form, from a float (cut toward zero); a boolean from a boolean or
a boolean word; a duration as a number of nanoseconds when that is not zero, else as
duration text. A key that is missing, or holds null, reads as empty, zero or false. -/

namespace Windowing

/-- A setting value. -/
inductive SettingValue where
  | null
  | text (s : String)
  | int (i : Int)
  | float (f : Float)
  | bool (b : Bool)
  | duration (d : Duration)
  /-- A value of another kind (a list, say), as it prints. -/
  | shown (s : String)
  deriving Inhabited

/-- A tree of settings: a value, or named subtrees. -/
inductive SettingTree where
  | leaf (v : SettingValue)
  | node (entries : List (String × SettingTree))
  deriving Inhabited

/-- The entries of a settings layer. -/
abbrev SettingEntries := List (String × SettingTree)

/-- How a value prints. -/
def SettingValue.plain : SettingValue → String
  | .null => "<nil>"
  | .text s => s
  | .int i => toString i
  | .float f => Decimal.formatFloat f 'g' none
  | .bool b => if b then "true" else "false"
  | .duration d => Duration.text d
  | .shown s => s

/-- Entries printed as a map prints: `map[k:v ...]` in key order. -/
def mapText (es : List (String × String)) : String :=
  let sorted := es.mergeSort fun a b => decide (a.1 ≤ b.1)
  "map[" ++ " ".intercalate (sorted.map fun e => e.1 ++ ":" ++ e.2) ++ "]"

mutual

/-- How a tree prints. -/
def SettingTree.plain : SettingTree → String
  | .leaf v => v.plain
  | .node es => mapText (SettingTree.plainEntries es)

/-- The printed entries of a tree. -/
def SettingTree.plainEntries : List (String × SettingTree) → List (String × String)
  | [] => []
  | (k, v) :: rest => (k, v.plain) :: SettingTree.plainEntries rest

end

/-- Set a key's entry, in place when the key is there, else at the end. -/
def setEntry (es : SettingEntries) (k : String) (t : SettingTree) : SettingEntries :=
  if es.any (·.1 == k) then es.map fun e => if e.1 == k then (k, t) else e
  else es ++ [(k, t)]

/-- Place a value at a path of keys. A key on the way that holds a value (not a subtree)
is passed over: the rest of the path is placed beside it. -/
def insertPath (es : SettingEntries) : List String → SettingTree → SettingEntries
  | [], _ => es
  | [k], t => setEntry es k t
  | k :: rest, t =>
    match es.lookup k with
    | none => setEntry es k (.node (insertPath [] rest t))
    | some (.node sub) => setEntry es k (.node (insertPath sub rest t))
    | some (.leaf _) => insertPath es rest t

/-- The parts of a dotted key: `log.level` is `log`, then `level`. -/
def keyParts (key : String) : List String := (key.toList.splitOn '.').map String.ofList

/-- A layer from dotted names and their values. -/
def unflatten (pairs : List (String × SettingTree)) : SettingEntries :=
  pairs.foldl (fun es p => insertPath es (keyParts p.1) p.2) []

mutual

/-- A tree merged onto what the settings so far hold at its key. -/
def SettingTree.mergeOnto : SettingTree → Option SettingTree → SettingTree
  | .node vs, some (.node ds) => .node (mergeEntries vs ds)
  | v, _ => v

/-- Merge a layer's entries onto the settings so far. -/
def mergeEntries : SettingEntries → SettingEntries → SettingEntries
  | [], dst => dst
  | (k, v) :: rest, dst => mergeEntries rest (setEntry dst k (v.mergeOnto (dst.lookup k)))

end

mutual

/-- The key paths below a tree: its leaves and its empty subtrees. -/
def SettingTree.leafPaths : SettingTree → List (List String)
  | .leaf _ => [[]]
  | .node [] => [[]]
  | .node (e :: es) => entryPaths (e :: es)

/-- The key paths below entries. -/
def entryPaths : SettingEntries → List (List String)
  | [] => []
  | (k, v) :: rest => v.leafPaths.map (k :: ·) ++ entryPaths rest

end

/-- Every key of the settings: each leaf path and every path on the way to one. -/
def keyPaths (es : SettingEntries) : List (List String) :=
  (entryPaths es).flatMap fun ps => (List.range ps.length).map fun i => ps.take (i + 1)

/-- Whether the settings have a key. -/
def hasKey (es : SettingEntries) (key : String) : Bool :=
  (keyPaths es).any fun ps => ".".intercalate ps == key

/-- The tree at a path of keys. -/
def searchPath (es : SettingEntries) : List String → Option SettingTree
  | [] => none
  | [k] => es.lookup k
  | k :: rest =>
    match es.lookup k with
    | some (.node sub) => searchPath sub rest
    | _ => none

/-- A tree read at a key, with a null value counted as missing. -/
def unlessNull : Option SettingTree → Option SettingTree
  | some (.leaf .null) => none
  | t => t

/-- The tree at a dotted key; a null value counts as missing. -/
def lookupKey (es : SettingEntries) (key : String) : Option SettingTree :=
  match (keyPaths es).find? (fun ps => ".".intercalate ps == key) with
  | none => none
  | some ps => unlessNull (searchPath es ps)

/-! ## Reading a setting -/

/-- A float read from text, as loosely as a setting is read: a value too large is an
infinity, and text that is no number is zero. -/
def looseFloat (s : String) : Float :=
  match readFloat s with
  | .ok f => f
  | .error _ =>
    let body := s.toList.filter (· != '_')
    if let some f := Text.readHexFloat s then f
    else if Text.underscoresOk s.toList && Yaml.floatForm (String.ofList body) then
      if body.head? == some '-' then -1.0 / 0.0 else 1.0 / 0.0
    else 0

/-- A setting as text. -/
def textSetting : Option SettingTree → String
  | none => ""
  | some (.leaf (.text s)) => s
  | some t => t.plain

/-- A setting as a whole number. -/
def intSetting : Option SettingTree → Int
  | none => 0
  | some (.leaf (.int i)) => i
  | some t =>
    match readFloat t.plain with
    | .ok f => Yaml.truncateFloat f
    | .error _ => 0

/-- A setting as a float. -/
def floatSetting : Option SettingTree → Float
  | none => 0
  | some (.leaf (.float f)) => f
  | some t => looseFloat t.plain

/-- A setting as a boolean. -/
def boolSetting : Option SettingTree → Bool
  | none => false
  | some (.leaf (.bool b)) => b
  | some t =>
    match readBool t.plain with
    | .ok b => b
    | .error _ => false

/-- A setting as a duration: its number of nanoseconds, or when that is zero its text. -/
def durationSetting (t : Option SettingTree) : Duration :=
  let n := intSetting t
  if n != 0 then Int64.ofInt n
  else
    match Duration.parse (textSetting t) with
    | .ok d => d
    | .error _ => 0

/-! ## Layers -/

mutual

/-- Decoded data as a settings tree; maps with keys of other kinds key by their printed
form. -/
def Yaml.Data.toSetting : Yaml.Data → SettingTree
  | .null => .leaf .null
  | .bool b => .leaf (.bool b)
  | .int i => .leaf (.int i)
  | .uint n => .leaf (.shown (toString n))
  | .float f => .leaf (.float f)
  | .str s => .leaf (.text s)
  | .time t => .leaf (.shown t.display)
  | .seq items => .leaf (.shown ("[" ++ " ".intercalate (Yaml.Data.plainItems items) ++ "]"))
  | .dict es => .node (Yaml.Data.settingEntries es)
  | .record fs => .node (Yaml.Data.settingEntries fs)
  | .map es => .node (Yaml.Data.keyedEntries es)

/-- How decoded data prints. -/
def Yaml.Data.plain : Yaml.Data → String
  | .null => "<nil>"
  | .bool b => if b then "true" else "false"
  | .int i => toString i
  | .uint n => toString n
  | .float f => Decimal.formatFloat f 'g' none
  | .str s => s
  | .time t => t.display
  | .seq items => "[" ++ " ".intercalate (Yaml.Data.plainItems items) ++ "]"
  | .dict es => mapText (Yaml.Data.plainFields es)
  | .record fs => mapText (Yaml.Data.plainFields fs)
  | .map es => mapText (Yaml.Data.plainPairs es)

/-- How list items print. -/
def Yaml.Data.plainItems : List Yaml.Data → List String
  | [] => []
  | d :: rest => d.plain :: Yaml.Data.plainItems rest

/-- How named entries print. -/
def Yaml.Data.plainFields : List (String × Yaml.Data) → List (String × String)
  | [] => []
  | (k, d) :: rest => (k, d.plain) :: Yaml.Data.plainFields rest

/-- How entries with keys of any kind print. -/
def Yaml.Data.plainPairs : List (Yaml.Data × Yaml.Data) → List (String × String)
  | [] => []
  | (k, d) :: rest => (k.plain, d.plain) :: Yaml.Data.plainPairs rest

/-- Named entries as settings entries. -/
def Yaml.Data.settingEntries : List (String × Yaml.Data) → SettingEntries
  | [] => []
  | (k, d) :: rest => (k, d.toSetting) :: Yaml.Data.settingEntries rest

/-- Entries with keys of any kind as settings entries, keyed by the printed key. -/
def Yaml.Data.keyedEntries : List (Yaml.Data × Yaml.Data) → SettingEntries
  | [] => []
  | (k, d) :: rest => (k.plain, d.toSetting) :: Yaml.Data.keyedEntries rest

end

/-- Entries with one entry per key, the last one given. -/
def distinctEntries (es : SettingEntries) : SettingEntries :=
  es.foldl (fun acc e => setEntry acc e.1 e.2) []

/-- A flag value as a setting value. -/
def FlagValue.toSetting : FlagValue → SettingValue
  | .text s => .text s
  | .bool b => .bool b
  | .int i => .int i
  | .float f => .float f
  | .duration d => .duration d

/-- The built-in defaults, by dotted key. -/
def defaultSettings : List (String × SettingTree) :=
  [("contexts", .leaf (.text "")), ("db", .leaf (.text ".correlog/alerts.db")),
   ("log.level", .leaf (.text "info")), ("log.json", .leaf (.bool false)),
   ("timer.step", .leaf (.text "100ms")), ("queue.size", .leaf (.int 1024)),
   ("stop.timeout", .leaf (.text "5s")), ("stop.retries", .leaf (.int 3)),
   ("metrics.addr", .leaf (.text "")), ("ingest.rate", .leaf (.float 0))]

/-- The layer of the built-in defaults. -/
def defaultLayer : SettingEntries := unflatten defaultSettings

/-- The layer of a settings file's text, read from `path`. -/
def fileLayer (path text : String) : Except Failure SettingEntries :=
  let pre := "parse " ++ path ++ ": "
  match Yaml.load text with
  | .error e => .error (Failure.plain (pre ++ e.message))
  | .ok doc =>
    match doc.decode .anyMap with
    | .error (.types es) => .error ⟨.yamlType, pre ++ (Yaml.DecodeError.types es).message⟩
    | .error (.stopped m) => .error (Failure.plain (pre ++ m))
    | .ok (some d) =>
      match d.toSetting with
      | .node es => .ok (distinctEntries es)
      | .leaf _ => .ok []
    | .ok none => .ok []

/-- The prefix of the environment variables that are settings. -/
def envPrefix : String := "CORRELOG_"

/-- The key an environment variable names: what follows the prefix, in lower case by the
Unicode case mappings, with `_` read as `.`. -/
def envKey (name : String) : String :=
  let rest := String.ofList (name.toList.drop envPrefix.length)
  String.ofList (rest.toList.map fun c => if c == '_' then '.' else Unicode.toLower c)

/-- The environment variable that sets a key: the prefix, then the key in capitals with
its dots as underscores. -/
def envName (key : String) : String :=
  envPrefix ++ String.ofList (key.toList.map fun c => if c == '.' then '_' else c.toUpper)

/-- The settings environment variables give: each variable with the prefix and something
after it, under the key it names. -/
def envEntries (env : List (String × String)) : List (String × SettingTree) :=
  env.filterMap fun (name, v) =>
    if name.startsWith envPrefix && !(envKey name).isEmpty then some (envKey name, .leaf (.text v))
    else none

/-- The layer of environment variables. -/
def envLayer (env : List (String × String)) : SettingEntries := unflatten (envEntries env)

/-- The layer of flags over the settings so far: each flag in name order, with its value
when set, else its default when the settings do not have its key. -/
def flagLayer (flags : List Flag) (parsed : ParsedFlags) (sofar : SettingEntries) : SettingEntries :=
  let sorted := flags.mergeSort fun a b => decide (a.name ≤ b.name)
  unflatten <| sorted.filterMap fun f =>
    match parsed.set.lookup f.name with
    | some v => some (f.name, .leaf v.toSetting)
    | none => if hasKey sofar f.name then none else some (f.name, .leaf f.default.toSetting)

/-! ## Settings -/

/-- The resolved process settings. -/
structure Settings where
  contexts : String
  db : String
  logLevel : String
  logJson : Bool
  timerStep : Duration
  queueSize : Int
  stopTimeout : Duration
  stopRetries : Int
  metricsAddr : String
  /-- Messages per second the run command reads at most; zero means no cap. -/
  ingestRate : Float

/-- The settings a reading of the dotted keys gives. -/
def Settings.read (get : String → Option SettingTree) : Settings :=
  { contexts := textSetting (get "contexts"),
    db := textSetting (get "db"),
    logLevel := textSetting (get "log.level"),
    logJson := boolSetting (get "log.json"),
    timerStep := durationSetting (get "timer.step"),
    queueSize := intSetting (get "queue.size"),
    stopTimeout := durationSetting (get "stop.timeout"),
    stopRetries := intSetting (get "stop.retries"),
    metricsAddr := textSetting (get "metrics.addr"),
    ingestRate := floatSetting (get "ingest.rate") }

/-- The settings the merged layers hold. -/
def Settings.ofEntries (es : SettingEntries) : Settings := Settings.read (lookupKey es)

/-- What is wrong with settings the engine cannot run with. -/
def Settings.problems (s : Settings) : List String :=
  (if s.timerStep.toInt ≤ 0 then ["timer.step must be positive, got " ++ Duration.text s.timerStep] else []) ++
  (if s.queueSize ≤ 0 then ["queue.size must be positive, got " ++ toString s.queueSize] else []) ++
  (if s.stopTimeout.toInt ≤ 0 then ["stop.timeout must be positive, got " ++ Duration.text s.stopTimeout] else []) ++
  (if s.stopRetries < 0 then ["stop.retries must not be negative, got " ++ toString s.stopRetries] else []) ++
  (if s.ingestRate < 0 then
    ["ingest.rate must not be negative, got " ++ Decimal.formatFloat s.ingestRate 'g' none] else [])

/-- Refuse settings the engine cannot run with. -/
def Settings.validate (s : Settings) : Except Failure Settings :=
  match s.problems with
  | [] => .ok s
  | ps => .error (Failure.plain ("invalid settings: " ++ "\n".intercalate ps))

/-- What reading a path finds. -/
inductive FileRead where
  | missing
  | contents (text : String)
  /-- The path is there but does not read. -/
  | failed (message : String)
  /-- Whether the path is there cannot be told. -/
  | unknown (message : String)

/-- The settings file read when no path is given, if it is there. -/
def defaultSettingsFile : String := "correlog.yaml"

/-- The flags that set each setting. -/
def settingFlags : List Flag :=
  [.long "contexts" .text (.text "") "path to the contexts document (YAML or JSON)",
   .long "db" .text (.text ".correlog/alerts.db") "path to the alert journal",
   .long "log.level" .text (.text "info") "log level (debug, info, warn, error)",
   .long "log.json" .bool (.bool false) "log as JSON",
   .long "timer.step" .duration (.duration 100000000) "interval between timer ticks",
   .long "queue.size" .int (.int 1024) "request and response queue capacity",
   .long "stop.timeout" .duration (.duration 5000000000) "wait per shutdown attempt",
   .long "stop.retries" .int (.int 3) "extra shutdown attempts before giving up",
   .long "metrics.addr" .text (.text "") "serve Prometheus metrics on this address",
   .long "ingest.rate" .float (.float 0) "max messages per second read by run (0 = unlimited)"]

/-- Resolve settings from the defaults, the settings file at `path` (or the default file),
the environment, and flags when there are any. -/
def loadSettings (read : String → FileRead) (path : String) (env : List (String × String))
    (flags : Option (List Flag × ParsedFlags)) : Except Failure Settings := do
  let explicit := !path.isEmpty
  let path := if explicit then path else defaultSettingsFile
  let sofar ← match read path with
    | .contents text => do
      let layer ← fileLayer path text
      pure (mergeEntries layer defaultLayer)
    | .failed m => throw (Failure.plain ("read " ++ path ++ ": " ++ m))
    | .unknown m => throw (Failure.plain ("stat " ++ path ++ ": " ++ m))
    | .missing =>
      if explicit then throw (Failure.plain ("config file " ++ path ++ " not found"))
      else pure defaultLayer
  let sofar := mergeEntries (envLayer env) sofar
  let sofar := match flags with
    | some (fs, parsed) => mergeEntries (flagLayer fs parsed sofar) sofar
    | none => sofar
  (Settings.ofEntries sofar).validate

end Windowing
