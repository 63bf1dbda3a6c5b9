import Mathlib
import Windowing.Cli.Run
import Windowing.Proofs.JsonReadBack
import Windowing.Proofs.ActionRendering

set_option autoImplicit false

/-! # Messages and alerts read back from the wire

A message is written as the object of its id, its name unless empty and its values unless there
are none; its text is the text of that object. When every text of the message is valid UTF-8
the object is plain (`Message.Valid.plain`), so the text reads back as the object
(`Json.read_encode_obj`). Reading the object's members then gives back the id and the name, and
sets the values one after another, each key to the value written under it
(`Message.ofJson_toJson`): the message read back answers every key as the message does
(`Message.value?_readBack`). It is the same message (`Message.Same`), and the equal message
when the values were in key order, as every map this library builds keeps them.

An alert is written as the object of its fields, the message among them as the object above;
reading it back takes each member to its field (`Alert.foldlM_readMember_alertFields`), so a
valid alert, whose window length fits in 64 bits, reads back as the same alert
(`wire_round_trip`). -/

namespace Windowing

/-! ## Lookups -/

namespace KeyMap
variable {α : Type}

theorem get?_eq_lookup (m : KeyMap α) (k : String) : m.get? k = m.toList.lookup k := by
  obtain ⟨l⟩ := m
  induction l with
  | nil => rfl
  | cons p rest ih =>
    obtain ⟨k₀, v₀⟩ := p
    rw [get?_cons, ih, List.lookup_cons]
    by_cases h : k₀ = k
    · subst h; simp
    · have : (k == k₀) = false := by simp [Ne.symm h]
      simp [h, this]

end KeyMap

/-- A list whose every value is `f` of its key answers `f k` for the keys it has. -/
theorem lookup_of_graph {f : String → String} {l : List (String × String)}
    (h : ∀ e ∈ l, e.2 = f e.1) (k : String) :
    l.lookup k = if k ∈ l.map Prod.fst then some (f k) else none := by
  induction l with
  | nil => simp
  | cons e rest ih =>
    obtain ⟨k₀, v₀⟩ := e
    have hv : v₀ = f k₀ := h (k₀, v₀) (by simp)
    rw [List.lookup_cons, ih fun e he => h e (by simp [he])]
    by_cases hk : k = k₀
    · subst hk; simp [hv]
    · have : (k == k₀) = false := by simp [hk]
      simp only [this, List.map_cons, List.mem_cons, hk, false_or]

namespace Message

/-! ## Reading a message's members -/

/-- Setting a key keeps every value `f` of its key, when the new value is. -/
theorem setValue_graph {f : String → String} {vs : List (String × String)}
    (h : ∀ e ∈ vs, e.2 = f e.1) (k : String) : ∀ e ∈ setValue vs k (f k), e.2 = f e.1 := by
  intro e he
  unfold setValue at he
  split at he
  · obtain ⟨e', he', rfl⟩ := List.mem_map.1 he
    by_cases hk : e'.1 = k
    · simp [hk]
    · have : (e'.1 == k) = false := by simp [hk]
      simp [this, h e' he']
  · rcases List.mem_append.1 he with he | he
    · exact h e he
    · simp at he; subst he; rfl

/-- Setting a key adds it to the keys and keeps the others. -/
theorem mem_keys_setValue (vs : List (String × String)) (k v k' : String) :
    k' ∈ (setValue vs k v).map Prod.fst ↔ k' = k ∨ k' ∈ vs.map Prod.fst := by
  unfold setValue
  split
  · -- the key is there already: its entries are replaced and the keys stay
    rename_i hany
    have hkeys : (vs.map fun e => if e.1 == k then (k, v) else e).map Prod.fst =
        vs.map Prod.fst := by
      rw [List.map_map]
      refine List.map_congr_left fun e _ => ?_
      by_cases h : e.1 = k <;> simp [h]
    have hk : k ∈ vs.map Prod.fst := by
      obtain ⟨e, he, hek⟩ := List.any_eq_true.1 hany
      exact List.mem_map.2 ⟨e, he, by simpa using hek⟩
    rw [hkeys]
    constructor
    · exact Or.inr
    · rintro (rfl | h) <;> assumption
  · simp [or_comm]

/-- Setting the keys of a list one after another, each to `f` of it: every value stays `f` of
its key, and the keys are the old ones and the new. -/
theorem foldl_setValue_graph (f : String → String) (keys : List String)
    (vs : List (String × String)) (h : ∀ e ∈ vs, e.2 = f e.1) :
    (∀ e ∈ (keys.map fun k => (k, f k)).foldl (fun vs p => setValue vs p.1 p.2) vs, e.2 = f e.1) ∧
    ∀ k', k' ∈ ((keys.map fun k => (k, f k)).foldl (fun vs p => setValue vs p.1 p.2) vs).map
      Prod.fst ↔ k' ∈ keys ∨ k' ∈ vs.map Prod.fst := by
  induction keys generalizing vs with
  | nil => exact ⟨h, by simp⟩
  | cons k rest ih =>
    obtain ⟨hgraph, hkeys⟩ := ih (setValue vs k (f k)) (setValue_graph h k)
    refine ⟨hgraph, fun k' => ?_⟩
    rw [List.map_cons, List.foldl_cons, hkeys, mem_keys_setValue]
    simp only [List.mem_cons]
    tauto

theorem foldl_readValueMember (ps vs : List (String × String)) {w : WireFields}
    (hw : w.values = some vs) :
    (ps.map fun p => (p.1, Json.str p.2)).foldl readValueMember w =
      { w with values := some (ps.foldl (fun vs p => setValue vs p.1 p.2) vs) } := by
  induction ps generalizing w vs with
  | nil =>
    obtain ⟨id, name, values, error⟩ := w
    simp only at hw
    subst hw
    rfl
  | cons p rest ih =>
    rw [List.map_cons, List.foldl_cons, ih (setValue vs p.1 p.2) (by simp [readValueMember, hw])]
    simp [readValueMember, hw]

theorem foldName_id : foldName "id" = "ID" := by decide
theorem foldName_name : foldName "name" = "NAME" := by decide
theorem foldName_values : foldName "values" = "VALUES" := by decide

theorem readMember_id (w : WireFields) (s : String) :
    readMember w ("id", .str s) = { w with id := s } := by
  simp only [readMember, foldName_id]
  rfl

theorem readMember_name (w : WireFields) (s : String) :
    readMember w ("name", .str s) = { w with name := s } := by
  simp only [readMember, foldName_name]
  rfl

theorem readMember_values (w : WireFields) (es : List (String × Json)) :
    readMember w ("values", .obj es) =
      es.foldl readValueMember { w with values := some (w.values.getD []) } := by
  simp only [readMember, foldName_values]

/-- The values a message writes, as reading sets them one after another. -/
def readBackValues (m : Message) : List (String × String) :=
  (m.keys.map fun k => (k, (m.value? k).getD "")).foldl (fun vs p => setValue vs p.1 p.2) []

theorem readBackValues_of_isEmpty {m : Message} (h : m.values.isEmpty = true) :
    m.readBackValues = [] := by
  obtain ⟨id, name, ⟨l⟩⟩ := m
  cases l with
  | nil => rfl
  | cons p rest => simp [KeyMap.isEmpty] at h

/-- The values read back hold each key of the message with the value written under it, and no
other key. -/
theorem readBackValues_graph (m : Message) :
    (∀ e ∈ m.readBackValues, e.2 = (m.value? e.1).getD "") ∧
      ∀ k, k ∈ m.readBackValues.map Prod.fst ↔ k ∈ m.keys := by
  obtain ⟨hgraph, hkeys⟩ :=
    foldl_setValue_graph (fun k => (m.value? k).getD "") m.keys [] (by simp)
  exact ⟨hgraph, fun k => by simpa [readBackValues] using hkeys k⟩

/-- The values member a message writes is read into a fresh list of values. -/
theorem readMember_writtenValues (m : Message) {w : WireFields} (hw : w.values = none) :
    readMember w ("values", .obj (m.keys.map fun k => (k, .str ((m.value? k).getD "")))) =
      { w with values := some m.readBackValues } := by
  have hfields : (m.keys.map fun k => (k, Json.str ((m.value? k).getD ""))) =
      (m.keys.map fun k => (k, (m.value? k).getD "")).map fun p => (p.1, Json.str p.2) := by
    simp [List.map_map, Function.comp_def]
  rw [readMember_values, hfields, foldl_readValueMember _ [] (by simp [hw])]
  rfl

/-- Reading the members a message writes gives back its id and name, and its values set one
after another. -/
theorem ofJson_toJson (m : Message) :
    ofJson m.toJson = .ok (build m.id m.name [] (KeyMap.ofList m.readBackValues)) := by
  unfold ofJson toJson
  simp only [List.foldl_append, List.foldl_cons, List.foldl_nil, readMember_id]
  -- the name unless it is empty, the values unless there are none
  by_cases hn : m.name.isEmpty = true <;> by_cases hv : m.values.isEmpty = true
  · rw [if_pos hn, if_pos hv, String.isEmpty_iff.1 hn, readBackValues_of_isEmpty hv]
    rfl
  · rw [if_pos hn, if_neg hv, String.isEmpty_iff.1 hn, List.foldl_cons, List.foldl_nil,
      readMember_writtenValues m rfl]
    rfl
  · rw [if_neg hn, if_pos hv, readBackValues_of_isEmpty hv, List.foldl_cons, List.foldl_nil,
      readMember_name]
    rfl
  · rw [if_neg hn, if_neg hv]
    simp only [List.foldl_cons, List.foldl_nil, readMember_name]
    rw [readMember_writtenValues m rfl]
    rfl

/-- Reading back answers every key as the message does: the value written under it, or none for a
key the message does not have. -/
theorem value?_readBack (m : Message) (k : String) :
    (build m.id m.name [] (KeyMap.ofList m.readBackValues)).value? k = m.value? k := by
  obtain ⟨hgraph, hkeys⟩ := readBackValues_graph m
  have hordered : (KeyMap.ofList m.readBackValues).Ordered :=
    KeyMap.ordered_empty.insertMany _
  rw [value?_build, List.reverse_nil, List.lookup_nil, Option.or_none,
    lookup_reverse_of_nodup _ hordered.nodup_keys, ← KeyMap.get?_eq_lookup, KeyMap.ofList,
    KeyMap.get?_insertMany, KeyMap.get?_empty, Option.or_none]
  -- the pairs read back, last first, still hold each key with its value
  rw [@lookup_of_graph (fun k => (m.value? k).getD "") _
    (fun e he => hgraph e (List.mem_reverse.1 he)) k]
  have hmem : k ∈ (m.readBackValues.reverse.map Prod.fst) ↔ k ∈ m.keys := by
    rw [List.map_reverse, List.mem_reverse, hkeys k]
  by_cases hk : k ∈ m.keys
  · rw [if_pos (hmem.2 hk)]
    obtain ⟨v, hv⟩ := Option.isSome_iff_exists.1 ((KeyMap.mem_keys_iff _ _).1 hk)
    simp [value?, hv]
  · rw [if_neg (fun h => hk (hmem.1 h))]
    exact ((KeyMap.get?_eq_none_iff _ _).2 hk).symm

/-! ## Messages with valid texts -/

/-- A message whose texts hold no stray octet, so that they are valid UTF-8: its id, its name and
every key and value. -/
structure Valid (m : Message) : Prop where
  id : Utf8.hasStray m.id = false
  name : Utf8.hasStray m.name = false
  values : ∀ kv ∈ m.values.toList, Utf8.hasStray kv.1 = false ∧ Utf8.hasStray kv.2 = false

theorem Valid.hasStray_value {m : Message} (hm : m.Valid) (k : String) :
    Utf8.hasStray ((m.value? k).getD "") = false := by
  cases hv : m.value? k with
  | none => simp [Utf8.hasStray, String.any]
  | some v =>
    simp only [value?, KeyMap.get?, Option.map_eq_some_iff] at hv
    obtain ⟨p, hp, rfl⟩ := hv
    exact (hm.values p (List.mem_of_find?_eq_some hp)).2

/-- The JSON form of a message with valid texts is plain, two levels deep. -/
theorem Valid.plain {m : Message} (hm : m.Valid) : Json.Plain 2 m.toJson := by
  have hvalues : Json.Plain 1 (.obj (m.keys.map fun k => (k, .str ((m.value? k).getD "")))) := by
    refine .obj 0 (fun kv hkv => ?_) (fun kv hkv => ?_)
    · obtain ⟨k, hk, rfl⟩ := List.mem_map.1 hkv
      obtain ⟨p, hp, rfl⟩ := List.mem_map.1 hk
      exact (hm.values p hp).1
    · obtain ⟨k, _, rfl⟩ := List.mem_map.1 hkv
      exact .str 0 (hm.hasStray_value k)
  refine .obj 1 (fun kv hkv => ?_) (fun kv hkv => ?_)
  · simp only [List.mem_append, List.mem_singleton, List.mem_ite_nil_left] at hkv
    rcases hkv with (rfl | ⟨_, rfl⟩) | ⟨_, rfl⟩ <;> simp [Utf8.hasStray, String.any]
  · simp only [List.mem_append, List.mem_singleton, List.mem_ite_nil_left] at hkv
    rcases hkv with (rfl | ⟨_, rfl⟩) | ⟨_, rfl⟩
    · exact .str 1 hm.id
    · exact .str 1 hm.name
    · exact hvalues

theorem read_wire {m : Message} (hm : m.Valid) : Json.read m.wire = .ok m.toJson :=
  Json.read_encode_obj hm.plain (by decide)

/-- Two messages that are the same message: the same id, the same name and the same value under
every key. -/
def Same (m' m : Message) : Prop := m'.id = m.id ∧ m'.name = m.name ∧ ∀ k, m'.value? k = m.value? k

/-- The same message, its values in key order on both sides, is the equal message. -/
theorem Same.eq {m' m : Message} (h : m'.Same m) (h' : m'.values.Ordered)
    (hm : m.values.Ordered) : m' = m := by
  obtain ⟨hid, hname, hv⟩ := h
  obtain ⟨id', name', vs'⟩ := m'
  obtain ⟨id, name, vs⟩ := m
  simp only at hid hname
  subst hid hname
  have hvs : vs' = vs := KeyMap.Ordered.ext h' hm hv
  rw [hvs]

/-- A message with valid texts reads back from its text on the wire as the same message, its
values in key order. -/
theorem ofWire_wire {m : Message} (hm : m.Valid) :
    ∃ m', ofWire m.wire = .ok m' ∧ m'.Same m ∧ m'.values.Ordered := by
  refine ⟨build m.id m.name [] (KeyMap.ofList m.readBackValues), ?_,
    ⟨rfl, rfl, value?_readBack m⟩, (KeyMap.ordered_empty.insertMany []).insertMany _⟩
  simp only [ofWire, read_wire hm, ofJson_toJson]

end Message

/-! ## Reading an alert's members -/

namespace AlertFields

variable (w : AlertFields)

/-- Each text member an alert writes is read into its own field. -/
theorem readMember_text (s : String) :
    w.readMember ("action_id", .str s) = .ok { w with actionId := s } ∧
      w.readMember ("context_id", .str s) = .ok { w with contextId := s } ∧
      w.readMember ("context_name", .str s) = .ok { w with contextName := s } := by
  have hfold : Message.foldName "action_id" = "ACTION_ID" ∧
      Message.foldName "context_id" = "CONTEXT_ID" ∧
      Message.foldName "context_name" = "CONTEXT_NAME" := by decide
  simp only [readMember, hfold]
  exact ⟨rfl, rfl, rfl⟩

/-- The message member an alert writes is read as the message reads back. -/
theorem readMember_message (m : Message) :
    w.readMember ("message", m.toJson) =
      .ok { w with message := some (.build m.id m.name [] (KeyMap.ofList m.readBackValues)) } := by
  have h := Message.ofJson_toJson m
  simp only [readMember, show Message.foldName "message" = "MESSAGE" by decide]
  unfold Message.toJson at h ⊢
  simp only [readMessage, h]

theorem readMember_windowLen {i : Int}
    (hi : -9223372036854775808 ≤ i ∧ i < 9223372036854775808) :
    w.readMember ("window_len", .int i) = .ok { w with windowLen := i } := by
  simp only [readMember, show Message.foldName "window_len" = "WINDOW_LEN" by decide]
  simp only [readWindowLen, if_pos hi]

theorem readMember_inject :
    w.readMember ("inject", .bool true) = .ok { w with inject := true } := by
  simp only [readMember, show Message.foldName "inject" = "INJECT" by decide]

end AlertFields

namespace Alert

/-- An alert as the program makes one: its texts valid UTF-8, its message valid, and its window
length an integer of 64 bits. -/
structure Valid (a : Alert) : Prop where
  actionId : Utf8.hasStray a.actionId = false
  contextId : Utf8.hasStray a.contextId = false
  contextName : Utf8.hasStray a.contextName = false
  message : a.message.Valid
  windowLen : -9223372036854775808 ≤ a.windowLen ∧ a.windowLen < 9223372036854775808

/-- Two alerts that are the same alert: equal in every field, their messages the same
message. -/
def Same (a' a : Alert) : Prop :=
  a'.actionId = a.actionId ∧ a'.contextId = a.contextId ∧ a'.contextName = a.contextName ∧
    a'.message.Same a.message ∧ a'.windowLen = a.windowLen ∧ a'.inject = a.inject

/-- The JSON form of a valid alert is plain, three levels deep. -/
theorem Valid.plain {a : Alert} (ha : a.Valid) : Json.Plain 3 (.obj (Cli.alertFields a)) := by
  refine .obj 2 (fun kv hkv => ?_) (fun kv hkv => ?_)
  · simp only [Cli.alertFields, List.mem_append, List.mem_cons, List.mem_ite_nil_left,
      List.mem_ite_nil_right, List.not_mem_nil, or_false] at hkv
    rcases hkv with (((rfl | rfl) | ⟨_, rfl⟩) | (rfl | rfl)) | ⟨_, rfl⟩ <;>
      simp [Utf8.hasStray, String.any]
  · simp only [Cli.alertFields, List.mem_append, List.mem_cons, List.mem_ite_nil_left,
      List.mem_ite_nil_right, List.not_mem_nil, or_false] at hkv
    rcases hkv with (((rfl | rfl) | ⟨_, rfl⟩) | (rfl | rfl)) | ⟨_, rfl⟩
    · exact .str 2 ha.actionId
    · exact .str 2 ha.contextId
    · exact .str 2 ha.contextName
    · exact ha.message.plain
    · exact .int 2 _
    · exact .bool 2 true

/-- The context name is written unless it is empty, and read back either way. -/
theorem foldlM_contextName (a : Alert) {w : AlertFields} (hw : w.contextName = "") :
    (if a.contextName.isEmpty then [] else [("context_name", Json.str a.contextName)]).foldlM
      AlertFields.readMember w = .ok { w with contextName := a.contextName } := by
  by_cases hc : a.contextName.isEmpty = true
  · rw [if_pos hc, String.isEmpty_iff.1 hc, ← hw]
    rfl
  · rw [if_neg hc, List.foldlM_cons, (AlertFields.readMember_text _ _).2.2, Json.ok_bind]
    rfl

/-- The inject flag is written only when set, and read back either way. -/
theorem foldlM_inject (a : Alert) {w : AlertFields} (hw : w.inject = false) :
    (if a.inject then [("inject", Json.bool true)] else []).foldlM AlertFields.readMember w =
      .ok { w with inject := a.inject } := by
  cases hi : a.inject
  · rw [if_neg (by simp), ← hw]
    rfl
  · rw [if_pos rfl, List.foldlM_cons, AlertFields.readMember_inject, Json.ok_bind]
    rfl

/-- Reading the members a valid alert writes gives back every field, and the message as it reads
back. -/
theorem foldlM_readMember_alertFields {a : Alert} (ha : a.Valid) :
    (Cli.alertFields a).foldlM AlertFields.readMember {} =
      .ok { actionId := a.actionId, contextId := a.contextId, contextName := a.contextName,
            message := some (.build a.message.id a.message.name []
              (KeyMap.ofList a.message.readBackValues)),
            windowLen := a.windowLen, inject := a.inject } := by
  unfold Cli.alertFields
  simp only [List.foldlM_append, List.foldlM_cons, List.foldlM_nil,
    (AlertFields.readMember_text _ _).1, (AlertFields.readMember_text _ _).2.1, Json.ok_bind,
    pure_bind, foldlM_contextName a, AlertFields.readMember_message,
    AlertFields.readMember_windowLen _ ha.windowLen, foldlM_inject a]

/-- The same alert, the values of both messages in key order, is the equal alert. -/
theorem Same.eq {a' a : Alert} (h : a'.Same a) (h' : a'.message.values.Ordered)
    (ha : a.message.values.Ordered) : a' = a := by
  obtain ⟨h1, h2, h3, hm, h5, h6⟩ := h
  obtain ⟨_, _, _, m', _, _⟩ := a'
  obtain ⟨_, _, _, m, _, _⟩ := a
  simp only at h1 h2 h3 h5 h6 hm h' ha
  rw [h1, h2, h3, hm.eq h' ha, h5, h6]

/-- A valid alert reads back from its text as the same alert, its message's values in key
order. -/
theorem ofWire_alertFields {a : Alert} (ha : a.Valid) :
    ∃ a', Alert.ofWire (Json.obj (Cli.alertFields a)).encode = .ok (some a') ∧ a'.Same a ∧
      a'.message.values.Ordered := by
  have hread : Json.read (Json.obj (Cli.alertFields a)).encode = .ok (.obj (Cli.alertFields a)) :=
    Json.read_encode_obj ha.plain (by decide)
  refine ⟨{ a with message :=
      (Message.build a.message.id a.message.name [] (KeyMap.ofList a.message.readBackValues)) }, ?_,
    ⟨rfl, rfl, rfl, ⟨rfl, rfl, Message.value?_readBack a.message⟩, rfl, rfl⟩,
    (KeyMap.ordered_empty.insertMany []).insertMany _⟩
  simp only [Alert.ofWire, hread, foldlM_readMember_alertFields ha]
  rfl

end Alert

/-- Messages and alerts read back from their text on the wire. Every message whose texts are
valid UTF-8 reads back as the same message: the same id, the same name and the same value under
every key, and the equal message when its values are in key order. Every alert whose texts are
valid UTF-8 and whose window length fits in 64 bits reads back, as an alert with a message, as
the same alert, and the equal alert when its message's values are in key order. -/
theorem wire_round_trip :
    (∀ m : Message, m.Valid →
      ∃ m', Message.ofWire m.wire = .ok m' ∧ m'.Same m ∧ (m.values.Ordered → m' = m)) ∧
    (∀ a : Alert, a.Valid →
      ∃ a', Alert.ofWire (Json.obj (Cli.alertFields a)).encode = .ok (some a') ∧ a'.Same a ∧
        (a.message.values.Ordered → a' = a)) := by
  constructor
  · intro m hm
    obtain ⟨m', hread, hsame, hordered⟩ := Message.ofWire_wire hm
    exact ⟨m', hread, hsame, hsame.eq hordered⟩
  · intro a ha
    obtain ⟨a', hread, hsame, hordered⟩ := Alert.ofWire_alertFields ha
    exact ⟨a', hread, hsame, hsame.eq hordered⟩

/-- A message and an alert whose texts hold a quote, a line feed, an HTML character and a line
separator read back. -/
theorem escaped_alert_reads_back :
    let m : Message := ⟨"m\"1", "<b>", ⟨[("k", "a\nb\u2028"), ("z", "")]⟩⟩
    let a : Alert := ⟨"act", "c-1", "", m, -3, true⟩
    (m.Valid ∧ ∃ m', Message.ofWire m.wire = .ok m' ∧ m'.Same m ∧ (m.values.Ordered → m' = m)) ∧
    (a.Valid ∧ ∃ a', Alert.ofWire (Json.obj (Cli.alertFields a)).encode = .ok (some a') ∧
      a'.Same a ∧ (a.message.values.Ordered → a' = a)) := by
  intro m a
  have hm : m.Valid := by
    refine ⟨by simp [m, Utf8.hasStray, String.any], by simp [m, Utf8.hasStray, String.any], ?_⟩
    simp [m, Utf8.hasStray, String.any]
  have ha : a.Valid := by
    refine ⟨by simp [a, Utf8.hasStray, String.any], by simp [a, Utf8.hasStray, String.any],
      by simp [a, Utf8.hasStray, String.any], hm, by simp [a]⟩
  exact ⟨⟨hm, wire_round_trip.1 m hm⟩, ⟨ha, wire_round_trip.2 a ha⟩⟩

end Windowing
