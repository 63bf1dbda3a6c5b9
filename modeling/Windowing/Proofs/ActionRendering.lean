import Mathlib
import Windowing.Action
import Windowing.Proofs.KeyMap

set_option autoImplicit false

/-! # Rendering an action

An action built from its configuration keeps the configured id, name and flag, reads the message
template from the message text, and one value template for every configured key, in the byte order
of the keys (`build_eq_ok`).

Run on a closed window, it renders its templates over the window's data: the value templates in key
order, then the message template. It fails exactly when one of them fails, and then with the first
failure in that order (`execute_eq_error_iff`). When it succeeds, the alert carries the action's id
(also as the id of its message), the action's name, flag, the window's context name and canonical
id text, and the number of messages; the message values are the rendered values, overridden by the
four reserved keys: `MESSAGE`, the rendered message, and `context.name`, `context.id`,
`context.len` (`execute_eq_ok`, `value?_alert`). The data the templates see lists the window's messages in order,
with the first and the last of them, or a record of zero values when there is none (`SeesWindow`).

The main statement is `action_renders_closed_window`. -/

namespace Windowing

/-! ## Mapping in `Except` -/

section Mapping

variable {α β ε : Type}

/-- The failure of a computation that fails. -/
def failureOf : Except ε α → Option ε
  | .error e => some e
  | .ok _ => none

/-- Mapping over a list fails with the failure of the first element that fails. -/
theorem mapM_eq_error_iff (f : α → Except ε β) (l : List α) (e : ε) :
    l.mapM f = .error e ↔ l.findSome? (fun a => failureOf (f a)) = some e := by
  induction l with
  | nil => simp [failureOf, pure, Except.pure]
  | cons a rest ih =>
    rw [List.mapM_cons, List.findSome?_cons]
    cases f a with
    | error e' => simp [failureOf, bind, Except.bind]
    | ok b =>
      -- the first element succeeds, so the rest decides
      have hb : failureOf (Except.ok b : Except ε β) = none := rfl
      simp only [hb, bind, Except.bind]
      rw [← ih]
      cases rest.mapM f <;> simp [pure, Except.pure]

/-- Mapping over a list succeeds when every element does, each giving its result. -/
theorem mapM_eq_ok_iff (f : α → Except ε β) (l : List α) (bs : List β) :
    l.mapM f = .ok bs ↔ List.Forall₂ (fun a b => f a = .ok b) l bs := by
  induction l generalizing bs with
  | nil => cases bs <;> simp [pure, Except.pure]
  | cons a rest ih =>
    rw [List.mapM_cons]
    cases ha : f a with
    | error e => cases bs <;> simp [bind, Except.bind, ha]
    | ok b =>
      cases hrest : rest.mapM f with
      | error e =>
        have hnot : ¬ List.Forall₂ (fun a b => f a = .ok b) rest bs.tail := fun h' => by
          rw [← ih, hrest] at h'
          cases h'
        cases bs <;> simp_all [bind, Except.bind]
      | ok bs₀ =>
        have := ih bs₀
        cases bs <;> simp_all [bind, Except.bind, pure, Except.pure, eq_comm]

/-- A sequence succeeds exactly when its first step does and the rest succeeds from its result. -/
theorem bind_eq_ok {x : Except ε α} {f : α → Except ε β} {b : β} :
    x >>= f = .ok b ↔ ∃ a, x = .ok a ∧ f a = .ok b := by
  cases x <;> simp [bind, Except.bind]

/-- A computation paired with a key succeeds exactly when the computation does, under that key. -/
theorem bind_pair_eq_ok {γ : Type} (k : γ) (x : Except ε β) (p : γ × β) :
    (do let b ← x; pure (k, b) : Except ε (γ × β)) = .ok p ↔ p.1 = k ∧ x = .ok p.2 := by
  obtain ⟨k', b'⟩ := p
  cases x <;> simp [bind, Except.bind, pure, Except.pure, eq_comm]

/-- Pairing with a key does not change how a computation fails. -/
theorem failureOf_bind_pair {γ : Type} (k : γ) (x : Except ε β) :
    failureOf (do let b ← x; pure (k, b) : Except ε (γ × β)) = failureOf x := by
  cases x <;> rfl

/-- Over pairs with distinct keys, the last pair of a key is its only one. -/
theorem lookup_reverse_of_nodup {γ : Type} (l : List (String × γ)) (hl : (l.map Prod.fst).Nodup)
    (k : String) : l.reverse.lookup k = l.lookup k := by
  induction l with
  | nil => rfl
  | cons p rest ih =>
    obtain ⟨k₀, v₀⟩ := p
    simp only [List.map_cons, List.nodup_cons] at hl
    rw [List.reverse_cons, List.lookup_append, ih hl.2, List.lookup_cons]
    have hbeq : (k == k₀) = decide (k = k₀) := rfl
    by_cases hk : k = k₀
    · -- the key of the head is not among the rest
      subst hk
      have hnone : rest.lookup k = none := by
        rw [List.lookup_eq_none_iff]
        intro p hp
        have hne : k ≠ p.1 := fun he => hl.1 (he ▸ List.mem_map_of_mem hp)
        simpa [bne_iff_ne] using hne
      simp [hnone]
    · simp [hk, hbeq, List.lookup_cons, List.lookup_nil]

/-- Pairs matched one to one under the same keys have the same keys. -/
theorem map_fst_of_forall₂ {γ δ : Type} {l₁ : List (String × γ)} {l₂ : List (String × δ)}
    (h : List.Forall₂ (fun p q => q.1 = p.1) l₁ l₂) :
    l₂.map Prod.fst = l₁.map Prod.fst := by
  induction h with
  | nil => rfl
  | cons hpq _ ih => rw [List.map_cons, List.map_cons, hpq, ih]

/-- When every pair of one list gives a pair of the other under the same key, a key's value in the
second is what its value in the first gives. -/
theorem lookup_of_forall₂ {γ δ : Type} {g : γ → Option δ} {l₁ : List (String × γ)}
    {l₂ : List (String × δ)}
    (h : List.Forall₂ (fun p q => q.1 = p.1 ∧ g p.2 = some q.2) l₁ l₂) (k : String) :
    l₂.lookup k = (l₁.lookup k).bind g := by
  induction h with
  | nil => rfl
  | cons hpq _ ih =>
    rename_i p q _ _
    obtain ⟨hk, hg⟩ := hpq
    rw [List.lookup_cons, List.lookup_cons, hk]
    split <;> simp_all

end Mapping

/-! ## Building a message -/

namespace Message

/-- A built message answers, for each key, the value of the merged map, and otherwise the value of
the key's last pair. -/
theorem value?_build (id name : String) (pairs : List (String × String)) (extra : KeyMap String)
    (k : String) :
    (build id name pairs extra).value? k =
      (extra.toList.reverse.lookup k).or (pairs.reverse.lookup k) := by
  simp only [build, value?, KeyMap.get?_insertMany, KeyMap.ofList, KeyMap.get?_empty,
    Option.or_none]

theorem ordered_build (id name : String) (pairs : List (String × String)) (extra : KeyMap String) :
    (build id name pairs extra).values.Ordered :=
  (KeyMap.ordered_empty.insertMany pairs).insertMany _

end Message

/-! ## Building an action -/

namespace Action

open Template

/-- A built action keeps the configured id, name and flag, reads its message template from the
message text, and one value template for each configured key, in the configured order, from that
key's text. -/
theorem build_eq_ok {spec : ActionSpec} {a : Action} (h : build spec = .ok a) :
    spec.id ≠ "" ∧ a.id = spec.id ∧ a.name = spec.name ∧ a.inject = spec.inject ∧
      parseTemplate (spec.id ++ "/message") spec.message = .ok a.message ∧
      List.Forall₂ (fun (kv : String × String) (kt : String × Tree) =>
        kt.1 = kv.1 ∧ parseTemplate (spec.id ++ "/values/" ++ kv.1) kv.2 = .ok kt.2)
        spec.values.toList a.values := by
  dsimp only [build] at h
  split at h
  · simp [throw, throwThe, MonadExceptOf.throw, bind, Except.bind] at h
  next hid =>
  simp only [bind_eq_ok] at h
  obtain ⟨t, hm, vs, hv, hpure⟩ := h
  cases hpure
  refine ⟨by simpa using hid, rfl, rfl, rfl, hm, ?_⟩
  exact ((mapM_eq_ok_iff _ _ _).1 hv).imp fun kv kt h => (bind_pair_eq_ok _ _ _).1 h

/-! ## The data of a window -/

/-- A chain of field names leads from some data to a value, in every state of every template. -/
def Reaches (data : Value) (names : List String) (v : Value) : Prop :=
  ∀ (ctx : Ctx) (env : Env), Exec.fieldChain ctx data names false env = .ok (v, env)

/-- A record that shows a message with these id, name and values. -/
def ShowsMessage (id name : String) (values v : Value) : Prop :=
  Reaches v ["ID"] (.str id) ∧ Reaches v ["Name"] (.str name) ∧ Reaches v ["Values"] values

theorem showsMessage_messageData (m : Message) :
    ShowsMessage m.id m.name (.dict m.values) (messageData m) :=
  ⟨fun _ _ => rfl, fun _ _ => rfl, fun _ _ => rfl⟩

/-- The record of no message shows zero values: an empty id and name, and the nil map. -/
theorem showsMessage_emptyData : ShowsMessage "" "" .nilDict emptyData :=
  ⟨fun _ _ => rfl, fun _ _ => rfl, fun _ _ => rfl⟩

/-- What a template sees of a closed window: its context, the records of its messages in order, the
first and the last of them or the record of no message, and each record showing its message. -/
structure SeesWindow (w : ClosedWindow) (data : Value) : Prop where
  name : Reaches data ["Context", "Name"] (.str w.contextName)
  id : Reaches data ["Context", "ID"] (.str w.contextId.toText)
  len : Reaches data ["Context", "Len"] (.int w.messages.length)
  messages :
    Reaches data ["Messages"] (.list "correlation.messageData" (w.messages.map messageData) [])
  first : Reaches data ["First"] ((w.messages.head?.map messageData).getD emptyData)
  last : Reaches data ["Last"] ((w.messages.getLast?.map messageData).getD emptyData)
  shows : ∀ m, ShowsMessage m.id m.name (.dict m.values) (messageData m)
  showsNone : ShowsMessage "" "" .nilDict emptyData

theorem seesWindow_windowData (w : ClosedWindow) : SeesWindow w (windowData w) where
  name _ _ := rfl
  id _ _ := rfl
  len _ _ := rfl
  messages _ _ := rfl
  shows := showsMessage_messageData
  showsNone := showsMessage_emptyData
  first _ _ := by
    simp only [windowData, List.headD_eq_head?_getD, List.head?_map]
    rfl
  last _ _ := by
    simp only [windowData, List.getLastD_eq_getLast?, List.getLast?_map]
    rfl

/-! ## Running an action -/

/-- The failure of rendering one template over some data. -/
def renderFailure (data : Value) (t : Tree) : Option ActionError := failureOf (render t data)

theorem renderFailure_eq_some_iff (data : Value) (t : Tree) (e : ActionError) :
    renderFailure data t = some e ↔
      ∃ err, t.execute data = .error err ∧ e = .render t.parseName err := by
  unfold renderFailure render
  cases t.execute data <;> simp [failureOf, eq_comm]

theorem renderFailure_isSome_iff (data : Value) (t : Tree) :
    (renderFailure data t).isSome ↔ ∃ err, t.execute data = .error err := by
  unfold renderFailure render
  cases t.execute data <;> simp [failureOf]

theorem renderFailure_eq_none_iff (data : Value) (t : Tree) :
    renderFailure data t = none ↔ ∃ s, t.execute data = .ok s := by
  unfold renderFailure render
  cases t.execute data <;> simp [failureOf]

/-- A run fails with the failure of the first template that fails to render, the value templates in
key order and then the message template. -/
theorem execute_eq_error_iff_findSome (a : Action) (w : ClosedWindow) (e : ActionError) :
    a.execute w = .error e ↔
      (a.values.map Prod.snd ++ [a.message]).findSome? (renderFailure (windowData w)) = some e := by
  dsimp only [execute]
  rw [List.findSome?_append, List.findSome?_map]
  have hfail : (fun kt : String × Tree => failureOf
      (do let s ← render kt.2 (windowData w); pure (kt.1, s) :
        Except ActionError (String × String))) =
      renderFailure (windowData w) ∘ Prod.snd := funext fun kt => failureOf_bind_pair _ _
  cases hv : a.values.mapM (fun kt => do let s ← render kt.2 (windowData w); pure (kt.1, s)) with
  | error e' =>
    -- a value template fails first
    have hfirst := (mapM_eq_error_iff _ _ _).1 hv
    rw [hfail] at hfirst
    simp [hfirst, bind, Except.bind]
  | ok rs =>
    -- every value template renders, so the message template decides
    have hnone : a.values.findSome? (renderFailure (windowData w) ∘ Prod.snd) = none := by
      cases h' : a.values.findSome? (renderFailure (windowData w) ∘ Prod.snd) with
      | none => rfl
      | some e' =>
        rw [← hfail, ← mapM_eq_error_iff, hv] at h'
        cases h'
    rw [hnone, Option.none_or]
    unfold renderFailure
    cases hr : render a.message (windowData w) <;>
      simp [hr, failureOf, bind, Except.bind, pure, Except.pure]

/-- A run fails exactly at the first template, the value templates in key order and then the message
template, that fails to run over the window's data; the failure names that template. -/
theorem execute_eq_error_iff (a : Action) (w : ClosedWindow) (e : ActionError) :
    a.execute w = .error e ↔
      ∃ pre t post, a.values.map Prod.snd ++ [a.message] = pre ++ t :: post ∧
        (∀ t' ∈ pre, ∃ s, t'.execute (windowData w) = .ok s) ∧
        ∃ err, t.execute (windowData w) = .error err ∧ e = .render t.parseName err := by
  rw [execute_eq_error_iff_findSome, List.findSome?_eq_some_iff]
  simp only [renderFailure_eq_some_iff, renderFailure_eq_none_iff]
  constructor
  · rintro ⟨pre, t, post, hsplit, hfail, hok⟩
    exact ⟨pre, t, post, hsplit, hok, hfail⟩
  · rintro ⟨pre, t, post, hsplit, hok, hfail⟩
    exact ⟨pre, t, post, hsplit, hfail, hok⟩

/-- A run fails exactly when one of its templates fails to run over the window's data. -/
theorem execute_fails_iff (a : Action) (w : ClosedWindow) :
    (∃ e, a.execute w = .error e) ↔
      ∃ t ∈ a.values.map Prod.snd ++ [a.message],
        ∃ err, t.execute (windowData w) = .error err := by
  simp only [execute_eq_error_iff_findSome]
  rw [← Option.isSome_iff_exists, List.findSome?_isSome_iff]
  simp only [renderFailure_isSome_iff]

/-- Rendering succeeds with the text of running the template. -/
theorem toOption_render (t : Tree) (data : Value) :
    (render t data).toOption = (t.execute data).toOption := by
  unfold render
  cases t.execute data <;> rfl

/-- A run that succeeds rendered every value template in key order and then the message template,
and built its alert from them and from the window. -/
theorem execute_eq_ok {a : Action} {w : ClosedWindow} {al : Alert} (h : a.execute w = .ok al) :
    ∃ rendered text,
      List.Forall₂ (fun (kt : String × Tree) (ks : String × String) =>
        ks.1 = kt.1 ∧ render kt.2 (windowData w) = .ok ks.2) a.values rendered ∧
      render a.message (windowData w) = .ok text ∧
      al = { actionId := a.id, contextId := w.contextId.toText, contextName := w.contextName,
             message := Message.build a.id a.name (rendered ++
               [("MESSAGE", text), ("context.name", w.contextName),
                ("context.id", w.contextId.toText),
                ("context.len", toString w.messages.length)]) ∅,
             windowLen := w.messages.length, inject := a.inject } := by
  dsimp only [execute] at h
  simp only [bind_eq_ok] at h
  obtain ⟨rendered, hv, text, ht, hpure⟩ := h
  cases hpure
  have hrendered := ((mapM_eq_ok_iff _ _ _).1 hv).imp fun _ _ h => (bind_pair_eq_ok _ _ _).1 h
  exact ⟨rendered, text, hrendered, ht, rfl⟩

/-- The values of a successful run's message: the four reserved keys hold the rendered message and
the window's context, and win over a value template of the same key; any other key holds its
rendered value template. -/
theorem value?_alert {a : Action} {w : ClosedWindow} {al : Alert} (h : a.execute w = .ok al)
    (hkeys : (a.values.map Prod.fst).Nodup) (k : String) :
    al.message.value? k =
      if k = "MESSAGE" then (a.message.execute (windowData w)).toOption
      else if k = "context.name" then some w.contextName
      else if k = "context.id" then some w.contextId.toText
      else if k = "context.len" then some (toString w.messages.length)
      else (a.values.lookup k).bind fun t => (t.execute (windowData w)).toOption := by
  obtain ⟨rendered, text, hr, ht, rfl⟩ := execute_eq_ok h
  have hrendered : rendered.lookup k =
      (a.values.lookup k).bind fun t => (t.execute (windowData w)).toOption :=
    lookup_of_forall₂ (hr.imp fun _ _ h => ⟨h.1, by rw [← toOption_render, h.2]; rfl⟩) k
  have hnodup : (rendered.map Prod.fst).Nodup := by
    rwa [map_fst_of_forall₂ (hr.imp fun _ _ h => h.1)]
  have htext : (a.message.execute (windowData w)).toOption = some text := by
    rw [← toOption_render, ht]; rfl
  rw [Message.value?_build, List.reverse_append, List.lookup_append,
    lookup_reverse_of_nodup _ hnodup, hrendered, htext]
  have hnone : (∅ : KeyMap String).toList = [] := rfl
  have hbeq : ∀ s : String, (k == s) = decide (k = s) := fun _ => rfl
  split_ifs <;> simp_all [List.lookup_cons, List.lookup_nil]

/-- The value templates of a built action are keyed by the configured keys, in the same order. -/
theorem build_keys {spec : ActionSpec} {a : Action} (h : build spec = .ok a) :
    a.values.map Prod.fst = spec.values.keys :=
  map_fst_of_forall₂ ((build_eq_ok h).2.2.2.2.2.imp fun _ _ h => h.1)

end Action

/-- Running a built action on a closed window. The action keeps its configuration, with its value
templates in increasing key order. It fails exactly when one of its templates fails over the
window's data, and then with the first such failure, the value templates in key order and the
message template last. When it succeeds, the alert carries the action's id, name and flag and the
window's context, and its message values are the rendered value templates, overridden by the four
reserved keys. The data the templates see shows the window. -/
theorem action_renders_closed_window (spec : ActionSpec) (a : Action)
    (hb : Action.build spec = .ok a) (hord : spec.values.Ordered) (w : ClosedWindow) :
    let data := Action.windowData w
    let templates := a.values.map Prod.snd ++ [a.message]
    (spec.id ≠ "" ∧ a.id = spec.id ∧ a.name = spec.name ∧ a.inject = spec.inject ∧
      Action.parseTemplate (spec.id ++ "/message") spec.message = .ok a.message ∧
      List.Forall₂ (fun (kv : String × String) (kt : String × Template.Tree) =>
        kt.1 = kv.1 ∧ Action.parseTemplate (spec.id ++ "/values/" ++ kv.1) kv.2 = .ok kt.2)
        spec.values.toList a.values) ∧
    (a.values.map Prod.fst).Pairwise (· < ·) ∧
    ((∃ e, a.execute w = .error e) ↔
      ∃ t ∈ templates, ∃ err, t.execute data = .error err) ∧
    (∀ e, a.execute w = .error e ↔
      ∃ pre t post, templates = pre ++ t :: post ∧
        (∀ t' ∈ pre, ∃ s, t'.execute data = .ok s) ∧
        ∃ err, t.execute data = .error err ∧ e = .render t.parseName err) ∧
    (∀ al, a.execute w = .ok al →
      al.actionId = spec.id ∧ al.message.id = spec.id ∧ al.message.name = spec.name ∧
      al.windowLen = w.messages.length ∧ al.contextId = w.contextId.toText ∧
      al.contextName = w.contextName ∧ al.inject = spec.inject ∧ al.message.values.Ordered ∧
      ∀ k, al.message.value? k =
        if k = "MESSAGE" then (a.message.execute data).toOption
        else if k = "context.name" then some w.contextName
        else if k = "context.id" then some w.contextId.toText
        else if k = "context.len" then some (toString w.messages.length)
        else (a.values.lookup k).bind fun t => (t.execute data).toOption) ∧
    Action.SeesWindow w data := by
  intro data templates
  have hbuilt := Action.build_eq_ok hb
  have ⟨_, hid, hname, hinject, _⟩ := hbuilt
  have hkeys : a.values.map Prod.fst = spec.values.keys := Action.build_keys hb
  refine ⟨hbuilt, hkeys ▸ hord.keys_sorted, Action.execute_fails_iff a w,
    Action.execute_eq_error_iff a w, fun al hal => ?_, Action.seesWindow_windowData w⟩
  -- a successful run: the alert is built from the action and the window
  have hvalues := Action.value?_alert hal (hkeys ▸ hord.nodup_keys)
  obtain ⟨rendered, text, -, -, rfl⟩ := Action.execute_eq_ok hal
  exact ⟨hid, hid, hname, rfl, rfl, rfl, hinject, Message.ordered_build _ _ _ _, hvalues⟩

/-- An action of plain-text templates builds, and on a window of two messages its alert reports the
window's length under `context.len`. -/
theorem two_message_alert_reports_length :
    ∃ a, Action.build
        { id := "act", name := "alert", message := "window closed",
          values := ⟨[("status", "seen")]⟩ } = .ok a ∧
      (⟨[("status", "seen")]⟩ : KeyMap String).Ordered ∧
      ∀ al, a.execute ⟨"ctx", Uuid.nil, [⟨"1", "a", {}⟩, ⟨"2", "b", {}⟩]⟩ = .ok al →
        al.message.value? "context.len" = some "2" := by
  obtain ⟨a, hb⟩ : ∃ a, Action.build
      { id := "act", name := "alert", message := "window closed",
        values := ⟨[("status", "seen")]⟩ } = .ok a := by
    have hok : (Action.build
        { id := "act", name := "alert", message := "window closed",
          values := ⟨[("status", "seen")]⟩ }).isOk = true := by decide +kernel
    revert hok
    cases Action.build _ with
    | ok a => exact fun _ => ⟨a, rfl⟩
    | error e => exact fun h => absurd h Bool.false_ne_true
  have hord : (⟨[("status", "seen")]⟩ : KeyMap String).Ordered := List.pairwise_singleton _ _
  refine ⟨a, hb, hord, fun al hal => ?_⟩
  have hlen := ((action_renders_closed_window _ a hb hord _).2.2.2.2.1 al hal).2.2.2.2.2.2.2.2
    "context.len"
  rw [hlen]
  rfl

end Windowing
