import Mathlib
import Windowing.Config.Build
import Windowing.Proofs.ActionRendering

set_option autoImplicit false

/-! # Which problem building reports

Building a list of described contexts checks them one after another, and each context checks its
parts one after another, stopping at the first failure. Here every check is stated on its own, as a
list of all the problems a description has, in the order they are reported (`problems`): for a set
of conditions the timeout, the size cap, the renew timeout and the pattern flags; for an action a
missing message, then an empty id, an unreadable message template and each unreadable value
template; for a context its identifier text, its conditions, a key cap without a key template, each
action in turn (the failure naming the action's position), and last its key template.

A computation that checks in sequence fails exactly when some check fails, and then with the first
failure (`failureOf_bind`, `failureOf_mapM`); so building reports the first problem of the list at
every level. Building a list of contexts therefore fails exactly when some description has a
problem, and then names the first such context and its first problem; otherwise it builds one
context per description, in order, each as its description says (`build_reports_first_problem`). -/

namespace Windowing

/-! ## Checking in sequence -/

section Sequence

variable {α β ε : Type}

/-- A sequence fails with the first failure of its steps: the problems of the first step, then
those of the rest, whatever the first step gave. -/
theorem failureOf_bind {x : Except ε α} {f : α → Except ε β} {ps qs : List ε}
    (hx : failureOf x = ps.head?) (hf : ∀ a, x = .ok a → failureOf (f a) = qs.head?) :
    failureOf (x >>= f) = (ps ++ qs).head? := by
  cases x with
  | error e =>
    cases ps with
    | nil => cases hx
    | cons p rest => simpa [failureOf, bind, Except.bind] using hx
  | ok a =>
    have hps : ps = [] := List.head?_eq_none_iff.1 hx.symm
    subst hps
    simpa [bind, Except.bind] using hf a rfl

@[simp]
theorem failureOf_pure (a : α) : failureOf (pure a : Except ε α) = none := rfl

/-- A sequence that starts by failing fails so. -/
@[simp]
theorem failureOf_throw_bind (e : ε) (k : α → Except ε β) :
    failureOf ((throw e : Except ε α) >>= k) = some e := rfl

@[simp]
theorem throw_bind_ne_ok (e : ε) (k : α → Except ε β) (b : β) :
    ((throw e : Except ε α) >>= k) ≠ .ok b := nofun

/-- Two branches that go on alike. -/
theorem ite_bind_same (b : Prop) [Decidable b] (x y : Except ε α) (f : α → Except ε β) :
    (if b then x >>= f else y >>= f) = (if b then x else y) >>= f := by
  split <;> rfl

/-- A sequence that ends by returning a value fails as its first step does. -/
theorem failureOf_bind_pure (x : Except ε α) (g : α → β) :
    failureOf (x >>= fun a => pure (g a)) = failureOf x := by
  cases x <;> rfl

/-- Mapping over a list fails with the first problem of the elements, in order. -/
theorem failureOf_mapM (f : α → Except ε β) (P : α → List ε)
    (hP : ∀ a, failureOf (f a) = (P a).head?) (l : List α) :
    failureOf (l.mapM f) = (l.flatMap P).head? := by
  have hfind : failureOf (l.mapM f) = l.findSome? fun a => failureOf (f a) := by
    cases h : l.mapM f with
    | error e => exact ((mapM_eq_error_iff f l e).1 h).symm
    | ok bs =>
      -- no element fails, so there is no first failure
      cases hs : l.findSome? fun a => failureOf (f a) with
      | none => rfl
      | some e => rw [← mapM_eq_error_iff, h] at hs; cases hs
  rw [hfind, List.head?_flatMap]
  simp only [hP]

/-- A list of problems has a first one exactly when some element has a problem: the first element
that has one, after elements that have none. -/
theorem head?_flatMap_eq_some {γ : Type} (P : γ → List ε) (l : List γ) (e : ε) :
    (l.flatMap P).head? = some e ↔
      ∃ i, ∃ hi : i < l.length, (∀ j (hj : j < i), P l[j] = []) ∧ (P l[i]).head? = some e := by
  induction l with
  | nil => simp
  | cons a rest ih =>
    rw [List.flatMap_cons, List.head?_append]
    cases ha : (P a).head? with
    | some e' =>
      have hne : P a ≠ [] := fun h => by simp [h] at ha
      simp only [Option.some_or, Option.some.injEq]
      constructor
      · rintro rfl
        exact ⟨0, by simp, fun j hj => absurd hj (Nat.not_lt_zero j), by simpa using ha⟩
      · rintro ⟨i, hi, hbefore, hat⟩
        cases i with
        | zero => simpa [ha] using hat
        | succ i => exact absurd (hbefore 0 (Nat.succ_pos i)) (by simpa using hne)
    | none =>
      have hnil : P a = [] := List.head?_eq_none_iff.1 ha
      simp only [Option.none_or, ih]
      constructor
      · rintro ⟨i, hi, hbefore, hat⟩
        refine ⟨i + 1, by simpa using hi, fun j hj => ?_, by simpa using hat⟩
        cases j with
        | zero => simpa using hnil
        | succ j => simpa using hbefore j (by omega)
      · rintro ⟨i, hi, hbefore, hat⟩
        cases i with
        | zero => simp [ha] at hat
        | succ i =>
          exact ⟨i, by simpa using hi, fun j hj => by simpa using hbefore (j + 1) (by omega),
            by simpa using hat⟩

end Sequence

/-! ## The problems of a description -/

namespace Conditions

/-- Every problem of a set of conditions, each checked on its own, in the order they are reported:
no positive timeout, a negative size cap, a negative renew timeout, pattern flags without
patterns. -/
def problems (c : Conditions) : List ConditionsError :=
  (if c.timeout ≤ 0 then [ConditionsError.noTimeout] else []) ++
    (if c.maxSize < 0 then [ConditionsError.negativeMaxSize] else []) ++
    (if c.renewTimeout < 0 then [ConditionsError.negativeRenew] else []) ++
    (if (c.firstOpens || c.lastCloses) && c.patterns.isEmpty then [ConditionsError.patternsRequired]
      else [])

/-- Checking conditions reports their first problem. -/
theorem validate_eq_head?_problems (c : Conditions) : c.validate = c.problems.head? := by
  unfold validate problems
  by_cases h₁ : c.timeout ≤ 0
  · simp [h₁]
  by_cases h₂ : c.maxSize < 0
  · simp [h₁, h₂]
  by_cases h₃ : c.renewTimeout < 0
  · simp [h₁, h₂, h₃]
  by_cases h₄ : ((c.firstOpens || c.lastCloses) && c.patterns.isEmpty) = true
  · simp [h₁, h₂, h₃, h₄]
  · simp [h₁, h₂, h₃, h₄]

end Conditions

/-- Every problem of a described action's message, each checked on its own, in the order they are
reported: an empty id, an unreadable message template, then each unreadable value template, in key
order. -/
def ActionSpec.problems (spec : ActionSpec) : List ActionError :=
  (if spec.id == "" then [ActionError.missingId] else []) ++
    (failureOf (Action.parseTemplate (spec.id ++ "/message") spec.message)).toList ++
    spec.values.toList.flatMap fun kv =>
      (failureOf (Action.parseTemplate (spec.id ++ "/values/" ++ kv.1) kv.2)).toList

/-- Building an action reports the first problem of its message. -/
theorem Action.failureOf_build (spec : ActionSpec) :
    failureOf (Action.build spec) = spec.problems.head? := by
  unfold Action.build ActionSpec.problems
  dsimp only
  by_cases hid : (spec.id == "") = true
  · simp [hid]
  · rw [if_neg hid, if_neg hid, List.nil_append]
    refine failureOf_bind (by simp) fun t _ => ?_
    rw [failureOf_bind_pure]
    exact failureOf_mapM _ _ (fun kv => by rw [failureOf_bind_pair, Option.head?_toList]) _

namespace ActionConfig

/-- Every problem of a described action, in the order they are reported: no message at all, or the
problems of its message. -/
def problems (a : ActionConfig) : List Failure :=
  match a.message with
  | none => [Failure.mk .missingAction "action has no message"]
  | some m =>
    (ActionSpec.problems
        { id := m.uuid, name := m.name, message := m.message,
          values := KeyMap.ofList (m.values.getD []), inject := m.inject }).map
      ActionError.toFailure

theorem failureOf_build (a : ActionConfig) : failureOf a.build = a.problems.head? := by
  unfold build problems
  cases a.message with
  | none => rfl
  | some m =>
    dsimp only
    rw [List.head?_map, ← Action.failureOf_build]
    cases Action.build _ <;> rfl

end ActionConfig

/-- The problems of described actions, in order, each naming its action's position. -/
def actionProblems (actions : List ActionConfig) : List Failure :=
  actions.zipIdx.flatMap fun (a, j) => a.problems.map (Failure.wrap ("action " ++ toString j ++ ": "))

theorem failureOf_buildActionConfigs (actions : List ActionConfig) :
    failureOf (buildActionConfigs actions) = (actionProblems actions).head? := by
  unfold buildActionConfigs actionProblems
  rw [List.zipIdx_eq_zip_range', ← List.range_eq_range']
  refine failureOf_mapM _ _ (fun aj => ?_) _
  obtain ⟨a, j⟩ := aj
  dsimp only
  rw [List.head?_map, ← ActionConfig.failureOf_build]
  cases a.build <;> rfl

namespace ContextConfig

/-- Every problem of a described context, each checked on its own, in the order they are reported:
an identifier text that does not read, the problems of its conditions, a key cap without a key
template, the problems of its actions in order, and a key template that does not read. -/
def problems (c : ContextConfig) : List Failure :=
  (if c.uuid.isEmpty then [] else (failureOf (readUuid c.uuid)).toList) ++
    c.conditions.toConditions.problems.map ConditionsError.toFailure ++
    (if c.maxKeys > 0 && c.contextId.isEmpty then
      [Failure.mk .maxKeysWithoutId "max_keys requires context_id"] else []) ++
    actionProblems c.actions ++
    (if c.contextId.isEmpty then [] else (failureOf (Context.parseKey c.contextId)).toList.map Failure.plain)

/-- Building a described context reports its first problem. -/
theorem failureOf_build (c : ContextConfig) (fresh : Uuid) :
    failureOf (c.build fresh) = c.problems.head? := by
  unfold build problems
  dsimp only
  simp only [List.append_assoc]
  rw [ite_bind_same]
  refine failureOf_bind (by split <;> simp) fun id _ => ?_
  cases hv : c.conditions.toConditions.validate with
  | some e =>
    have hfirst : c.conditions.toConditions.problems.head? = some e := by
      rw [← Conditions.validate_eq_head?_problems, hv]
    simp [List.head?_append, hfirst]
  | none =>
    have hnone : c.conditions.toConditions.problems = [] := by
      rw [← List.head?_eq_none_iff, ← Conditions.validate_eq_head?_problems, hv]
    simp only [hnone, List.map_nil, List.nil_append]
    by_cases hk : (decide (c.maxKeys > 0) && c.contextId.isEmpty) = true
    · simp [hk]
    · simp only [hk, if_false, Bool.false_eq_true, List.nil_append]
      refine failureOf_bind (failureOf_buildActionConfigs c.actions) fun actions _ => ?_
      by_cases hc : c.contextId.isEmpty = true
      · simp [hc]
      · simp only [hc, if_false, Bool.false_eq_true]
        cases Context.parseKey c.contextId <;> rfl

/-- What a context built from its description is: it has the described name, the fresh identifier
or the one its text reads as, the described conditions (which pass their checks) and the described
actions, built in order; it keeps one window, not yet open, when the description has no key
template, and otherwise a window per key of the template read from the description, under the
described key cap, with no key yet. -/
structure Built (c : ContextConfig) (fresh : Uuid) (ctx : Context) : Prop where
  name : ctx.rule.name = c.name
  id : if c.uuid.isEmpty then ctx.rule.id = fresh else readUuid c.uuid = .ok ctx.rule.id
  conditions : ctx.rule.conditions = c.conditions.toConditions
  valid : ctx.rule.conditions.validate = none
  actions : List.Forall₂ (fun a x => a.build = .ok x) c.actions ctx.rule.actions
  shape : if c.contextId.isEmpty then ctx = .linear ctx.rule Window.fresh
    else ∃ t, Context.parseKey c.contextId = .ok t ∧ ctx = .keyed ctx.rule t c.maxKeys.toNat {}

end ContextConfig

/-- Described actions that build give one action each, in order. -/
theorem buildActionConfigs_eq_ok {actions : List ActionConfig} {xs : List Action}
    (h : buildActionConfigs actions = .ok xs) :
    List.Forall₂ (fun a x => a.build = .ok x) actions xs := by
  have hall := (mapM_eq_ok_iff _ _ _).1 h
  -- the position only names a failure, so a success is the action's own
  have hpos : List.Forall₂ (fun (aj : ActionConfig × Nat) x => aj.1.build = .ok x)
      (actions.zip (List.range actions.length)) xs := by
    refine hall.imp fun aj x hx => ?_
    obtain ⟨a, j⟩ := aj
    dsimp only at hx ⊢
    cases hb : a.build <;> rw [hb] at hx <;> simp at hx
    rw [hx]
  have hfst : (actions.zip (List.range actions.length)).map Prod.fst = actions :=
    List.map_fst_zip (by simp)
  rw [← hfst]
  exact List.forall₂_map_left_iff.2 hpos

namespace ContextConfig

/-- A description that builds gives the context it describes. -/
theorem built_of_build_eq_ok {c : ContextConfig} {fresh : Uuid} {ctx : Context}
    (h : c.build fresh = .ok ctx) : c.Built fresh ctx := by
  unfold build at h
  dsimp only at h
  rw [ite_bind_same, bind_eq_ok] at h
  obtain ⟨id, hid, h⟩ := h
  cases hv : c.conditions.toConditions.validate with
  | some e => simp [hv] at h
  | none =>
    by_cases hk : (decide (c.maxKeys > 0) && c.contextId.isEmpty) = true
    · simp [hv, hk] at h
    · simp only [hv, hk, if_false, Bool.false_eq_true, bind_eq_ok] at h
      obtain ⟨actions, hacts, h⟩ := h
      have hrule : ctx.rule = { name := c.name, id, conditions := c.conditions.toConditions, actions } := by
        split at h
        · cases h; rfl
        · split at h <;> cases h; rfl
      refine ⟨by rw [hrule], ?_, by rw [hrule], by rw [hrule]; exact hv, ?_, ?_⟩
      · rw [hrule]
        split <;> simp_all [pure, Except.pure]
      · rw [hrule]
        exact buildActionConfigs_eq_ok hacts
      · rw [hrule]
        split at h
        · rename_i hc
          cases h
          simp [hc]
        · rename_i hc
          simp only [hc, if_false, Bool.false_eq_true]
          split at h
          · rename_i t ht
            cases h
            exact ⟨t, ht, rfl⟩
          · cases h

end ContextConfig

/-! ## Building a list of contexts -/

/-- The problems of described contexts, in order, each naming its context's position and its name
(or identifier text). -/
def configProblems (cs : List ContextConfig) : List Failure :=
  cs.zipIdx.flatMap fun (c, i) =>
    c.problems.map (Failure.wrap ("context " ++ toString i ++ " (" ++ c.label ++ "): "))

/-- Building described contexts reports their first problem. -/
theorem failureOf_buildConfigs (fresh : Nat → Uuid) (cs : List ContextConfig) :
    failureOf (buildConfigs fresh cs) = (configProblems cs).head? := by
  unfold buildConfigs configProblems
  rw [List.zipIdx_eq_zip_range', ← List.range_eq_range']
  refine failureOf_mapM _ _ (fun ci => ?_) _
  obtain ⟨c, i⟩ := ci
  dsimp only
  rw [List.head?_map, ← ContextConfig.failureOf_build c (fresh i)]
  cases c.build (fresh i) <;> rfl

/-- Described contexts have no problem exactly when none of them has one. -/
theorem configProblems_eq_nil_iff (cs : List ContextConfig) :
    configProblems cs = [] ↔ ∀ c ∈ cs, c.problems = [] := by
  simp only [configProblems, List.flatMap_eq_nil_iff, List.map_eq_nil_iff]
  conv_rhs => rw [← List.zipIdx_map_fst 0 cs, List.forall_mem_map]

theorem failureOf_eq_none_iff {α ε : Type} (x : Except ε α) : failureOf x = none ↔ ∃ a, x = .ok a := by
  cases x <;> simp [failureOf]

theorem failureOf_eq_some_iff {α ε : Type} (x : Except ε α) (e : ε) :
    failureOf x = some e ↔ x = .error e := by
  cases x <;> simp [failureOf]

/-- Building is all or nothing, and reports the first problem. For every list of described
contexts: building succeeds exactly when no description has a problem; it fails exactly with the
first problem of the first description that has one, naming that description's position and its
name (or identifier text when it has no name); and when it succeeds it gives one context per
description, in order, each as its description says. -/
theorem build_reports_first_problem (fresh : Nat → Uuid) (cs : List ContextConfig) :
    ((∃ ctxs, buildConfigs fresh cs = .ok ctxs) ↔ ∀ c ∈ cs, c.problems = []) ∧
    (∀ f, buildConfigs fresh cs = .error f ↔
      ∃ i, ∃ hi : i < cs.length, ∃ e, (∀ j (hj : j < i), cs[j].problems = []) ∧
        cs[i].problems.head? = some e ∧
        f = e.wrap ("context " ++ toString i ++ " (" ++ cs[i].label ++ "): ")) ∧
    (∀ ctxs, buildConfigs fresh cs = .ok ctxs →
      ctxs.length = cs.length ∧
      ∀ i (hi : i < cs.length) (hi' : i < ctxs.length), cs[i].Built (fresh i) ctxs[i]) := by
  have hfail := failureOf_buildConfigs fresh cs
  refine ⟨?_, fun f => ?_, fun ctxs h => ?_⟩
  · -- it builds exactly when there is no problem at all
    rw [← failureOf_eq_none_iff, hfail, List.head?_eq_none_iff, configProblems_eq_nil_iff]
  · -- a failure is the first problem, found in the first description that has one
    rw [← failureOf_eq_some_iff, hfail, configProblems, head?_flatMap_eq_some]
    simp [List.getElem_zipIdx, List.head?_map, @eq_comm _ f]
  · -- one context per description, each built from its description
    have hall := (mapM_eq_ok_iff _ _ _).1 h
    have hlen := hall.length_eq
    simp only [List.length_zip, List.length_range, Nat.min_self] at hlen
    refine ⟨hlen.symm, fun i hi hi' => ContextConfig.built_of_build_eq_ok ?_⟩
    have hat := hall.get (i := i) (by simpa using hi) hi'
    simp only [List.get_eq_getElem, List.getElem_zip, List.getElem_range] at hat
    cases hb : cs[i].build (fresh i) <;> rw [hb] at hat <;> simp at hat
    rw [hat]

/-- The second description lacks a timeout and has a key cap without a key template: the missing
timeout is reported, under the description's position and name. -/
example :
    (failureOf (buildConfigs (fun _ => Uuid.nil)
        [{ name := "a", conditions := { timeout := 5 } }, { name := "b", maxKeys := 1 }])).map
      Failure.message = some "context 1 (b): conditions: timeout must be positive" := by
  decide

end Windowing
