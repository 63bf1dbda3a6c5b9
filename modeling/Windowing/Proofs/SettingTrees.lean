import Mathlib
import Windowing.Settings
import Windowing.Proofs.ActionRendering

set_option autoImplicit false

/-! # Setting trees

A settings layer is a tree of entries keyed by the parts of dotted keys. This module says what
a tree holds at a path (`searchPath`) after each way of building or combining trees: setting
an entry, placing a value at a path (`insertPath`, and `unflatten` for a whole layer), and
merging a layer over the settings so far (`mergeEntries`). It also says where the key paths of
a tree come from (`entryPaths`), since reading a setting by its dotted key (`lookupKey`) goes
through them.

Main statements:
* `searchPath_unflatten`: in a layer made from values at keys of which none lies above
  another, the value at a path that each key equals or stands apart from is the last one
  given for it; `wayOpen_unflatten` and `entryPaths_unflatten` say the layer holds nothing
  else on the way to it.
* `searchPath_mergeEntries`: merging a layer that keeps the way to a path open, the value at
  the path is the layer's, merged onto the one below when both are maps.
* `lookupKey_eq`: when no key path of a tree spells a key another way, reading that key gives
  the value at its parts, with a null read as nothing. -/

namespace Windowing

/-! ## Dotted keys -/

/-- No part of a split holds the character split on. -/
theorem not_mem_of_mem_splitOn (a : Char) :
    ∀ (xs : List Char), ∀ l ∈ xs.splitOn a, a ∉ l
  | [] => by simp [List.splitOn_nil]
  | x :: xs => by
    rw [List.splitOn_cons_eq_if_modifyHead]
    by_cases hx : x = a
    · -- the character itself starts a new part
      simp only [hx, beq_self_eq_true, if_true, List.mem_cons]
      rintro l (rfl | hl)
      · simp
      · exact not_mem_of_mem_splitOn a xs l hl
    · -- any other character joins the first part
      have hne : (x == a) = false := beq_eq_false_iff_ne.2 hx
      rw [if_neg (by simp [hne])]
      obtain ⟨h, t, ht⟩ := List.exists_cons_of_ne_nil (List.splitOn_ne_nil a xs)
      rw [ht, List.modifyHead_cons]
      intro l hl
      rcases List.mem_cons.1 hl with rfl | hl
      · have hh := not_mem_of_mem_splitOn a xs h (ht ▸ List.mem_cons_self ..)
        simp [hh, Ne.symm hx]
      · exact not_mem_of_mem_splitOn a xs l (ht ▸ List.mem_cons_of_mem _ hl)

/-- A key has at least one part. -/
theorem keyParts_ne_nil (key : String) : keyParts key ≠ [] := by
  simp [keyParts, List.splitOn_ne_nil]

/-- No part of a key holds a dot. -/
theorem dot_not_mem_of_mem_keyParts {key part : String} (h : part ∈ keyParts key) :
    '.' ∉ part.toList := by
  obtain ⟨l, hl, rfl⟩ := List.mem_map.1 h
  rw [String.toList_ofList]
  exact not_mem_of_mem_splitOn '.' _ l hl

/-- Joining a key's parts with dots gives the key back. -/
theorem intercalate_keyParts (key : String) : ".".intercalate (keyParts key) = key := by
  rw [← String.toList_inj, String.toList_intercalate, keyParts, List.map_map]
  have hid : (String.toList ∘ String.ofList) = id := funext fun _ => String.toList_ofList
  rw [hid, List.map_id]
  exact List.intercalate_splitOn '.'

/-- Parts without dots, joined with dots, split back into themselves. -/
theorem keyParts_intercalate {ps : List String} (hne : ps ≠ [])
    (h : ∀ p ∈ ps, '.' ∉ p.toList) : keyParts (".".intercalate ps) = ps := by
  have hparts : ∀ l ∈ ps.map String.toList, '.' ∉ l := by
    simp only [List.mem_map]
    rintro l ⟨p, hp, rfl⟩
    exact h p hp
  rw [keyParts, String.toList_intercalate]
  show ((['.'].intercalate (ps.map String.toList)).splitOn '.').map String.ofList = ps
  rw [List.splitOn_intercalate '.' hparts (by simpa using hne), List.map_map]
  have hid : (String.ofList ∘ String.toList) = id := funext fun _ => String.ofList_toList
  rw [hid, List.map_id]

/-- A path of parts without dots spells a key only as that key's parts. -/
theorem eq_keyParts_of_intercalate {ps : List String} {key : String} (hne : ps ≠ [])
    (h : ∀ p ∈ ps, '.' ∉ p.toList) (hkey : ".".intercalate ps = key) : ps = keyParts key := by
  rw [← hkey, keyParts_intercalate hne h]

/-! ## Entries -/

/-- A key that is not among the keys of the entries finds nothing. -/
theorem lookup_eq_none_of_not_mem {es : SettingEntries} {k : String}
    (h : k ∉ es.map Prod.fst) : es.lookup k = none := by
  rw [List.lookup_eq_none_iff]
  intro e he
  simpa using fun hk : k = e.1 => h (List.mem_map.2 ⟨e, he, hk.symm⟩)

/-- A key no entry has is not among the keys. -/
theorem not_mem_keys_of_any_eq_false {es : SettingEntries} {k : String}
    (h : es.any (·.1 == k) = false) : k ∉ es.map Prod.fst := by
  intro hk
  obtain ⟨e, he, rfl⟩ := List.mem_map.1 hk
  have hself := List.any_eq_false.1 h e he
  simp at hself

/-- Replacing the entries under one key leaves the lookup of any other key as it was. -/
theorem lookup_map_setKey_of_ne (es : SettingEntries) {k j : String} (t : SettingTree)
    (hj : j ≠ k) : (es.map fun e => if e.1 == k then (k, t) else e).lookup j = es.lookup j := by
  simp only [beq_iff_eq]
  induction es with
  | nil => rfl
  | cons e rest ih =>
    obtain ⟨a, b⟩ := e
    by_cases ha : a = k
    · subst ha
      have hja : (j == a) = false := beq_eq_false_iff_ne.2 hj
      simp [List.lookup_cons, hja, ih]
    · rw [List.map_cons, if_neg ha, List.lookup_cons, List.lookup_cons, ih]

/-- Replacing the entries under a key that is there, the lookup of that key finds the new
value. -/
theorem lookup_map_setKey_self (es : SettingEntries) {k : String} (t : SettingTree)
    (h : es.any (·.1 == k) = true) :
    (es.map fun e => if e.1 == k then (k, t) else e).lookup k = some t := by
  simp only [beq_iff_eq]
  induction es with
  | nil => simp at h
  | cons e rest ih =>
    obtain ⟨a, b⟩ := e
    by_cases ha : a = k
    · subst ha
      simp
    · have hka : (k == a) = false := beq_eq_false_iff_ne.2 (Ne.symm ha)
      have hrest : rest.any (·.1 == k) = true := by
        simpa [beq_eq_false_iff_ne.2 ha] using h
      rw [List.map_cons, if_neg ha, List.lookup_cons, hka, ih hrest]

/-- After setting a key, looking it up finds the value set; other keys are as they were. -/
theorem lookup_setEntry (es : SettingEntries) (k j : String) (t : SettingTree) :
    (setEntry es k t).lookup j = if j = k then some t else es.lookup j := by
  unfold setEntry
  split
  case isTrue hany =>
    by_cases hj : j = k
    · subst hj
      rw [if_pos rfl]
      exact lookup_map_setKey_self es t hany
    · rw [if_neg hj]
      exact lookup_map_setKey_of_ne es t hj
  case isFalse hnone =>
    -- the key is new: it goes at the end
    rw [List.lookup_append]
    by_cases hj : j = k
    · subst hj
      simp [lookup_eq_none_of_not_mem (not_mem_keys_of_any_eq_false (Bool.eq_false_iff.2 hnone))]
    · have hne : (j == k) = false := beq_eq_false_iff_ne.2 hj
      simp [hj, List.lookup_cons, hne]

/-- The keys after setting one: the same keys, with the key added at the end if it is new. -/
theorem keys_setEntry (es : SettingEntries) (k : String) (t : SettingTree) :
    (setEntry es k t).map Prod.fst =
      if es.any (·.1 == k) then es.map Prod.fst else es.map Prod.fst ++ [k] := by
  unfold setEntry
  split
  · rw [List.map_map]
    congr 1
    funext e
    by_cases he : e.1 = k <;> simp [he]
  · simp

/-- Setting a key keeps every key given at most once. -/
theorem count_keys_setEntry_le (es : SettingEntries) (k j : String) (t : SettingTree)
    (h : (es.map Prod.fst).count j ≤ 1) : ((setEntry es k t).map Prod.fst).count j ≤ 1 := by
  rw [keys_setEntry]
  split
  · exact h
  case isFalse hnone =>
    rw [List.count_append]
    by_cases hj : j = k
    · subst hj
      have hzero : (es.map Prod.fst).count j = 0 :=
        List.count_eq_zero_of_not_mem (not_mem_keys_of_any_eq_false (Bool.eq_false_iff.2 hnone))
      simp [hzero]
    · simp [Ne.symm hj, h]

/-- Setting a key leaves entries behind. -/
theorem setEntry_ne_nil (es : SettingEntries) (k : String) (t : SettingTree) :
    setEntry es k t ≠ [] := by
  unfold setEntry
  split
  case isTrue hany =>
    intro h
    rw [List.map_eq_nil_iff] at h
    subst h
    simp at hany
  case isFalse => simp

/-- An entry found by its key is one of the entries. -/
theorem mem_of_lookup_eq_some {es : SettingEntries} {k : String} {t : SettingTree}
    (h : es.lookup k = some t) : (k, t) ∈ es := by
  obtain ⟨l₁, l₂, rfl, -⟩ := List.lookup_eq_some_iff.1 h
  simp

/-! ## The tree at a path -/

/-- The tree at a path below a tree: the tree itself at the empty path, and nothing below a
value. -/
def SettingTree.descend : SettingTree → List String → Option SettingTree
  | t, [] => some t
  | .node es, k :: rest => searchPath es (k :: rest)
  | .leaf _, _ :: _ => none

/-- The tree at a path of entries: the tree under the path's first key, then below it. -/
theorem searchPath_cons (es : SettingEntries) (k : String) (rest : List String) :
    searchPath es (k :: rest) = (es.lookup k).bind (·.descend rest) := by
  cases rest with
  | nil => cases h : es.lookup k <;> simp [searchPath, h, SettingTree.descend]
  | cons k' rest =>
    cases h : es.lookup k with
    | none => simp [searchPath, h]
    | some t => cases t <;> simp [searchPath, h, SettingTree.descend]

@[simp] theorem searchPath_nil_entries (p : List String) : searchPath [] p = none := by
  cases p with
  | nil => rfl
  | cons k rest => simp [searchPath_cons]

/-- Setting a key changes the tree at paths through that key only. -/
theorem searchPath_setEntry (es : SettingEntries) (k : String) (t : SettingTree) (j : String)
    (rest : List String) :
    searchPath (setEntry es k t) (j :: rest) =
      if j = k then t.descend rest else searchPath es (j :: rest) := by
  rw [searchPath_cons, searchPath_cons, lookup_setEntry]
  split <;> simp

/-- The entries of the map under a key; none when the key holds no map. -/
def subEntries (es : SettingEntries) (k : String) : SettingEntries :=
  match es.lookup k with
  | some (.node sub) => sub
  | _ => []

/-- Below a key that holds no value, the tree at a path of the entries under it is the tree at
that path after the key. -/
theorem searchPath_subEntries {es : SettingEntries} {k : String}
    (hk : ∀ v, es.lookup k ≠ some (.leaf v)) (r : List String) (hr : r ≠ []) :
    searchPath (subEntries es k) r = searchPath es (k :: r) := by
  obtain ⟨j, r', rfl⟩ := List.exists_cons_of_ne_nil hr
  rw [searchPath_cons es k]
  unfold subEntries
  cases h : es.lookup k with
  | none => simp
  | some u =>
    cases u with
    | leaf v => exact absurd h (hk v)
    | node sub => simp [SettingTree.descend]

/-! ## Placing a value at a path -/

/-- Nothing but maps stands on the way to a path: no proper prefix of it holds a value. -/
def Clear (es : SettingEntries) (q : List String) : Prop :=
  ∀ r, r <+: q → r ≠ q → ∀ v, searchPath es r ≠ some (.leaf v)

/-- On a clear way, the first key holds no value. -/
theorem Clear.lookup_ne {es : SettingEntries} {k : String} {rest : List String}
    (hc : Clear es (k :: rest)) (hrest : rest ≠ []) (v : SettingValue) :
    es.lookup k ≠ some (.leaf v) := by
  intro h
  refine hc [k] (by simp) (by simpa using hrest.symm) v ?_
  simpa [searchPath] using h

/-- The way below the first key is clear too. -/
theorem Clear.sub {es : SettingEntries} {k : String} {rest : List String}
    (hc : Clear es (k :: rest)) (hrest : rest ≠ []) : Clear (subEntries es k) rest := by
  intro r hr hne v
  cases r with
  | nil => simp [searchPath]
  | cons j r' =>
    rw [searchPath_subEntries (hc.lookup_ne hrest) _ (List.cons_ne_nil j r')]
    exact hc (k :: j :: r') (List.cons_prefix_cons.2 ⟨rfl, hr⟩) (by simpa using hne) v

/-- Placing a value on a clear way of two or more keys: the first key gets a map with the
value placed below it. -/
theorem insertPath_cons_cons {es : SettingEntries} {k k' : String} {rest : List String}
    {t : SettingTree} (hc : Clear es (k :: k' :: rest)) :
    insertPath es (k :: k' :: rest) t =
      setEntry es k (.node (insertPath (subEntries es k) (k' :: rest) t)) := by
  have hk := hc.lookup_ne (List.cons_ne_nil k' rest)
  conv_lhs => unfold insertPath
  unfold subEntries
  cases h : es.lookup k with
  | none => rfl
  | some u =>
    cases u with
    | leaf v => exact absurd h (hk v)
    | node sub => rfl

/-- A value placed on a clear way is found at its path. -/
theorem searchPath_insertPath_self (t : SettingTree) :
    ∀ (q : List String) (es : SettingEntries), q ≠ [] → Clear es q →
      searchPath (insertPath es q t) q = some t
  | [], _, hq, _ => absurd rfl hq
  | [k], es, _, _ => by simp [insertPath, searchPath_setEntry, SettingTree.descend]
  | k :: k' :: rest, es, _, hc => by
    rw [insertPath_cons_cons hc, searchPath_setEntry, if_pos rfl]
    exact searchPath_insertPath_self t (k' :: rest) _ (List.cons_ne_nil _ _)
      (hc.sub (List.cons_ne_nil _ _))

/-- Two paths stand apart when neither is a prefix of the other. -/
def Apart (q r : List String) : Prop := ¬ q <+: r ∧ ¬ r <+: q

/-- Paths through one key stand apart as their rests do. -/
theorem apart_cons_cons {k j : String} {q r : List String} (h : Apart (k :: q) (j :: r))
    (hkj : j = k) : Apart q r := by
  subst hkj
  exact ⟨fun hp => h.1 (List.cons_prefix_cons.2 ⟨rfl, hp⟩),
    fun hp => h.2 (List.cons_prefix_cons.2 ⟨rfl, hp⟩)⟩

/-- Placing a value on a clear way changes nothing at a path apart from it. -/
theorem searchPath_insertPath_of_apart (t : SettingTree) :
    ∀ (q r : List String) (es : SettingEntries), Apart q r → Clear es q →
      searchPath (insertPath es q t) r = searchPath es r
  | [], _, _, h, _ => absurd (List.nil_prefix) h.1
  | _, [], _, h, _ => absurd (List.nil_prefix) h.2
  | [k], j :: r, es, h, _ => by
    rw [insertPath, searchPath_setEntry]
    by_cases hj : j = k
    · subst hj
      exact absurd (List.cons_prefix_cons.2 ⟨rfl, List.nil_prefix⟩) h.1
    · rw [if_neg hj]
  | k :: k' :: rest, j :: r, es, h, hc => by
    rw [insertPath_cons_cons hc, searchPath_setEntry]
    by_cases hj : j = k
    · subst hj
      rw [if_pos rfl]
      have hr : Apart (k' :: rest) r := apart_cons_cons h rfl
      cases r with
      | nil => exact absurd List.nil_prefix hr.2
      | cons j' r' =>
        rw [SettingTree.descend, searchPath_insertPath_of_apart t (k' :: rest) (j' :: r') _ hr
          (hc.sub (List.cons_ne_nil _ _)), searchPath_subEntries
          (hc.lookup_ne (List.cons_ne_nil _ _)) _ (List.cons_ne_nil _ _)]
    · rw [if_neg hj]

/-- Placing a value that is no map on a clear way: a value found afterwards is the one placed,
at its path, or was there before. -/
theorem searchPath_insertPath_leaf (w : SettingValue) :
    ∀ (q r : List String) (es : SettingEntries) (v : SettingValue), Clear es q →
      searchPath (insertPath es q (.leaf w)) r = some (.leaf v) →
        r = q ∨ searchPath es r = some (.leaf v)
  | [], r, es, v, _, h => by simpa [insertPath] using Or.inr h
  | _, [], _, _, _, h => by simp [searchPath] at h
  | [k], j :: r, es, v, _, h => by
    rw [insertPath, searchPath_setEntry] at h
    by_cases hj : j = k
    · subst hj
      rw [if_pos rfl] at h
      cases r with
      | nil => exact Or.inl rfl
      | cons _ _ => simp [SettingTree.descend] at h
    · rw [if_neg hj] at h
      exact Or.inr h
  | k :: k' :: rest, j :: r, es, v, hc, h => by
    rw [insertPath_cons_cons hc, searchPath_setEntry] at h
    by_cases hj : j = k
    · subst hj
      rw [if_pos rfl] at h
      cases r with
      | nil => simp [SettingTree.descend] at h
      | cons j' r' =>
        rw [SettingTree.descend] at h
        rcases searchPath_insertPath_leaf w (k' :: rest) (j' :: r') _ v
            (hc.sub (List.cons_ne_nil _ _)) h with heq | hold
        · exact Or.inl (by rw [heq])
        · rw [searchPath_subEntries (hc.lookup_ne (List.cons_ne_nil _ _)) _
            (List.cons_ne_nil _ _)] at hold
          exact Or.inr hold
    · rw [if_neg hj] at h
      exact Or.inr h

/-- A layer keeps the way to a path open: along it each key is given at most once, and each key
before the last holds a map wherever it is given. -/
def WayOpen : SettingEntries → List String → Prop
  | _, [] => True
  | es, [k] => (es.map Prod.fst).count k ≤ 1
  | es, k :: k' :: rest => (es.map Prod.fst).count k ≤ 1 ∧
      ∀ u, es.lookup k = some u → ∃ sub, u = .node sub ∧ WayOpen sub (k' :: rest)

/-- An empty layer keeps every way open. -/
theorem wayOpen_nil : ∀ p : List String, WayOpen [] p
  | [] => trivial
  | [_] => by simp [WayOpen]
  | _ :: _ :: _ => by simp [WayOpen]

/-- The way below the first key stays open in the entries under it. -/
theorem WayOpen.sub {es : SettingEntries} {k k' : String} {rest : List String}
    (h : WayOpen es (k :: k' :: rest)) : WayOpen (subEntries es k) (k' :: rest) := by
  unfold subEntries
  cases hk : es.lookup k with
  | none => exact wayOpen_nil _
  | some u =>
    obtain ⟨sub, rfl, hsub⟩ := h.2 u hk
    exact hsub

/-- Placing a value at a path equal to or apart from an open way keeps it open. -/
theorem wayOpen_insertPath (t : SettingTree) :
    ∀ (q p : List String) (es : SettingEntries), WayOpen es p → Clear es q →
      (q = p ∨ Apart q p) → WayOpen (insertPath es q t) p
  | [], _, _, h, _, _ => by simpa [insertPath] using h
  | _ :: _, [], _, _, _, _ => trivial
  | [k], [j], es, h, _, _ => count_keys_setEntry_le es k j t h
  | [k], j :: j' :: p, es, h, _, hqp => by
    refine ⟨count_keys_setEntry_le es k j t h.1, fun u hu => ?_⟩
    rw [insertPath, lookup_setEntry] at hu
    by_cases hj : j = k
    · -- the value would sit on the way: ruled out
      subst hj
      have hpre : [j] <+: j :: j' :: p := List.cons_prefix_cons.2 ⟨rfl, List.nil_prefix⟩
      rcases hqp with hqp | hqp
      · simp at hqp
      · exact absurd hpre hqp.1
    · rw [if_neg hj] at hu
      exact h.2 u hu
  | k :: k' :: rest, [j], es, h, hc, _ => by
    rw [insertPath_cons_cons hc]
    exact count_keys_setEntry_le es k j _ h
  | k :: k' :: rest, j :: j' :: p, es, h, hc, hqp => by
    rw [insertPath_cons_cons hc]
    refine ⟨count_keys_setEntry_le es k j _ h.1, fun u hu => ?_⟩
    rw [lookup_setEntry] at hu
    by_cases hj : j = k
    · subst hj
      rw [if_pos rfl] at hu
      cases hu
      have hrel : k' :: rest = j' :: p ∨ Apart (k' :: rest) (j' :: p) := by
        rcases hqp with hqp | hqp
        · exact Or.inl (List.cons.inj hqp).2
        · exact Or.inr (apart_cons_cons hqp rfl)
      exact ⟨_, rfl, wayOpen_insertPath t (k' :: rest) (j' :: p) _ h.sub
        (hc.sub (List.cons_ne_nil _ _)) hrel⟩
    · rw [if_neg hj] at hu
      exact h.2 u hu

/-! ## Key paths -/

/-- The key paths below entries: for each entry, its key before each path below its tree. -/
theorem entryPaths_eq_flatMap (es : SettingEntries) :
    entryPaths es = es.flatMap fun e => e.2.leafPaths.map (e.1 :: ·) := by
  induction es with
  | nil => simp [entryPaths]
  | cons e rest ih =>
    obtain ⟨k, v⟩ := e
    simp [entryPaths, ih]

theorem mem_entryPaths_iff {es : SettingEntries} {lp : List String} :
    lp ∈ entryPaths es ↔ ∃ e ∈ es, ∃ lp' ∈ e.2.leafPaths, lp = e.1 :: lp' := by
  rw [entryPaths_eq_flatMap, List.mem_flatMap]
  simp only [List.mem_map]
  constructor
  · rintro ⟨e, he, lp', hlp', rfl⟩
    exact ⟨e, he, lp', hlp', rfl⟩
  · rintro ⟨e, he, lp', hlp', rfl⟩
    exact ⟨e, he, lp', hlp', rfl⟩

/-- An entry after setting a key is one that was there, or the one set. -/
theorem mem_setEntry {es : SettingEntries} {k : String} {t : SettingTree}
    {e : String × SettingTree} (h : e ∈ setEntry es k t) : e ∈ es ∨ e = (k, t) := by
  unfold setEntry at h
  split at h
  · obtain ⟨e', he', rfl⟩ := List.mem_map.1 h
    by_cases hk : e'.1 = k
    · simp [hk]
    · simp [hk, he']
  · simpa using h

/-- The key paths after setting a key: old ones, and the new tree's under the key. -/
theorem mem_entryPaths_setEntry {es : SettingEntries} {k : String} {t : SettingTree}
    {lp : List String} (h : lp ∈ entryPaths (setEntry es k t)) :
    lp ∈ entryPaths es ∨ ∃ lp' ∈ t.leafPaths, lp = k :: lp' := by
  obtain ⟨e, he, lp', hlp', rfl⟩ := mem_entryPaths_iff.1 h
  rcases mem_setEntry he with he | rfl
  · exact Or.inl (mem_entryPaths_iff.2 ⟨e, he, lp', hlp', rfl⟩)
  · exact Or.inr ⟨lp', hlp', rfl⟩

/-- The paths below a map with entries are the entries' paths. -/
theorem leafPaths_node_of_ne_nil {es : SettingEntries} (h : es ≠ []) :
    (SettingTree.node es).leafPaths = entryPaths es := by
  obtain ⟨e, rest, rfl⟩ := List.exists_cons_of_ne_nil h
  rfl

/-- Placing a value on a clear way leaves entries behind. -/
theorem insertPath_ne_nil (t : SettingTree) :
    ∀ (q : List String) (es : SettingEntries), q ≠ [] → Clear es q → insertPath es q t ≠ []
  | [], _, hq, _ => absurd rfl hq
  | [k], es, _, _ => setEntry_ne_nil es k t
  | k :: k' :: rest, es, _, hc => by
    rw [insertPath_cons_cons hc]
    exact setEntry_ne_nil _ _ _

/-- Placing a value that is no map on a clear way adds its path and no other key path. -/
theorem entryPaths_insertPath_leaf (w : SettingValue) :
    ∀ (q : List String) (es : SettingEntries), q ≠ [] → Clear es q →
      ∀ lp ∈ entryPaths (insertPath es q (.leaf w)), lp ∈ entryPaths es ∨ lp = q
  | [], _, hq, _ => absurd rfl hq
  | [k], es, _, _ => by
    intro lp hlp
    rcases mem_entryPaths_setEntry hlp with h | ⟨lp', hlp', rfl⟩
    · exact Or.inl h
    · simp only [SettingTree.leafPaths, List.mem_singleton] at hlp'
      exact Or.inr (by rw [hlp'])
  | k :: k' :: rest, es, _, hc => by
    intro lp hlp
    rw [insertPath_cons_cons hc] at hlp
    rcases mem_entryPaths_setEntry hlp with h | ⟨lp', hlp', rfl⟩
    · exact Or.inl h
    · have hsub := hc.sub (List.cons_ne_nil _ _)
      rw [leafPaths_node_of_ne_nil (insertPath_ne_nil _ _ _ (List.cons_ne_nil _ _) hsub)]
        at hlp'
      rcases entryPaths_insertPath_leaf w (k' :: rest) _ (List.cons_ne_nil _ _) hsub lp' hlp'
        with hold | rfl
      · -- a path already under the key
        left
        unfold subEntries at hold
        cases hk : es.lookup k with
        | none => simp [hk, entryPaths] at hold
        | some u =>
          cases u with
          | leaf v => simp [hk, entryPaths] at hold
          | node sub =>
            rw [hk] at hold
            have hne : sub ≠ [] := by
              rintro rfl
              simp [entryPaths] at hold
            exact mem_entryPaths_iff.2 ⟨(k, .node sub), mem_of_lookup_eq_some hk, lp',
              by rw [leafPaths_node_of_ne_nil hne]; exact hold, rfl⟩
      · exact Or.inr rfl

/-- Every tree has a key path below it. -/
theorem leafPaths_ne_nil : ∀ t : SettingTree, t.leafPaths ≠ []
  | .leaf _ => by simp [SettingTree.leafPaths]
  | .node [] => by simp [SettingTree.leafPaths]
  | .node ((_, v) :: _) => by
    simp [SettingTree.leafPaths, entryPaths, leafPaths_ne_nil v]

/-- The keys of entries are the nonempty prefixes of their key paths. -/
theorem mem_keyPaths_iff {es : SettingEntries} {ps : List String} :
    ps ∈ keyPaths es ↔ ps ≠ [] ∧ ∃ lp ∈ entryPaths es, ps <+: lp := by
  simp only [keyPaths, List.mem_flatMap, List.mem_map, List.mem_range]
  constructor
  · rintro ⟨lp, hlp, i, hi, rfl⟩
    refine ⟨?_, lp, hlp, List.take_prefix _ _⟩
    rw [← List.length_pos_iff, List.length_take]
    omega
  · rintro ⟨hne, lp, hlp, hpre⟩
    have hlen := hpre.length_le
    have hpos := List.length_pos_iff.2 hne
    refine ⟨lp, hlp, ps.length - 1, by omega, ?_⟩
    rw [Nat.sub_add_cancel hpos]
    exact (List.prefix_iff_eq_take.1 hpre).symm

/-- A path that holds a tree is a key of the entries. -/
theorem mem_keyPaths_of_searchPath :
    ∀ (es : SettingEntries) (p : List String) (t : SettingTree),
      searchPath es p = some t → p ∈ keyPaths es
  | _, [], _, h => by simp [searchPath] at h
  | es, [k], t, h => by
    obtain ⟨lp', hlp'⟩ := List.exists_mem_of_ne_nil _ (leafPaths_ne_nil t)
    refine mem_keyPaths_iff.2 ⟨List.cons_ne_nil _ _, k :: lp', ?_, ?_⟩
    · exact mem_entryPaths_iff.2 ⟨(k, t), mem_of_lookup_eq_some h, lp', hlp', rfl⟩
    · exact List.cons_prefix_cons.2 ⟨rfl, List.nil_prefix⟩
  | es, k :: k' :: rest, t, h => by
    rw [searchPath_cons] at h
    obtain ⟨u, hu, hdesc⟩ := Option.bind_eq_some_iff.1 h
    cases u with
    | leaf v => simp [SettingTree.descend] at hdesc
    | node sub =>
      -- below the key, the path is a key of the map's entries
      obtain ⟨-, lp, hlp, hpre⟩ := mem_keyPaths_iff.1 (mem_keyPaths_of_searchPath sub _ t hdesc)
      have hsub : sub ≠ [] := by
        rintro rfl
        simp [entryPaths] at hlp
      refine mem_keyPaths_iff.2 ⟨List.cons_ne_nil _ _, k :: lp, ?_, ?_⟩
      · refine mem_entryPaths_iff.2 ⟨(k, .node sub), mem_of_lookup_eq_some hu, lp, ?_, rfl⟩
        rw [leafPaths_node_of_ne_nil hsub]
        exact hlp
      · exact List.cons_prefix_cons.2 ⟨rfl, hpre⟩

/-- No key of the entries spells `key` other than by its parts. -/
def NoAlias (es : SettingEntries) (key : String) : Prop :=
  ∀ ps ∈ keyPaths es, ".".intercalate ps = key → ps = keyParts key

/-- When no key spells it another way, reading a dotted key gives the tree at its parts, with
a null read as nothing. -/
theorem lookupKey_eq {es : SettingEntries} {key : String} (h : NoAlias es key) :
    lookupKey es key = unlessNull (searchPath es (keyParts key)) := by
  unfold lookupKey
  cases hf : (keyPaths es).find? (fun ps => ".".intercalate ps == key) with
  | none =>
    -- the parts hold nothing, or they would be found
    cases hs : searchPath es (keyParts key) with
    | none => rfl
    | some t =>
      have hmem := mem_keyPaths_of_searchPath es _ t hs
      have := List.find?_eq_none.1 hf _ hmem
      simp [intercalate_keyParts] at this
  | some ps =>
    have hps := List.find?_some hf
    rw [h ps (List.mem_of_find?_eq_some hf) (by simpa using hps)]

/-! ## Layers from dotted keys -/

instance (q r : List String) : Decidable (Apart q r) :=
  inferInstanceAs (Decidable (¬ q <+: r ∧ ¬ r <+: q))

/-- Two dotted keys are one key, or neither lies above the other. -/
def Unnested (a b : String) : Prop := a = b ∨ Apart (keyParts a) (keyParts b)

instance (a b : String) : Decidable (Unnested a b) :=
  inferInstanceAs (Decidable (a = b ∨ _))

/-- Values at dotted keys that build a layer without passing over a value: none is a map, and
no key lies above another. -/
structure Flat (pairs : List (String × SettingTree)) : Prop where
  leaf : ∀ p ∈ pairs, ∃ w, p.2 = .leaf w
  unnested : ∀ a ∈ pairs, ∀ b ∈ pairs, Unnested a.1 b.1

theorem Flat.init {pairs : List (String × SettingTree)} {p : String × SettingTree}
    (h : Flat (pairs ++ [p])) : Flat pairs :=
  ⟨fun q hq => h.leaf q (by simp [hq]),
    fun a ha b hb => h.unnested a (by simp [ha]) b (by simp [hb])⟩

/-- Building a layer places the values in turn. -/
theorem unflatten_append_singleton (pairs : List (String × SettingTree))
    (p : String × SettingTree) :
    unflatten (pairs ++ [p]) = insertPath (unflatten pairs) (keyParts p.1) p.2 := by
  simp [unflatten, List.foldl_append]

/-- When every value of a layer sits at the parts of a key not above `key`, nothing but maps
stands on the way to `key`. -/
theorem clear_of_leaves {es : SettingEntries} {pairs : List (String × SettingTree)} {key : String}
    (hleaves : ∀ r v, searchPath es r = some (.leaf v) → ∃ p ∈ pairs, keyParts p.1 = r)
    (hkey : ∀ p ∈ pairs, Unnested p.1 key) : Clear es (keyParts key) := by
  intro r hpre hne v hv
  obtain ⟨p, hp, rfl⟩ := hleaves r v hv
  rcases hkey p hp with heq | hapart
  · exact hne (by rw [heq])
  · exact hapart.1 hpre

/-- The values of a flat layer sit at the parts of its keys. -/
theorem leaves_unflatten {pairs : List (String × SettingTree)} (hflat : Flat pairs) :
    ∀ r v, searchPath (unflatten pairs) r = some (.leaf v) → ∃ p ∈ pairs, keyParts p.1 = r := by
  induction pairs using List.reverseRecOn with
  | nil => simp [unflatten]
  | append_singleton pairs p ih =>
    intro r v h
    have hold := ih hflat.init
    obtain ⟨w, hw⟩ := hflat.leaf p (by simp)
    have hclear : Clear (unflatten pairs) (keyParts p.1) :=
      clear_of_leaves hold fun q hq => hflat.unnested q (by simp [hq]) p (by simp)
    rw [unflatten_append_singleton, hw] at h
    rcases searchPath_insertPath_leaf w _ r _ v hclear h with rfl | h
    · exact ⟨p, by simp, rfl⟩
    · obtain ⟨q, hq, hqr⟩ := hold r v h
      exact ⟨q, by simp [hq], hqr⟩

/-- Each value of a flat layer is placed on a clear way. -/
theorem Flat.clear_last {pairs : List (String × SettingTree)} {p : String × SettingTree}
    (hflat : Flat (pairs ++ [p])) : Clear (unflatten pairs) (keyParts p.1) :=
  clear_of_leaves (leaves_unflatten hflat.init)
    fun q hq => hflat.unnested q (by simp [hq]) p (by simp)

/-- In a flat layer, the tree at the parts of a key that no key lies above or below is the last
value given for it. -/
theorem searchPath_unflatten {pairs : List (String × SettingTree)} (hflat : Flat pairs)
    {key : String} (hkey : ∀ p ∈ pairs, Unnested p.1 key) :
    searchPath (unflatten pairs) (keyParts key) = pairs.reverse.lookup key := by
  induction pairs using List.reverseRecOn with
  | nil => simp [unflatten]
  | append_singleton pairs p ih =>
    have hclear := hflat.clear_last
    rw [unflatten_append_singleton, List.reverse_append, List.reverse_singleton,
      List.singleton_append]
    obtain ⟨k, t⟩ := p
    rcases hkey (k, t) (by simp) with rfl | hapart
    · -- the last value for the key is this one
      rw [List.lookup_cons_self]
      exact searchPath_insertPath_self t _ _ (keyParts_ne_nil k) hclear
    · have hne : key ≠ k := fun h => by subst h; exact hapart.1 (List.prefix_refl _)
      rw [List.lookup_cons, beq_false_of_ne hne]
      rw [searchPath_insertPath_of_apart t _ _ _ hapart hclear]
      exact ih hflat.init fun q hq => hkey q (by simp [hq])

/-- A flat layer keeps the way to a key that no key lies above or below open. -/
theorem wayOpen_unflatten {pairs : List (String × SettingTree)} (hflat : Flat pairs)
    {key : String} (hkey : ∀ p ∈ pairs, Unnested p.1 key) :
    WayOpen (unflatten pairs) (keyParts key) := by
  induction pairs using List.reverseRecOn with
  | nil => exact wayOpen_nil _
  | append_singleton pairs p ih =>
    have hclear := hflat.clear_last
    rw [unflatten_append_singleton]
    refine wayOpen_insertPath _ _ _ _ (ih hflat.init fun q hq => hkey q (by simp [hq])) hclear ?_
    exact (hkey p (by simp)).imp (congrArg keyParts) id

/-- The key paths of a flat layer are the parts of its keys. -/
theorem entryPaths_unflatten {pairs : List (String × SettingTree)} (hflat : Flat pairs) :
    ∀ lp ∈ entryPaths (unflatten pairs), ∃ p ∈ pairs, lp = keyParts p.1 := by
  induction pairs using List.reverseRecOn with
  | nil => simp [unflatten, entryPaths]
  | append_singleton pairs p ih =>
    intro lp hlp
    have hclear := hflat.clear_last
    obtain ⟨w, hw⟩ := hflat.leaf p (by simp)
    rw [unflatten_append_singleton, hw] at hlp
    rcases entryPaths_insertPath_leaf w _ _ (keyParts_ne_nil _) hclear lp hlp with h | rfl
    · obtain ⟨q, hq, rfl⟩ := ih hflat.init lp h
      exact ⟨q, by simp [hq], rfl⟩
    · exact ⟨p, by simp, rfl⟩

/-- No key of a flat layer spells a key other than by its parts. -/
theorem noAlias_unflatten {pairs : List (String × SettingTree)} (hflat : Flat pairs)
    (key : String) : NoAlias (unflatten pairs) key := by
  intro ps hps hjoin
  obtain ⟨hne, lp, hlp, hpre⟩ := mem_keyPaths_iff.1 hps
  obtain ⟨p, -, rfl⟩ := entryPaths_unflatten hflat lp hlp
  exact eq_keyParts_of_intercalate hne
    (fun part hpart => dot_not_mem_of_mem_keyParts (hpre.subset hpart)) hjoin

/-! ## Merging a layer -/

/-- What a layer's tree at a path makes of the tree below it: the tree below when the layer has
nothing there, else the layer's tree merged onto it. -/
def mergeOver : Option SettingTree → Option SettingTree → Option SettingTree
  | none, d => d
  | some v, d => some (v.mergeOnto d)

/-- A value that is no map replaces what is below it. -/
theorem mergeOver_of_leaf {x : Option SettingTree} (hx : ∀ t, x = some t → ∃ v, t = .leaf v)
    (d : Option SettingTree) : mergeOver x d = x.or d := by
  cases x with
  | none => rfl
  | some t =>
    obtain ⟨v, rfl⟩ := hx _ rfl
    simp [mergeOver, SettingTree.mergeOnto]

/-- Merging a layer that gives a key at most once, the key holds the layer's tree merged onto
the one below. -/
theorem lookup_mergeEntries (k : String) :
    ∀ (vs ds : SettingEntries), (vs.map Prod.fst).count k ≤ 1 →
      (mergeEntries vs ds).lookup k = mergeOver (vs.lookup k) (ds.lookup k)
  | [], ds, _ => rfl
  | (j, v) :: rest, ds, hcount => by
    rw [mergeEntries]
    by_cases hj : k = j
    · subst hj
      -- the key is given once: the rest of the layer leaves it alone
      have hzero : (rest.map Prod.fst).count k = 0 := by
        simpa [List.count_cons] using hcount
      have hrest : rest.lookup k = none :=
        lookup_eq_none_of_not_mem (List.count_eq_zero.1 hzero)
      rw [lookup_mergeEntries k rest _ (by omega), hrest]
      simp [mergeOver, lookup_setEntry]
    · have hcount' : (rest.map Prod.fst).count k ≤ 1 := by
        simpa [List.count_cons, Ne.symm hj] using hcount
      rw [lookup_mergeEntries k rest _ hcount', lookup_setEntry, if_neg hj, List.lookup_cons,
        beq_false_of_ne hj]

@[simp] theorem mergeOnto_none (v : SettingTree) : v.mergeOnto none = v := by
  cases v <;> simp [SettingTree.mergeOnto]

@[simp] theorem mergeOver_some (v : SettingTree) (d : Option SettingTree) :
    mergeOver (some v) d = some (v.mergeOnto d) := rfl

@[simp] theorem mergeOver_none (x : Option SettingTree) : mergeOver x none = x := by
  cases x <;> simp [mergeOver]

/-- Merging a layer that keeps the way to a path open, the path holds the layer's tree there
merged onto the one below. -/
theorem searchPath_mergeEntries :
    ∀ (p : List String) (vs ds : SettingEntries), WayOpen vs p →
      searchPath (mergeEntries vs ds) p = mergeOver (searchPath vs p) (searchPath ds p)
  | [], _, _, _ => rfl
  | [k], vs, ds, h => lookup_mergeEntries k vs ds h
  | k :: k' :: rest, vs, ds, h => by
    rw [searchPath_cons, searchPath_cons vs, searchPath_cons ds, lookup_mergeEntries k vs ds h.1]
    cases hv : vs.lookup k with
    | none => rfl
    | some u =>
      -- the layer holds a map at the key: it merges onto a map below, else replaces it
      obtain ⟨sub, rfl, hsub⟩ := h.2 _ hv
      cases hd : ds.lookup k with
      | none => simp [SettingTree.descend]
      | some d =>
        cases d with
        | leaf w => simp [SettingTree.mergeOnto, SettingTree.descend]
        | node dsub =>
          simp only [mergeOver_some, SettingTree.mergeOnto, Option.bind_some, SettingTree.descend]
          exact searchPath_mergeEntries (k' :: rest) sub dsub hsub

@[simp] theorem mergeEntries_nil_left (ds : SettingEntries) : mergeEntries [] ds = ds := rfl

/-- Merging onto entries leaves entries behind. -/
theorem mergeEntries_ne_nil_of_dst :
    ∀ (vs ds : SettingEntries), ds ≠ [] → mergeEntries vs ds ≠ []
  | [], _, h => h
  | (k, v) :: rest, ds, _ => by
    rw [mergeEntries]
    exact mergeEntries_ne_nil_of_dst rest _ (setEntry_ne_nil _ _ _)

/-- Merging a layer with entries leaves entries behind. -/
theorem mergeEntries_ne_nil {vs : SettingEntries} (ds : SettingEntries) (h : vs ≠ []) :
    mergeEntries vs ds ≠ [] := by
  obtain ⟨⟨k, v⟩, rest, rfl⟩ := List.exists_cons_of_ne_nil h
  rw [mergeEntries]
  exact mergeEntries_ne_nil_of_dst rest _ (setEntry_ne_nil _ _ _)

theorem mem_entryPaths_cons_of_mem_leafPaths {k : String} {v : SettingTree} {rest : SettingEntries}
    {lp : List String} (h : lp ∈ v.leafPaths) : k :: lp ∈ entryPaths ((k, v) :: rest) := by
  simp [entryPaths, h]

theorem mem_entryPaths_cons_of_mem {e : String × SettingTree} {rest : SettingEntries}
    {lp : List String} (h : lp ∈ entryPaths rest) : lp ∈ entryPaths (e :: rest) := by
  obtain ⟨k, v⟩ := e
  simp [entryPaths, h]

/-- The key paths of a map with entries include those of its entries. -/
theorem mem_leafPaths_node {es : SettingEntries} {lp : List String}
    (h : lp ∈ entryPaths es) : lp ∈ (SettingTree.node es).leafPaths := by
  have hne : es ≠ [] := by
    rintro rfl
    simp [entryPaths] at h
  rwa [leafPaths_node_of_ne_nil hne]

mutual

/-- The key paths below a tree merged onto another come from one of the two. -/
theorem leafPaths_mergeOnto : ∀ (v : SettingTree) (d : Option SettingTree),
    ∀ lp ∈ (v.mergeOnto d).leafPaths, lp ∈ v.leafPaths ∨ ∃ t, d = some t ∧ lp ∈ t.leafPaths
  | .leaf _, _, _, h => Or.inl (by simpa [SettingTree.mergeOnto] using h)
  | .node _, none, _, h => Or.inl (by simpa using h)
  | .node _, some (.leaf _), _, h => Or.inl (by simpa [SettingTree.mergeOnto] using h)
  | .node vs, some (.node ds), lp, h => by
    rw [SettingTree.mergeOnto] at h
    by_cases hvs : vs = []
    · -- an empty map leaves the map below as it was
      subst hvs
      exact Or.inr ⟨_, rfl, by simpa [mergeEntries] using h⟩
    · rw [leafPaths_node_of_ne_nil (mergeEntries_ne_nil ds hvs)] at h
      rcases entryPaths_mergeEntries vs ds lp h with h | h
      · exact Or.inl (mem_leafPaths_node h)
      · exact Or.inr ⟨_, rfl, mem_leafPaths_node h⟩

/-- The key paths of a layer merged onto entries come from the layer or the entries. -/
theorem entryPaths_mergeEntries : ∀ (vs ds : SettingEntries),
    ∀ lp ∈ entryPaths (mergeEntries vs ds), lp ∈ entryPaths vs ∨ lp ∈ entryPaths ds
  | [], _, _, h => Or.inr h
  | (k, v) :: rest, ds, lp, h => by
    rw [mergeEntries] at h
    rcases entryPaths_mergeEntries rest _ lp h with h | h
    · exact Or.inl (mem_entryPaths_cons_of_mem h)
    · rcases mem_entryPaths_setEntry h with h | ⟨lp', hlp', rfl⟩
      · exact Or.inr h
      · rcases leafPaths_mergeOnto v _ lp' hlp' with h | ⟨t, ht, h⟩
        · exact Or.inl (mem_entryPaths_cons_of_mem_leafPaths h)
        · exact Or.inr (mem_entryPaths_iff.2 ⟨(k, t), mem_of_lookup_eq_some ht, lp', h, rfl⟩)

end

/-- A key of a layer merged onto entries is a key of the layer or of the entries. -/
theorem keyPaths_mergeEntries {vs ds : SettingEntries} {ps : List String}
    (h : ps ∈ keyPaths (mergeEntries vs ds)) : ps ∈ keyPaths vs ∨ ps ∈ keyPaths ds := by
  obtain ⟨hne, lp, hlp, hpre⟩ := mem_keyPaths_iff.1 h
  rcases entryPaths_mergeEntries vs ds lp hlp with h | h
  · exact Or.inl (mem_keyPaths_iff.2 ⟨hne, lp, h, hpre⟩)
  · exact Or.inr (mem_keyPaths_iff.2 ⟨hne, lp, h, hpre⟩)

/-- Merging keeps a key spelled only by its parts. -/
theorem NoAlias.mergeEntries {vs ds : SettingEntries} {key : String} (hvs : NoAlias vs key)
    (hds : NoAlias ds key) : NoAlias (mergeEntries vs ds) key := by
  intro ps hps
  rcases keyPaths_mergeEntries hps with h | h
  · exact hvs ps h
  · exact hds ps h

/-- A key whose parts hold a tree is one of the keys of the entries. -/
theorem hasKey_of_searchPath {es : SettingEntries} {key : String} {t : SettingTree}
    (h : searchPath es (keyParts key) = some t) : hasKey es key = true := by
  rw [hasKey, List.any_eq_true]
  exact ⟨_, mem_keyPaths_of_searchPath es _ t h, by simp [intercalate_keyParts]⟩

/-! ## A layer holding a setting -/

/-- A layer holds a key as a setting: the way to its parts is open, what stands there is no
map, and no key of the layer spells it another way. -/
structure HoldsSetting (es : SettingEntries) (key : String) : Prop where
  way : WayOpen es (keyParts key)
  leaf : ∀ t, searchPath es (keyParts key) = some t → ∃ v, t = .leaf v
  noAlias : NoAlias es key

/-- An empty layer holds every key, with nothing there. -/
theorem holdsSetting_nil (key : String) : HoldsSetting [] key :=
  ⟨wayOpen_nil _, by simp, by simp [NoAlias, keyPaths, entryPaths]⟩

/-- A flat layer holds each key that no key of it lies above or below. -/
theorem Flat.holdsSetting {pairs : List (String × SettingTree)} (hflat : Flat pairs)
    {key : String} (hkey : ∀ p ∈ pairs, Unnested p.1 key) : HoldsSetting (unflatten pairs) key where
  way := wayOpen_unflatten hflat hkey
  leaf t ht := by
    rw [searchPath_unflatten hflat hkey] at ht
    exact hflat.leaf (key, t) (List.mem_reverse.1 (mem_of_lookup_eq_some ht))
  noAlias := noAlias_unflatten hflat key

/-- Merging a layer that holds a key, the key's parts hold the layer's value, else what was
there. -/
theorem HoldsSetting.searchPath_mergeEntries {vs : SettingEntries} {key : String}
    (h : HoldsSetting vs key) (ds : SettingEntries) :
    searchPath (mergeEntries vs ds) (keyParts key) =
      (searchPath vs (keyParts key)).or (searchPath ds (keyParts key)) := by
  rw [Windowing.searchPath_mergeEntries _ _ _ h.way, mergeOver_of_leaf h.leaf]

end Windowing
