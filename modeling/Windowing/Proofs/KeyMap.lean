import Windowing.KeyMap

set_option autoImplicit false

/-! # Lookups in a key map

Every operation of a `KeyMap` is described through `get?`: an insert answers the new value
under its key and leaves every other key alone, an erase forgets its key and nothing else.
Neither needs the keys to be ordered. What does need the order is the shape of the pairs: an
ordered map lists each key once, so walking its keys visits every stored key exactly once, and
replacing a stored key keeps the size. Insert and erase keep a map ordered, and on an ordered map
they change the number of stored values of a kind by exactly the value they add or remove. -/

namespace Windowing.KeyMap

variable {α : Type}

/-! ## Lookups -/

@[simp]
theorem get?_nil (k : String) : (⟨[]⟩ : KeyMap α).get? k = none := rfl

@[simp]
theorem get?_empty (k : String) : (∅ : KeyMap α).get? k = none := rfl

theorem get?_cons (k₀ : String) (v₀ : α) (rest : List (String × α)) (k : String) :
    (⟨(k₀, v₀) :: rest⟩ : KeyMap α).get? k = if k₀ = k then some v₀ else (⟨rest⟩ : KeyMap α).get? k := by
  by_cases h : k₀ = k <;> simp [get?, h]

/-- An insert answers the new value under its key and changes no other key. -/
@[simp]
theorem get?_insert (m : KeyMap α) (k k' : String) (v : α) :
    (m.insert k v).get? k' = if k' = k then some v else m.get? k' := by
  obtain ⟨l⟩ := m
  simp only [insert]
  induction l with
  | nil => by_cases hk : k' = k <;> simp [insertList, get?_cons, hk, Ne.symm]
  | cons p rest ih =>
    obtain ⟨k₀, v₀⟩ := p
    simp only [insertList]
    by_cases hlt : k < k₀
    · -- the new pair goes in front of the old ones
      rw [if_pos hlt, get?_cons]
      by_cases hk : k' = k
      · simp [hk]
      · rw [if_neg (Ne.symm hk), if_neg hk]
    · by_cases heq : k = k₀
      · -- the new pair replaces the head
        subst heq
        rw [if_neg hlt, if_pos rfl, get?_cons, get?_cons]
        by_cases hk : k' = k
        · simp [hk]
        · rw [if_neg (Ne.symm hk), if_neg hk, if_neg (Ne.symm hk)]
      · rw [if_neg hlt, if_neg heq, get?_cons, get?_cons, ih]
        by_cases hk : k' = k
        · subst hk
          simp [Ne.symm heq]
        · simp [hk]

/-- An erase forgets its key and changes no other key. -/
@[simp]
theorem get?_erase (m : KeyMap α) (k k' : String) :
    (m.erase k).get? k' = if k' = k then none else m.get? k' := by
  obtain ⟨l⟩ := m
  simp only [erase]
  induction l with
  | nil => simp
  | cons p rest ih =>
    obtain ⟨k₀, v₀⟩ := p
    by_cases h₀ : k₀ = k
    · subst h₀
      have hskip : ((k₀, v₀) :: rest).filter (fun p => p.1 != k₀) = rest.filter (fun p => p.1 != k₀) :=
        List.filter_cons_of_neg (by simp)
      rw [hskip, ih]
      by_cases hk : k' = k₀ <;> simp [get?_cons, hk, eq_comm]
    · have hkeep : ((k₀, v₀) :: rest).filter (fun p => p.1 != k) =
          (k₀, v₀) :: rest.filter (fun p => p.1 != k) :=
        List.filter_cons_of_pos (by simp [h₀])
      rw [hkeep, get?_cons, get?_cons, ih]
      by_cases hk : k' = k
      · subst hk; simp [h₀]
      · simp [hk]

/-- A key is listed exactly when it has a value. -/
theorem mem_keys_iff (m : KeyMap α) (k : String) : k ∈ m.keys ↔ (m.get? k).isSome := by
  obtain ⟨l⟩ := m
  induction l with
  | nil => simp [keys]
  | cons p rest ih =>
    obtain ⟨k₀, v₀⟩ := p
    simp only [keys, List.map_cons, List.mem_cons] at ih ⊢
    rw [get?_cons, ih]
    by_cases h : k₀ = k
    · subst h; simp
    · simp [h, Ne.symm h]

theorem get?_eq_none_iff (m : KeyMap α) (k : String) : m.get? k = none ↔ k ∉ m.keys := by
  rw [mem_keys_iff]; simp

/-! ## Ordered maps -/

private theorem mem_insertList {k : String} {v : α} {l : List (String × α)} {p : String × α}
    (h : p ∈ insertList k v l) : p = (k, v) ∨ p ∈ l := by
  induction l with
  | nil => simpa [insertList] using h
  | cons q rest ih =>
    simp only [insertList] at h
    split at h
    · simpa using h
    split at h
    · rcases List.mem_cons.1 h with rfl | h'
      · exact Or.inl rfl
      · exact Or.inr (List.mem_cons_of_mem _ h')
    · rcases List.mem_cons.1 h with rfl | h'
      · exact Or.inr (List.mem_cons_self ..)
      · rcases ih h' with h'' | h''
        · exact Or.inl h''
        · exact Or.inr (List.mem_cons_of_mem _ h'')

private theorem pairwise_insertList (k : String) (v : α) {l : List (String × α)}
    (hl : l.Pairwise (fun a b => a.1 < b.1)) :
    (insertList k v l).Pairwise (fun a b => a.1 < b.1) := by
  induction l with
  | nil => exact List.pairwise_singleton _ _
  | cons q rest ih =>
    obtain ⟨k₀, v₀⟩ := q
    rw [List.pairwise_cons] at hl
    obtain ⟨hhead, hrest⟩ := hl
    simp only [insertList]
    by_cases hlt : k < k₀
    · rw [if_pos hlt]
      refine List.pairwise_cons.2 ⟨?_, List.pairwise_cons.2 ⟨hhead, hrest⟩⟩
      intro p hp
      rcases List.mem_cons.1 hp with rfl | hp'
      · exact hlt
      · exact String.lt_trans hlt (hhead p hp')
    · by_cases heq : k = k₀
      · subst heq
        rw [if_neg hlt, if_pos rfl]
        exact List.pairwise_cons.2 ⟨hhead, hrest⟩
      · rw [if_neg hlt, if_neg heq]
        have hgt : k₀ < k :=
          String.not_le.1 fun hle => heq (String.le_antisymm hle (String.not_lt.1 hlt))
        refine List.pairwise_cons.2 ⟨?_, ih hrest⟩
        intro p hp
        rcases mem_insertList hp with rfl | hp'
        · exact hgt
        · exact hhead p hp'

theorem Ordered.insert {m : KeyMap α} (hm : m.Ordered) (k : String) (v : α) :
    (m.insert k v).Ordered :=
  pairwise_insertList k v hm

theorem Ordered.erase {m : KeyMap α} (hm : m.Ordered) (k : String) : (m.erase k).Ordered :=
  List.Pairwise.filter _ hm

@[simp]
theorem ordered_empty : (∅ : KeyMap α).Ordered := List.Pairwise.nil

/-- The keys of an ordered map increase strictly. -/
theorem Ordered.keys_sorted {m : KeyMap α} (hm : m.Ordered) : m.keys.Pairwise (· < ·) :=
  List.pairwise_map.2 hm

theorem Ordered.nodup_keys {m : KeyMap α} (hm : m.Ordered) : m.keys.Nodup :=
  hm.keys_sorted.imp String.ne_of_lt

/-! ## Sizes -/

theorem size_insert_of_get?_eq_none {m : KeyMap α} {k : String} (h : m.get? k = none) (v : α) :
    (m.insert k v).size = m.size + 1 := by
  obtain ⟨l⟩ := m
  simp only [size, insert] at h ⊢
  induction l with
  | nil => simp [insertList]
  | cons q rest ih =>
    obtain ⟨k₀, v₀⟩ := q
    rw [get?_cons] at h
    have hne : k₀ ≠ k := fun e => by simp [e] at h
    simp only [hne, ↓reduceIte] at h
    simp only [insertList, Ne.symm hne, ↓reduceIte]
    split
    · simp
    · simp [ih h]

/-- A key below the head of an ordered list is stored nowhere in it. -/
private theorem get?_eq_none_of_lt {k₀ k : String} {v₀ : α} {rest : List (String × α)}
    (hm : (⟨(k₀, v₀) :: rest⟩ : KeyMap α).Ordered) (hlt : k < k₀) :
    (⟨(k₀, v₀) :: rest⟩ : KeyMap α).get? k = none := by
  rw [get?_eq_none_iff]
  intro hk
  obtain ⟨q, hq, rfl⟩ := List.mem_map.1 hk
  rcases List.mem_cons.1 hq with rfl | hq
  · exact String.lt_irrefl _ hlt
  · exact String.lt_irrefl _ (String.lt_trans hlt ((List.pairwise_cons.1 hm).1 q hq))

/-- Replacing the value of a stored key keeps the size of an ordered map. -/
theorem size_insert_of_isSome {m : KeyMap α} (hm : m.Ordered) {k : String}
    (h : (m.get? k).isSome) (v : α) : (m.insert k v).size = m.size := by
  obtain ⟨l⟩ := m
  simp only [size, insert]
  induction l with
  | nil => simp at h
  | cons q rest ih =>
    obtain ⟨k₀, v₀⟩ := q
    have hm' := List.pairwise_cons.1 hm
    simp only [insertList]
    by_cases hlt : k < k₀
    · -- a key below the head is below every stored key, so it is not stored
      rw [get?_eq_none_of_lt hm hlt] at h
      cases h
    · rw [get?_cons] at h
      by_cases heq : k = k₀
      · simp [heq]
      · rw [if_neg (Ne.symm heq)] at h
        simp [hlt, heq, ih hm'.2 h]

theorem size_erase_le (m : KeyMap α) (k : String) : (m.erase k).size ≤ m.size :=
  List.length_filter_le _ _

/-! ## Counting stored values -/

/-- The number of stored values that satisfy `p`. -/
def count (p : α → Bool) (m : KeyMap α) : Nat := m.toList.countP fun e => p e.2

theorem count_cons (p : α → Bool) (k₀ : String) (v₀ : α) (rest : List (String × α)) :
    (⟨(k₀, v₀) :: rest⟩ : KeyMap α).count p = (⟨rest⟩ : KeyMap α).count p + if p v₀ then 1 else 0 := by
  simp [count, List.countP_cons]

theorem count_insert_of_get?_eq_none {m : KeyMap α} {k : String} (h : m.get? k = none) (p : α → Bool)
    (v : α) : (m.insert k v).count p = m.count p + if p v then 1 else 0 := by
  obtain ⟨l⟩ := m
  simp only [insert]
  induction l with
  | nil => simp [insertList, count]
  | cons q rest ih =>
    obtain ⟨k₀, v₀⟩ := q
    rw [get?_cons] at h
    have hne : k₀ ≠ k := fun e => by simp [e] at h
    simp only [hne, ↓reduceIte] at h
    simp only [insertList, Ne.symm hne, ↓reduceIte]
    split
    · simp only [count_cons]
    · simp only [count_cons, ih h]; omega

/-- Replacing the value of a stored key of an ordered map trades the old value's count for the
new one's. -/
theorem count_insert_of_get?_eq_some {m : KeyMap α} (hm : m.Ordered) {k : String} {w : α}
    (h : m.get? k = some w) (p : α → Bool) (v : α) :
    (m.insert k v).count p + (if p w then 1 else 0) = m.count p + if p v then 1 else 0 := by
  obtain ⟨l⟩ := m
  simp only [insert]
  induction l with
  | nil => simp at h
  | cons q rest ih =>
    obtain ⟨k₀, v₀⟩ := q
    simp only [insertList]
    by_cases hlt : k < k₀
    · rw [get?_eq_none_of_lt hm hlt] at h
      cases h
    · by_cases heq : k = k₀
      · subst heq
        rw [get?_cons, if_pos rfl] at h
        cases h
        simp only [hlt, ↓reduceIte, count_cons]
        omega
      · rw [get?_cons, if_neg (Ne.symm heq)] at h
        simp only [hlt, heq, ↓reduceIte, count_cons]
        have := ih (List.pairwise_cons.1 hm).2 h
        omega

theorem count_erase_of_get?_eq_none {m : KeyMap α} {k : String} (h : m.get? k = none) (p : α → Bool) :
    (m.erase k).count p = m.count p := by
  have hkeep : m.toList.filter (fun e => e.1 != k) = m.toList := by
    rw [List.filter_eq_self]
    intro e he
    have hk : e.1 ∈ m.keys := List.mem_map_of_mem he
    rw [get?_eq_none_iff] at h
    simp only [bne_iff_ne, ne_eq]
    exact fun e' => h (e' ▸ hk)
  simp [count, erase, hkeep]

/-- The key at the head of an ordered list is stored nowhere in the rest. -/
private theorem get?_rest_head {k₀ : String} {v₀ : α} {rest : List (String × α)}
    (hm : (⟨(k₀, v₀) :: rest⟩ : KeyMap α).Ordered) : (⟨rest⟩ : KeyMap α).get? k₀ = none := by
  rw [get?_eq_none_iff]
  intro hk
  obtain ⟨q, hq, hq₁⟩ := List.mem_map.1 hk
  exact String.lt_irrefl _ (hq₁ ▸ (List.pairwise_cons.1 hm).1 q hq)

/-- Erasing a stored key of an ordered map removes the count of its value. -/
theorem count_erase_of_get?_eq_some {m : KeyMap α} (hm : m.Ordered) {k : String} {w : α}
    (h : m.get? k = some w) (p : α → Bool) :
    (m.erase k).count p + (if p w then 1 else 0) = m.count p := by
  obtain ⟨l⟩ := m
  induction l with
  | nil => simp at h
  | cons q rest ih =>
    obtain ⟨k₀, v₀⟩ := q
    have hrest := (List.pairwise_cons.1 hm)
    by_cases heq : k₀ = k
    · -- the head holds the key, and the rest of an ordered list does not
      subst heq
      rw [get?_cons, if_pos rfl] at h
      cases h
      have := count_erase_of_get?_eq_none (get?_rest_head hm) p
      simp only [erase, count, List.filter_cons, bne_self_eq_false] at this ⊢
      simp only [Bool.false_eq_true, ↓reduceIte, List.countP_cons]
      omega
    · rw [get?_cons, if_neg heq] at h
      have := ih hrest.2 h
      simp only [erase, count, List.filter_cons, bne_iff_ne, ne_eq, heq, not_false_eq_true,
        ↓reduceIte, List.countP_cons] at this ⊢
      omega

/-! ## Equality -/

/-- Two ordered maps that answer every lookup alike are the same map: each lists its keys once,
in increasing order. -/
theorem Ordered.ext {m₁ m₂ : KeyMap α} (h₁ : m₁.Ordered) (h₂ : m₂.Ordered)
    (h : ∀ k, m₁.get? k = m₂.get? k) : m₁ = m₂ := by
  obtain ⟨l₁⟩ := m₁
  obtain ⟨l₂⟩ := m₂
  congr 1
  induction l₁ generalizing l₂ with
  | nil =>
    cases l₂ with
    | nil => rfl
    | cons q rest =>
      obtain ⟨k₂, v₂⟩ := q
      simpa [get?_cons] using h k₂
  | cons p rest₁ ih =>
    obtain ⟨k₁, v₁⟩ := p
    cases l₂ with
    | nil => simpa [get?_cons] using h k₁
    | cons q rest₂ =>
      obtain ⟨k₂, v₂⟩ := q
      -- the heads hold the least key of each map, so they are the same pair
      have hk : k₁ = k₂ := by
        by_cases hlt : k₁ < k₂
        · have := h k₁
          rw [get?_eq_none_of_lt h₂ hlt, get?_cons, if_pos rfl] at this
          cases this
        by_cases hgt : k₂ < k₁
        · have := h k₂
          rw [get?_eq_none_of_lt h₁ hgt, get?_cons, if_pos rfl] at this
          cases this
        exact String.le_antisymm (String.not_lt.1 hgt) (String.not_lt.1 hlt)
      subst hk
      have hv : v₁ = v₂ := by simpa [get?_cons] using h k₁
      subst hv
      congr 1
      refine ih (List.pairwise_cons.1 h₁).2 rest₂ (List.pairwise_cons.1 h₂).2 fun k => ?_
      by_cases hk : k = k₁
      · subst hk
        rw [get?_rest_head h₁, get?_rest_head h₂]
      · have := h k
        rwa [get?_cons, get?_cons, if_neg (Ne.symm hk), if_neg (Ne.symm hk)] at this

/-! ## Inserting many pairs -/

/-- Inserting pairs in order answers, for each key, the value of its last pair, and the old value
for a key that no pair has. -/
theorem get?_insertMany (m : KeyMap α) (ps : List (String × α)) (k : String) :
    (m.insertMany ps).get? k = (ps.reverse.lookup k).or (m.get? k) := by
  induction ps generalizing m with
  | nil => rfl
  | cons p rest ih =>
    obtain ⟨k₀, v₀⟩ := p
    show ((m.insert k₀ v₀).insertMany rest).get? k = _
    rw [ih, get?_insert, List.reverse_cons, List.lookup_append, Option.or_assoc]
    have hbeq : (k == k₀) = decide (k = k₀) := rfl
    by_cases hk : k = k₀ <;> simp [hk, List.lookup_cons, List.lookup_nil, hbeq]

theorem Ordered.insertMany {m : KeyMap α} (hm : m.Ordered) (ps : List (String × α)) :
    (m.insertMany ps).Ordered := by
  induction ps generalizing m with
  | nil => exact hm
  | cons p rest ih => exact ih (hm.insert p.1 p.2)

end Windowing.KeyMap
