import Mathlib
import Windowing.Proofs.JsonCheck

set_option autoImplicit false

/-! # Written JSON reads back

Reading undoes writing, piece by piece. Every escape the writer makes is resolved to the
character it stands for (`readString_escape`): the two-character escapes by their letter,
`\u00XX`, `\u2028` and `\u2029` through their code, which is never a surrogate half; only a stray
octet, written as `\ufffd`, does not come back. An integer's text holds its sign and digits, and
`String.toInt?` reads them back (`toInt?_toString`). An object's members come back in order,
each with the fuel left after the members before it (`readMembers_fields`).

So a plain value (`Plain`) reads back from its text whatever follows it in an object
(`Plain.readsBack`), and a plain object reads back from its text alone
(`read_encode_obj`). -/

namespace Windowing.Json

/-! ## Integers -/

/-- The value of a list of decimal digits. -/
def digitsValue (l : List Char) : Nat := l.foldl (fun n c => n * 10 + (c.toNat - '0'.toNat)) 0

/-- The loop of `String.isNat` over digits: no underscore stops it, and it has seen a digit
exactly when the list is not empty. -/
theorem forIn_digits (l : List Char) (hd : ∀ c ∈ l, c.isDigit = true) (b : Bool) :
    (forIn (m := Id) l ((none : Option Bool), b) fun c (s : Option Bool × Bool) =>
      if c = '_' then
        if (!s.2) = true then pure (ForInStep.done (some false, s.2))
        else pure (ForInStep.yield (none, false))
      else
        if c.isDigit = true then pure (ForInStep.yield (none, true))
        else pure (ForInStep.done (some false, s.2))) =
      ((none : Option Bool), if l = [] then b else true) := by
  induction l generalizing b with
  | nil => rfl
  | cons c rest ih =>
    have hc : c.isDigit = true := hd c (by simp)
    have hne : c ≠ '_' := by rintro rfl; simp at hc
    have ih' := ih (fun c h => hd c (by simp [h])) true
    simp only [List.forIn_cons, hne, if_false, hc, if_true, pure_bind]
    rw [ih']
    simp

theorem Slice.isNat_of_digits (s : String.Slice) (h : s.copy.toList ≠ [])
    (hd : ∀ c ∈ s.copy.toList, c.isDigit = true) : s.isNat = true := by
  unfold String.Slice.isNat
  simp only [String.Slice.forIn_eq_forIn_toList]
  rw [forIn_digits _ hd false, if_neg h]
  rfl

theorem Slice.toNat?_of_digits (s : String.Slice) (h : s.copy.toList ≠ [])
    (hd : ∀ c ∈ s.copy.toList, c.isDigit = true) :
    s.toNat? = some (digitsValue s.copy.toList) := by
  unfold String.Slice.toNat?
  rw [if_pos (Slice.isNat_of_digits s h hd), String.Slice.foldl_eq_foldl_toList, digitsValue]
  congr 1
  refine List.foldl_ext _ _ _ fun n c hc => ?_
  have hne : c ≠ '_' := by rintro rfl; simpa using hd _ hc
  simp [hne]

theorem toInt?_of_digits (l : List Char) (h : l ≠ []) (hd : ∀ c ∈ l, c.isDigit = true) :
    (String.ofList l).toInt? = some (digitsValue l) := by
  unfold String.toInt? String.Slice.toInt?
  cases hp : (String.ofList l).toSlice.dropPrefix? '-' with
  | some rest =>
    -- a leading minus sign is not a digit
    have happ := String.Slice.eq_append_of_dropPrefix?_char_eq_some hp
    rw [String.copy_toSlice, ← String.toList_inj] at happ
    simp only [String.toList_ofList, String.toList_append, String.toList_singleton,
      List.singleton_append] at happ
    have hminus := hd '-' (by rw [happ]; exact List.mem_cons_self)
    exact absurd hminus (by decide)
  | none =>
    have hnat := Slice.toNat?_of_digits (String.ofList l).toSlice
      (by simpa [String.copy_toSlice] using h) (by simpa [String.copy_toSlice] using hd)
    simp only [hnat, String.copy_toSlice, String.toList_ofList, Option.map_some]
    rfl

theorem toInt?_neg_digits (l : List Char) (h : l ≠ []) (hd : ∀ c ∈ l, c.isDigit = true) :
    (String.ofList ('-' :: l)).toInt? = some (Int.negOfNat (digitsValue l)) := by
  unfold String.toInt? String.Slice.toInt?
  cases hp : (String.ofList ('-' :: l)).toSlice.dropPrefix? '-' with
  | some rest =>
    have happ := String.Slice.eq_append_of_dropPrefix?_char_eq_some hp
    rw [String.copy_toSlice, ← String.toList_inj] at happ
    simp only [String.toList_ofList, String.toList_append, String.toList_singleton,
      List.singleton_append, List.cons.injEq, true_and] at happ
    have hnat := Slice.toNat?_of_digits rest (by rw [← happ]; exact h) (by rw [← happ]; exact hd)
    dsimp only
    rw [hnat, ← happ]
    rfl
  | none =>
    -- the text does start with a minus sign
    have hstart := String.Slice.dropPrefix?_eq_none_iff.1 hp
    rw [String.Slice.startsWith_char_eq_head?] at hstart
    simp [String.copy_toSlice] at hstart

theorem digitsValue_append_digit (l : List Char) (d : Nat) (hd : d < 10) :
    digitsValue (l ++ [Nat.digitChar d]) = digitsValue l * 10 + d := by
  have hchar : (Nat.digitChar d).toNat - 48 = d := by
    interval_cases d <;> rfl
  simp [digitsValue, List.foldl_append, hchar]

theorem digitsValue_toDigits (n : Nat) : digitsValue (Nat.toDigits 10 n) = n := by
  induction n using Nat.strong_induction_on with
  | _ n ih =>
    rw [Nat.toDigits_eq_if (by decide)]
    split
    · rename_i hlt
      rw [← List.nil_append [Nat.digitChar n], digitsValue_append_digit _ _ hlt]
      simp [digitsValue]
    · rw [digitsValue_append_digit _ _ (Nat.mod_lt n (by decide)), ih (n / 10) (by omega)]
      omega

/-- The text of an integer reads back as the integer. -/
theorem toInt?_toString (i : Int) : (toString i).toInt? = some i := by
  have hdigits : ∀ n, ∀ c ∈ Nat.toDigits 10 n, c.isDigit = true :=
    fun n c hc => Nat.isDigit_of_mem_toDigits (by decide) (by decide) hc
  cases i with
  | ofNat m =>
    show (Nat.repr m).toInt? = _
    rw [Nat.repr_eq_ofList_toDigits, toInt?_of_digits _ Nat.toDigits_ne_nil (hdigits m),
      digitsValue_toDigits]
    rfl
  | negSucc m =>
    show ("-" ++ Nat.repr (m + 1)).toInt? = _
    have htext : "-" ++ Nat.repr (m + 1) = String.ofList ('-' :: Nat.toDigits 10 (m + 1)) := by
      rw [Nat.repr_eq_ofList_toDigits, ← String.toList_inj]
      simp
    rw [htext, toInt?_neg_digits _ Nat.toDigits_ne_nil (hdigits (m + 1)), digitsValue_toDigits]
    rfl

/-! ## Strings -/

theorem readString_plain {c : Char} (hq : c ≠ '"') (hb : c ≠ '\\') (more acc : List Char) :
    readString (c :: more) acc = readString more (c :: acc) :=
  readString.eq_11 acc c more hq (fun _ _ _ _ _ h _ => hb h) (fun _ _ h _ => hb h)

/-- A `\u` escape of a code that is no first surrogate half reads as the character of its code,
whatever follows it. -/
theorem readString_unicode {a b c d : Char} (h : isHighHalf (hexValue [a, b, c, d]) = false)
    (rest acc : List Char) :
    readString ('\\' :: 'u' :: a :: b :: c :: d :: rest) acc =
      readString rest (codeChar (hexValue [a, b, c, d]) :: acc) := by
  by_cases hpair : ∃ e f g h more, rest = '\\' :: 'u' :: e :: f :: g :: h :: more
  · obtain ⟨e, f, g, h', more, rfl⟩ := hpair
    rw [readString.eq_3, if_neg (by simp [h])]
  · rw [readString.eq_4 _ _ _ _ _ _ fun e f g h more heq => hpair ⟨e, f, g, h, more, heq⟩,
      if_neg (by simp [h])]

/-- The code of a character that is no surrogate half gives the character back. -/
theorem codeChar_toNat {c : Char} (h : ¬ (0xD800 ≤ c.toNat ∧ c.toNat < 0xE000)) :
    codeChar c.toNat = c := by
  simp only [codeChar, Bool.and_eq_true, decide_eq_true_eq]
  rw [if_neg h, Char.ofNat_toNat]

/-- A `\u` escape of a character's own code, when that is no surrogate half. -/
theorem readString_unicode_of_code {c : Char} {a b d f : Char}
    (hcode : hexValue [a, b, d, f] = c.toNat) (hc : c.toNat < 0xD800) (rest acc : List Char) :
    readString ('\\' :: 'u' :: a :: b :: d :: f :: rest) acc = readString rest (c :: acc) := by
  have hhigh : isHighHalf (hexValue [a, b, d, f]) = false := by
    simp only [isHighHalf, hcode, Bool.and_eq_false_iff, decide_eq_false_iff_not]
    omega
  rw [readString_unicode hhigh, hcode, codeChar_toNat (by omega)]

/-- Every shape the writer makes of a character that is no stray octet reads back as the
character. -/
theorem readString_escape {c : Char} {out : List Char} (h : Escape c out)
    (hc : Utf8.strayOctet? c = none) (more acc : List Char) :
    readString (out ++ more) acc = readString more (c :: acc) := by
  cases h with
  | self hq hb _ => exact readString_plain hq hb more acc
  | letter x hx =>
    -- each letter stands for its own character
    simp only [escapeLetters, List.mem_cons, Prod.mk.injEq, List.not_mem_nil, or_false] at hx
    rcases hx with ⟨rfl, rfl⟩ | ⟨rfl, rfl⟩ | ⟨rfl, rfl⟩ | ⟨rfl, rfl⟩ | ⟨rfl, rfl⟩ | ⟨rfl, rfl⟩ |
      ⟨rfl, rfl⟩ <;> simp [readString]
  | code a b d f _ _ _ _ hcode hlt => exact readString_unicode_of_code hcode hlt more acc
  | stray hs => simp [hc] at hs

theorem strayOctet?_eq_none_of_hasStray {s : String} (hs : Utf8.hasStray s = false) :
    ∀ c ∈ s.toList, Utf8.strayOctet? c = none := by
  intro c hc
  simp only [Utf8.hasStray, String.any, String.contains_bool_eq, List.any_eq_false,
    decide_eq_true_eq] at hs
  simp [Utf8.strayOctet?, hs c hc]

/-- Escaped characters read back as themselves, none of them a stray octet. -/
theorem readString_escaped (cs : List Char) (hcs : ∀ c ∈ cs, Utf8.strayOctet? c = none)
    (more acc : List Char) :
    readString ((cs.flatMap fun c => (escapeChar c).toList) ++ more) acc =
      readString more (cs.reverse ++ acc) := by
  induction cs generalizing acc with
  | nil => rfl
  | cons c rest ih =>
    rw [List.flatMap_cons, List.append_assoc,
      readString_escape (escape_escapeChar c) (hcs c (by simp)),
      ih (fun c h => hcs c (by simp [h]))]
    simp

/-- The body of a quoted string with no stray octet reads back as the string, up to its
closing quote. -/
theorem readString_quoted {s : String} (hs : Utf8.hasStray s = false) (rest : List Char) :
    readString ((s.toList.flatMap fun c => (escapeChar c).toList) ++ '"' :: rest) [] =
      some (s, rest) := by
  rw [readString_escaped _ (strayOctet?_eq_none_of_hasStray hs), readString.eq_2]
  simp

/-! ## Values -/

theorem skipSpace_cons {c : Char} (hc : isSpace c = false) (r : List Char) :
    skipSpace (c :: r) = c :: r := by
  simp [skipSpace, hc]

/-- Text that starts with a digit is read as a number. -/
theorem readValue_of_digitChar (fuel : Nat) {d : Nat} (hd : d < 10) (r : List Char) :
    readValue (fuel + 1) (Nat.digitChar d :: r) = readNumber (Nat.digitChar d :: r) := by
  interval_cases d <;> rfl

/-- Text that starts with a minus sign is read as a number. -/
theorem readValue_of_minus (fuel : Nat) (r : List Char) :
    readValue (fuel + 1) ('-' :: r) = readNumber ('-' :: r) :=
  rfl

/-- What may follow a value in the text of an object: nothing, a comma or a closing brace. -/
def Follows (rest : List Char) : Prop := ∀ c ∈ rest.head?, c = ',' ∨ c = '}'

/-- The text of an integer reads back as the integer. -/
theorem readNumber_int (i : Int) {rest : List Char} (hr : Follows rest) :
    readNumber ((toString i).toList ++ rest) = some (.int i, rest) := by
  have hchars : ∀ c ∈ (toString i).toList, c.isDigit = true ∨ c = '-' := by
    intro c hc
    rw [toList_toString_int] at hc
    rcases List.mem_append.1 hc with hsign | hdigit
    · split at hsign <;> simp_all
    · exact .inl (Nat.isDigit_of_mem_toDigits (by decide) (by decide) hdigit)
  -- the number stops where the text of the integer does
  have htake : ((toString i).toList ++ rest).takeWhile (fun c : Char =>
      c.isDigit || c == '-' || c == '+' || c == '.' || c == 'e' || c == 'E') =
        (toString i).toList := by
    have hpart : ∀ c ∈ (toString i).toList,
        (c.isDigit || c == '-' || c == '+' || c == '.' || c == 'e' || c == 'E') = true := by
      intro c hc
      rcases hchars c hc with h | rfl
      · simp [h]
      · rfl
    rw [List.takeWhile_append_of_pos hpart]
    cases rest with
    | nil => simp
    | cons c r =>
      rcases hr c rfl with rfl | rfl <;> simp
  have hne : (toString i).toList ≠ [] := by
    rw [toList_toString_int]
    simp [Nat.toDigits_ne_nil]
  -- no fraction and no exponent
  have hplain : ((toString i).toList.any fun c => c == '.' || c == 'e' || c == 'E') = false := by
    rw [List.any_eq_false]
    intro c hc
    rcases hchars c hc with h | rfl
    · have : c ≠ '.' ∧ c ≠ 'e' ∧ c ≠ 'E' := by
        refine ⟨?_, ?_, ?_⟩ <;> rintro rfl <;> simp at h
      simp [this.1, this.2.1, this.2.2]
    · simp
  unfold readNumber
  simp only [htake, List.drop_left, String.ofList_toList, toInt?_toString, hplain,
    List.isEmpty_iff, hne]
  rfl

/-- The text of an integer starts with a minus sign or a digit. -/
theorem toString_int_cons (i : Int) :
    ∃ c l, (toString i).toList = c :: l ∧ (c = '-' ∨ ∃ d < 10, c = Nat.digitChar d) := by
  rw [toList_toString_int]
  by_cases hneg : i < 0
  · exact ⟨'-', _, by rw [if_pos hneg]; rfl, .inl rfl⟩
  · rw [if_neg hneg, List.nil_append]
    by_cases hzero : i.natAbs = 0
    · exact ⟨'0', [], by rw [hzero]; rfl, .inr ⟨0, by decide, rfl⟩⟩
    · obtain ⟨d, r, hr, hd⟩ := toDigits_of_pos (Nat.pos_of_ne_zero hzero)
      exact ⟨_, r, hr, .inr ⟨d, hd.2, rfl⟩⟩

/-- Text that reads back as the value `j` when given more fuel than its length, whatever may
follow it in an object. -/
def ReadsBack (j : Json) : Prop :=
  ∀ fuel rest, (encode j).toList.length < fuel → Follows rest →
    readValue fuel ((encode j).toList ++ rest) = some (j, rest)

/-- Reading a value spends one unit of fuel on the value itself: it is enough to read with one
more unit than the length of the text. -/
theorem ReadsBack.of_succ {j : Json}
    (h : ∀ fuel rest, (encode j).toList.length ≤ fuel → Follows rest →
      readValue (fuel + 1) ((encode j).toList ++ rest) = some (j, rest)) : ReadsBack j := by
  intro fuel rest hfuel hr
  obtain ⟨fuel, rfl⟩ : ∃ f, fuel = f + 1 := ⟨fuel - 1, by omega⟩
  exact h fuel rest (by omega) hr

theorem readsBack_null : ReadsBack .null :=
  .of_succ fun _ _ _ _ => rfl

theorem readsBack_bool (b : Bool) : ReadsBack (.bool b) :=
  .of_succ fun _ _ _ _ => by cases b <;> rfl

theorem readsBack_str {s : String} (hs : Utf8.hasStray s = false) : ReadsBack (.str s) := by
  refine .of_succ fun fuel rest _ _ => ?_
  have htext : (encode (.str s)).toList ++ rest =
      '"' :: ((s.toList.flatMap fun c => (escapeChar c).toList) ++ '"' :: rest) := by
    simp [encode, toList_quote]
  rw [htext, readValue.eq_2, skipSpace_cons (by decide)]
  simp [readString_quoted hs]

theorem readsBack_int (i : Int) : ReadsBack (.int i) := by
  refine .of_succ fun fuel rest _ hr => ?_
  -- the text starts with a minus sign or a digit, which both begin a number
  obtain ⟨c, l, hcl, hc⟩ := toString_int_cons i
  have hnum : readValue (fuel + 1) ((toString i).toList ++ rest) =
      readNumber ((toString i).toList ++ rest) := by
    rw [hcl, List.cons_append]
    rcases hc with rfl | ⟨d, hd, rfl⟩
    · exact readValue_of_minus fuel _
    · exact readValue_of_digitChar fuel hd _
  show readValue (fuel + 1) ((toString i).toList ++ rest) = _
  rw [hnum, readNumber_int i hr]

/-! ## Objects -/

/-- One member and the comma or closing brace after it. -/
theorem readMembers_member {k : String} {v : Json} (hk : Utf8.hasStray k = false)
    (hv : ReadsBack v) {fuel : Nat} (hfuel : (encode v).toList.length < fuel) {c : Char}
    (hc : c = ',' ∨ c = '}') (tail : List Char) (acc : List (String × Json)) :
    readMembers (fuel + 1) ((quote k ++ ":" ++ encode v).toList ++ c :: tail) acc =
      if c = ',' then readMembers fuel tail ((k, v) :: acc)
      else some (.obj ((k, v) :: acc).reverse, tail) := by
  have htext : (quote k ++ ":" ++ encode v).toList ++ c :: tail =
      '"' :: ((k.toList.flatMap fun c => (escapeChar c).toList) ++
        '"' :: ':' :: ((encode v).toList ++ c :: tail)) := by
    simp [toList_quote]
  have hval := hv fuel (c :: tail) hfuel (by simpa [Follows] using hc)
  rw [htext, readMembers.eq_2, skipSpace_cons (by decide)]
  simp only [readString_quoted hk, Option.bind_eq_bind, Option.bind_some]
  rw [skipSpace_cons (by decide)]
  simp only [hval, Option.bind_some]
  rcases hc with rfl | rfl
  · rw [skipSpace_cons (by decide)]; rfl
  · rw [skipSpace_cons (by decide)]; rfl

theorem two_le_length_quote (s : String) : 2 ≤ (quote s).toList.length := by
  simp [toList_quote]

/-- The members of an object read back in order, up to the closing brace, given more fuel than
the length of their text. -/
theorem readMembers_fields (fs : List (String × Json))
    (hfs : ∀ kv ∈ fs, Utf8.hasStray kv.1 = false ∧ ReadsBack kv.2) (acc : List (String × Json))
    (fuel : Nat) (hfuel : (encodeFields fs).toList.length < fuel) (rest : List Char) :
    readMembers fuel ((encodeFields fs).toList ++ '}' :: rest) acc =
      some (.obj (acc.reverse ++ fs), rest) := by
  induction fs generalizing acc fuel with
  | nil =>
    obtain ⟨fuel, rfl⟩ : ∃ f, fuel = f + 1 := ⟨fuel - 1, by omega⟩
    simp [encodeFields, readMembers.eq_2, skipSpace, isSpace]
  | cons kv fs ih =>
    obtain ⟨k, v⟩ := kv
    have hk : Utf8.hasStray k = false := (hfs (k, v) (by simp)).1
    have hv : ReadsBack v := (hfs (k, v) (by simp)).2
    obtain ⟨fuel, rfl⟩ : ∃ f, fuel = f + 1 := ⟨fuel - 1, by omega⟩
    have hq := two_le_length_quote k
    cases fs with
    | nil =>
      -- the last member, then the closing brace
      have hfuel' : (encode v).toList.length < fuel := by
        simp [encodeFields] at hfuel
        omega
      rw [encodeFields.eq_2, readMembers_member hk hv hfuel' (.inr rfl), if_neg (by decide)]
      simp
    | cons kv' fs' =>
      -- a member, a comma and the members after it, each read with one less fuel
      have hlen : (encodeFields ((k, v) :: kv' :: fs')).toList.length =
          (quote k).toList.length + 1 + (encode v).toList.length + 1 +
            (encodeFields (kv' :: fs')).toList.length := by
        rw [encodeFields.eq_3 k v _ (List.cons_ne_nil _ _)]
        simp
        omega
      have htext : (encodeFields ((k, v) :: kv' :: fs')).toList ++ '}' :: rest =
          (quote k ++ ":" ++ encode v).toList ++
            ',' :: ((encodeFields (kv' :: fs')).toList ++ '}' :: rest) := by
        rw [encodeFields.eq_3 k v _ (List.cons_ne_nil _ _)]
        simp
      rw [htext, readMembers_member hk hv (by omega) (.inl rfl), if_pos rfl,
        ih (fun kv hkv => hfs kv (List.mem_cons_of_mem _ hkv)) _ _ (by omega)]
      simp

theorem readsBack_obj (fs : List (String × Json))
    (hfs : ∀ kv ∈ fs, Utf8.hasStray kv.1 = false ∧ ReadsBack kv.2) : ReadsBack (.obj fs) := by
  refine .of_succ fun fuel rest hfuel _ => ?_
  rw [toList_encode_obj] at hfuel ⊢
  simp only [List.length_cons, List.length_append, List.length_nil] at hfuel
  have hrun := readMembers_fields fs hfs [] fuel (by omega) rest
  rw [List.cons_append, List.append_assoc, List.singleton_append, readValue.eq_2,
    skipSpace_cons (by decide)]
  simpa using hrun

/-- The text of a plain value reads back as the value, by induction on how it is plain. -/
theorem Plain.readsBack {d : Nat} {j : Json} (h : Plain d j) : ReadsBack j := by
  induction h with
  | null d => exact readsBack_null
  | bool d b => exact readsBack_bool b
  | int d i => exact readsBack_int i
  | str d hs => exact readsBack_str hs
  | obj d hkeys _ ih => exact readsBack_obj _ fun kv hkv => ⟨hkeys kv hkv, ih kv hkv⟩

/-- A plain object, nested no deeper than the checking machine allows, reads back from its
text. -/
theorem read_encode_obj {d : Nat} {fs : List (String × Json)} (h : Plain (d + 1) (.obj fs))
    (hd : d + 1 ≤ maxDepth) : read (encode (.obj fs)) = .ok (.obj fs) := by
  have hread := h.readsBack ((encode (.obj fs)).length + 1) []
    (by rw [String.length_toList]; omega) (by simp [Follows])
  rw [List.append_nil] at hread
  simp only [read, check_obj h hd, ok_bind, hread]
  rfl

end Windowing.Json
