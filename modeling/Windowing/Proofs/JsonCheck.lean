import Mathlib
import Windowing.Json.Read

set_option autoImplicit false

/-! # The check takes written JSON

The text of a value is made of pieces the checking machine takes one by one. Inside a string,
every escape the writer makes (`\"`, `\\`, `\n`, `\u00XX`, `\u2028`, `\ufffd`, ...) and every
character written as it is has one of a few shapes (`escape_escapeChar`), and each keeps the
machine inside the string (`Checker.foldlM_escape`), so a quoted string takes it from the start
of a value to the end of one. An integer leaves it among its digits (or at a lone zero), where a
comma or a closing brace still ends the value (`Checker.step_of_afterValue`). An object opens a
container, takes its members key, colon, value and comma at a time, and closes the container
again (`Checker.foldlM_obj`).

So the text of every value this library reads back (`Plain`: null, booleans, integers, strings
and objects of them, nested no deeper than the machine allows) is taken whole, and the text of
an object passes the check (`check_obj`). -/

namespace Windowing.Json

@[simp]
theorem ok_bind {ε α β : Type} (a : α) (f : α → Except ε β) :
    (Except.ok a >>= f) = f a := rfl

/-! ## The pieces of the text -/

theorem toList_quote (s : String) :
    (quote s).toList = '"' :: ((s.toList.flatMap fun c => (escapeChar c).toList) ++ ['"']) := by
  simp [quote, String.toList_join, List.flatMap_map]

theorem toList_encode_obj (fs : List (String × Json)) :
    (encode (.obj fs)).toList = '{' :: ((encodeFields fs).toList ++ ['}']) := by
  simp [encode]

/-- The decimal digits of a positive number lead with a digit from `1` to `9`. -/
theorem toDigits_of_pos {n : Nat} (h : 0 < n) :
    ∃ d r, Nat.toDigits 10 n = Nat.digitChar d :: r ∧ 0 < d ∧ d < 10 := by
  induction n using Nat.strong_induction_on with
  | _ n ih =>
    rw [Nat.toDigits_eq_if (by decide)]
    split
    · exact ⟨n, [], rfl, h, by assumption⟩
    · obtain ⟨d, r, hr, hd⟩ := ih (n / 10) (by omega) (by omega)
      exact ⟨d, r ++ [Nat.digitChar (n % 10)], by simp [hr], hd⟩

/-- The text of an integer: a minus sign when it is negative, then the digits of its size. -/
theorem toList_toString_int (i : Int) :
    (toString i).toList = (if i < 0 then ['-'] else []) ++ Nat.toDigits 10 i.natAbs := by
  cases i with
  | ofNat m =>
    show (Nat.repr m).toList = _
    simp [Nat.repr_eq_ofList_toDigits]
  | negSucc m =>
    show ("-" ++ Nat.repr (m + 1)).toList = _
    simp [Nat.repr_eq_ofList_toDigits, Int.negSucc_lt_zero]

/-! ## What the writer makes of one character -/

/-- The characters written as a backslash and a letter, each with its letter. -/
def escapeLetters : List (Char × Char) :=
  [('"', '"'), ('\\', '\\'), ('\x08', 'b'), ('\x0c', 'f'), ('\n', 'n'), ('\r', 'r'), ('\t', 't')]

theorem hexValue_append_hexDigit (cs : List Char) {n : Nat} (h : n < 16) :
    hexValue (cs ++ [hexDigit n]) = hexValue cs * 16 + n := by
  simp only [hexValue, List.foldl_append, List.foldl_cons, List.foldl_nil]
  congr 1
  interval_cases n <;> rfl

/-- The four hexadecimal digits `00XY` of a code below 256 read back as the code. -/
theorem hexValue_hexDigits {n : Nat} (h : n < 256) :
    hexValue ['0', '0', hexDigit (n / 16), hexDigit (n % 16)] = n := by
  have h1 := hexValue_append_hexDigit ['0', '0'] (show n / 16 < 16 by omega)
  have h2 := hexValue_append_hexDigit ['0', '0', hexDigit (n / 16)] (show n % 16 < 16 by omega)
  have h0 : hexValue ['0', '0'] = 0 := rfl
  simp only [List.cons_append, List.nil_append] at h1 h2
  rw [h2, h1, h0]
  omega

theorem isHex_hexDigit {n : Nat} (h : n < 16) : isHex (hexDigit n) = true := by
  interval_cases n <;> rfl

/-- The shapes of the text the writer makes of a character `c`: the character itself, a
backslash and the letter of `c`, a `\u` escape of the code of `c` (which lies below the
surrogate halves), or, for a stray octet, the escape of the replacement character U+FFFD. -/
inductive Escape (c : Char) : List Char → Prop
  | self : c ≠ '"' → c ≠ '\\' → 0x20 ≤ c.toNat → Escape c [c]
  | letter (x : Char) : (c, x) ∈ escapeLetters → Escape c ['\\', x]
  | code (a b d f : Char) :
      isHex a = true → isHex b = true → isHex d = true → isHex f = true →
      hexValue [a, b, d, f] = c.toNat → c.toNat < 0xD800 → Escape c ['\\', 'u', a, b, d, f]
  | stray : (Utf8.strayOctet? c).isSome = true → Escape c ['\\', 'u', 'f', 'f', 'f', 'd']

/-- Every character is written in one of the shapes of `Escape`, by the branches of
`escapeChar` in order. -/
theorem escape_escapeChar (c : Char) : Escape c (escapeChar c).toList := by
  simp only [escapeChar]
  by_cases hs : (Utf8.strayOctet? c).isSome = true
  · rw [if_pos hs]; exact .stray hs
  rw [if_neg hs]
  -- a backslash and one letter
  by_cases hq : (c == '"') = true
  · rw [if_pos hq, beq_iff_eq.1 hq]; exact .letter '"' (by decide)
  rw [if_neg hq]
  by_cases hb : (c == '\\') = true
  · rw [if_pos hb, beq_iff_eq.1 hb]; exact .letter '\\' (by decide)
  rw [if_neg hb]
  by_cases h8 : (c.toNat == 8) = true
  · obtain rfl : c = '\x08' := by rw [← Char.ofNat_toNat c, beq_iff_eq.1 h8]
    rw [if_pos h8]; exact .letter 'b' (by decide)
  rw [if_neg h8]
  by_cases h12 : (c.toNat == 12) = true
  · obtain rfl : c = '\x0c' := by rw [← Char.ofNat_toNat c, beq_iff_eq.1 h12]
    rw [if_pos h12]; exact .letter 'f' (by decide)
  rw [if_neg h12]
  by_cases hn : (c == '\n') = true
  · rw [if_pos hn, beq_iff_eq.1 hn]; exact .letter 'n' (by decide)
  rw [if_neg hn]
  by_cases hr : (c == '\r') = true
  · rw [if_pos hr, beq_iff_eq.1 hr]; exact .letter 'r' (by decide)
  rw [if_neg hr]
  by_cases ht : (c == '\t') = true
  · rw [if_pos ht, beq_iff_eq.1 ht]; exact .letter 't' (by decide)
  rw [if_neg ht]
  -- `\u00` and two hexadecimal digits, for a control or an HTML character
  by_cases hsmall : (c.toNat < 0x20 || c == '<' || c == '>' || c == '&') = true
  · rw [if_pos hsmall, String.toList_ofList]
    have hlt : c.toNat < 256 := by
      simp only [Bool.or_eq_true, decide_eq_true_eq, beq_iff_eq] at hsmall
      rcases hsmall with ((h | rfl) | rfl) | rfl
      · omega
      all_goals decide
    exact .code _ _ _ _ rfl rfl (isHex_hexDigit (by omega)) (isHex_hexDigit (by omega))
      (hexValue_hexDigits hlt) (by omega)
  rw [if_neg hsmall]
  -- the line and paragraph separators
  by_cases hl : (c.toNat == 0x2028) = true
  · have hcode : hexValue ['2', '0', '2', '8'] = c.toNat := by rw [beq_iff_eq.1 hl]; decide
    rw [if_pos hl]
    exact .code _ _ _ _ rfl rfl rfl rfl hcode (by rw [← hcode]; decide)
  rw [if_neg hl]
  by_cases hp : (c.toNat == 0x2029) = true
  · have hcode : hexValue ['2', '0', '2', '9'] = c.toNat := by rw [beq_iff_eq.1 hp]; decide
    rw [if_pos hp]
    exact .code _ _ _ _ rfl rfl rfl rfl hcode (by rw [← hcode]; decide)
  rw [if_neg hp]
  -- the character itself
  simp only [beq_iff_eq] at hq hb
  simp only [Bool.or_eq_true, decide_eq_true_eq, not_or] at hsmall
  rw [Char.toString_eq_singleton, String.toList_singleton]
  exact .self hq hb (by omega)

/-- Values whose text reads back as the value, nested at most `d` levels deep: null, booleans,
integers, strings with no stray octet, and objects of such values under keys with no stray
octet. -/
inductive Plain : Nat → Json → Prop
  | null (d : Nat) : Plain d .null
  | bool (d : Nat) (b : Bool) : Plain d (.bool b)
  | int (d : Nat) (i : Int) : Plain d (.int i)
  | str (d : Nat) {s : String} : Utf8.hasStray s = false → Plain d (.str s)
  | obj (d : Nat) {fs : List (String × Json)} : (∀ kv ∈ fs, Utf8.hasStray kv.1 = false) →
      (∀ kv ∈ fs, Plain d kv.2) → Plain (d + 1) (.obj fs)

namespace Checker

variable (st : List Frame) (e : Bool)

/-! ## Strings -/

/-- A character that a string may hold as it is. -/
theorem step_inString_of_plain {c : Char} (hq : c ≠ '"') (hb : c ≠ '\\')
    (hc : 0x20 ≤ c.toNat) : step ⟨.inString, st, e⟩ c = .ok ⟨.inString, st, e⟩ := by
  have hlt : ¬ c.toNat < 0x20 := by omega
  simp [step, hq, hb, hlt]

theorem step_inStringEsc_short {c : Char} (h : c ∈ ['b', 'f', 'n', 'r', 't', '\\', '/', '"']) :
    step ⟨.inStringEsc, st, e⟩ c = .ok ⟨.inString, st, e⟩ := by
  simp only [List.mem_cons, List.not_mem_nil, or_false] at h
  rcases h with rfl | rfl | rfl | rfl | rfl | rfl | rfl | rfl <;> rfl

theorem step_inStringHex {c : Char} (h : isHex c = true) (owed : Nat) :
    step ⟨.inStringHex owed, st, e⟩ c =
      .ok ⟨if owed ≤ 1 then .inString else .inStringHex (owed - 1), st, e⟩ := by
  show (if isHex c = true then _ else _) = _
  rw [if_pos h]

/-- A backslash and one letter. -/
theorem foldlM_shortEscape {c : Char} (h : c ∈ ['b', 'f', 'n', 'r', 't', '\\', '/', '"']) :
    ['\\', c].foldlM step ⟨.inString, st, e⟩ = .ok ⟨.inString, st, e⟩ := by
  have hslash : step ⟨.inString, st, e⟩ '\\' = .ok ⟨.inStringEsc, st, e⟩ := rfl
  simp only [List.foldlM_cons, List.foldlM_nil, hslash, ok_bind, step_inStringEsc_short st e h]
  rfl

/-- `\u` and four hexadecimal digits. -/
theorem foldlM_unicodeEscape {a b c d : Char} (ha : isHex a = true) (hb : isHex b = true)
    (hc : isHex c = true) (hd : isHex d = true) :
    ['\\', 'u', a, b, c, d].foldlM step ⟨.inString, st, e⟩ = .ok ⟨.inString, st, e⟩ := by
  have hslash : step ⟨.inString, st, e⟩ '\\' = .ok ⟨.inStringEsc, st, e⟩ := rfl
  have hu : step ⟨.inStringEsc, st, e⟩ 'u' = .ok ⟨.inStringHex 4, st, e⟩ := rfl
  -- the count of digits still owed goes down from four
  simp only [List.foldlM_cons, List.foldlM_nil, hslash, ok_bind, hu, step_inStringHex st e ha,
    step_inStringHex st e hb, step_inStringHex st e hc, step_inStringHex st e hd,
    Nat.reduceLeDiff, reduceIte, Nat.reduceSub]
  rfl

/-- Every shape the writer makes of a character keeps the machine inside the string. -/
theorem foldlM_escape {c : Char} {out : List Char} (h : Escape c out) :
    out.foldlM step ⟨.inString, st, e⟩ = .ok ⟨.inString, st, e⟩ := by
  cases h with
  | self hq hb hc => simp [step_inString_of_plain st e hq hb hc]
  | letter x hx =>
    have hletters : ∀ p ∈ escapeLetters, p.2 ∈ ['b', 'f', 'n', 'r', 't', '\\', '/', '"'] := by
      decide
    exact foldlM_shortEscape st e (hletters _ hx)
  | code a b d f ha hb hd hf _ _ => exact foldlM_unicodeEscape st e ha hb hd hf
  | stray _ => exact foldlM_unicodeEscape st e rfl rfl rfl rfl

/-- The escaped characters of a string keep the machine inside the string. -/
theorem foldlM_escaped (cs : List Char) :
    (cs.flatMap fun c => (escapeChar c).toList).foldlM step ⟨.inString, st, e⟩ =
      .ok ⟨.inString, st, e⟩ := by
  induction cs with
  | nil => rfl
  | cons c rest ih =>
    rw [List.flatMap_cons, List.foldlM_append, foldlM_escape st e (escape_escapeChar c), ok_bind,
      ih]

/-- A quoted string takes the machine from where a quote opens a string to the end of a
value. -/
theorem foldlM_quote {s₀ : CheckState}
    (h : step ⟨s₀, st, e⟩ '"' = .ok ⟨.inString, st, e⟩) (s : String) :
    (quote s).toList.foldlM step ⟨s₀, st, e⟩ = .ok ⟨.endValue, st, e⟩ := by
  rw [toList_quote, List.foldlM_cons, h, ok_bind, List.foldlM_append, foldlM_escaped, ok_bind]
  rfl

/-! ## After a value -/

/-- The states right after a value: a number may still go on. -/
def AfterValue (s : CheckState) : Prop := s = .endValue ∨ s = .zero ∨ s = .digits

/-- What follows a value is read the same from whatever state the value left. -/
theorem endValue_state (s s' : CheckState) (c : Char) :
    endValue ⟨s, st, e⟩ c = endValue ⟨s', st, e⟩ c := by
  cases st with
  | nil => simp [endValue]
  | cons f rest => cases f <;> simp [endValue, pop]

/-- A comma or a closing brace ends a value in every state right after one. -/
theorem step_of_afterValue {s : CheckState} (hs : AfterValue s) {c : Char}
    (hc : c = ',' ∨ c = '}') : step ⟨s, st, e⟩ c = endValue ⟨.endValue, st, e⟩ c := by
  rcases hs with rfl | rfl | rfl <;> rcases hc with rfl | rfl <;>
    simp [step, afterInteger, endValue_state st e _ .endValue]

/-! ## Integers -/

theorem foldlM_digits (l : List Char) (hl : ∀ c ∈ l, c.isDigit = true) :
    l.foldlM step ⟨.digits, st, e⟩ = .ok ⟨.digits, st, e⟩ := by
  induction l with
  | nil => rfl
  | cons c rest ih =>
    have hc : step ⟨.digits, st, e⟩ c = .ok ⟨.digits, st, e⟩ := by
      simp [step, hl c (by simp)]
    rw [List.foldlM_cons, hc, ok_bind]
    exact ih fun c hc => hl c (by simp [hc])

/-- A leading digit from `1` to `9`, at the start of a value or after a minus sign. -/
theorem step_digitChar {d : Nat} (h0 : 0 < d) (h9 : d < 10) {s₀ : CheckState}
    (hs : s₀ = .beginValue ∨ s₀ = .neg) :
    step ⟨s₀, st, e⟩ (Nat.digitChar d) = .ok ⟨.digits, st, e⟩ := by
  rcases hs with rfl | rfl <;> interval_cases d <;> rfl

/-! ## Values -/

/-- Text the machine takes as one value inside containers, when the value has `d` levels of
containers of its own: from the start of a value it reads the whole text and stands right after
the value, the same containers open. -/
def TakesValue (d : Nat) (text : List Char) : Prop :=
  ∀ st e, st ≠ [] → st.length + d ≤ maxDepth →
    ∃ s, AfterValue s ∧ text.foldlM step ⟨.beginValue, st, e⟩ = .ok ⟨s, st, e⟩

theorem takesValue_null (d : Nat) : TakesValue d (encode .null).toList :=
  fun _ _ _ _ => ⟨.endValue, .inl rfl, rfl⟩

theorem takesValue_bool (d : Nat) (b : Bool) : TakesValue d (encode (.bool b)).toList := by
  intro st e _ _
  refine ⟨.endValue, .inl rfl, ?_⟩
  cases b <;> rfl

theorem takesValue_str (d : Nat) (s : String) : TakesValue d (encode (.str s)).toList :=
  fun st e _ _ => ⟨.endValue, .inl rfl, foldlM_quote st e rfl s⟩

/-- The digits of a positive number, from the start of a value or after a minus sign. -/
theorem foldlM_toDigits {n : Nat} (hn : 0 < n) {s₀ : CheckState}
    (hs : s₀ = .beginValue ∨ s₀ = .neg) :
    (Nat.toDigits 10 n).foldlM step ⟨s₀, st, e⟩ = .ok ⟨.digits, st, e⟩ := by
  obtain ⟨d, r, hr, hd⟩ := toDigits_of_pos hn
  -- the leading digit is from `1` to `9`, the others are any digits
  have hrest : ∀ c ∈ r, c.isDigit = true := by
    intro c hc
    have hmem : c ∈ Nat.toDigits 10 n := by rw [hr]; exact List.mem_cons_of_mem _ hc
    exact Nat.isDigit_of_mem_toDigits (by decide) (by decide) hmem
  rw [hr, List.foldlM_cons, step_digitChar st e hd.1 hd.2 hs, ok_bind, foldlM_digits st e r hrest]

theorem takesValue_int (d : Nat) (i : Int) : TakesValue d (encode (.int i)).toList := by
  intro st e _ _
  rw [encode, toList_toString_int]
  rcases Int.lt_trichotomy i 0 with hneg | rfl | hpos
  · -- a minus sign, then the digits of the size
    have hminus : step ⟨.beginValue, st, e⟩ '-' = .ok ⟨.neg, st, e⟩ := rfl
    refine ⟨.digits, .inr (.inr rfl), ?_⟩
    rw [if_pos hneg, List.singleton_append, List.foldlM_cons, hminus, ok_bind,
      foldlM_toDigits st e (Int.natAbs_pos.2 (Int.ne_of_lt hneg)) (.inr rfl)]
  · exact ⟨.zero, .inr (.inl rfl), rfl⟩
  · refine ⟨.digits, .inr (.inr rfl), ?_⟩
    rw [if_neg (Int.not_lt.2 (Int.le_of_lt hpos)), List.nil_append,
      foldlM_toDigits st e (Int.natAbs_pos.2 (Int.ne_of_gt hpos)) (.inl rfl)]

/-! ## Objects -/

/-- One member of an object: from where a key may begin, the key, the colon and the value take
the machine to right after the value. -/
theorem foldlM_member {d : Nat} {k : String} {v : Json} (hv : TakesValue d (encode v).toList)
    (hd : st.length + 1 + d ≤ maxDepth) {s₀ : CheckState}
    (h₀ : step ⟨s₀, .objectKey :: st, e⟩ '"' = .ok ⟨.inString, .objectKey :: st, e⟩) :
    ∃ s, AfterValue s ∧
      (quote k ++ ":" ++ encode v).toList.foldlM step ⟨s₀, .objectKey :: st, e⟩ =
        .ok ⟨s, .objectValue :: st, e⟩ := by
  have hcolon : step ⟨.endValue, .objectKey :: st, e⟩ ':' =
      .ok ⟨.beginValue, .objectValue :: st, e⟩ := rfl
  obtain ⟨s, hs, hrun⟩ := hv (.objectValue :: st) e (List.cons_ne_nil _ _) (by simp; omega)
  refine ⟨s, hs, ?_⟩
  rw [String.toList_append, String.toList_append, List.foldlM_append, List.foldlM_append,
    foldlM_quote _ e h₀, ok_bind, show (":" : String).toList = [':'] from rfl, List.foldlM_cons,
    hcolon, ok_bind, List.foldlM_nil, pure_bind, hrun]

/-- The members of an object, from where a key may begin to right after the last value. -/
theorem foldlM_fields {d : Nat} (fs : List (String × Json)) (hne : fs ≠ [])
    (hfs : ∀ kv ∈ fs, TakesValue d (encode kv.2).toList) (hd : st.length + 1 + d ≤ maxDepth)
    {s₀ : CheckState}
    (h₀ : step ⟨s₀, .objectKey :: st, e⟩ '"' = .ok ⟨.inString, .objectKey :: st, e⟩) :
    ∃ s, AfterValue s ∧ (encodeFields fs).toList.foldlM step ⟨s₀, .objectKey :: st, e⟩ =
      .ok ⟨s, .objectValue :: st, e⟩ := by
  induction fs generalizing s₀ with
  | nil => exact absurd rfl hne
  | cons kv rest ih =>
    obtain ⟨k, v⟩ := kv
    obtain ⟨s, hs, hmember⟩ := foldlM_member st e (hfs (k, v) (by simp)) hd h₀
    cases rest with
    | nil => exact ⟨s, hs, hmember⟩
    | cons kv' rest' =>
      -- after a comma the next key begins
      have hcomma : step ⟨s, .objectValue :: st, e⟩ ',' =
          .ok ⟨.beginString, .objectKey :: st, e⟩ := by
        rw [step_of_afterValue _ e hs (.inl rfl)]
        rfl
      have hnext : step ⟨.beginString, .objectKey :: st, e⟩ '"' =
          .ok ⟨.inString, .objectKey :: st, e⟩ := rfl
      obtain ⟨s', hs', hrest⟩ := ih (List.cons_ne_nil _ _)
        (fun kv hkv => hfs kv (List.mem_cons_of_mem _ hkv)) hnext
      refine ⟨s', hs', ?_⟩
      rw [encodeFields.eq_3 k v _ (List.cons_ne_nil _ _), String.toList_append,
        String.toList_append, List.foldlM_append, List.foldlM_append, hmember, ok_bind,
        show (",":String).toList = [','] from rfl, List.foldlM_cons, hcomma, ok_bind,
        List.foldlM_nil, pure_bind, hrest]

/-- An object takes the machine from the start of a value to the close of the object's
container. -/
theorem foldlM_obj {d : Nat} (fs : List (String × Json))
    (hfs : ∀ kv ∈ fs, TakesValue d (encode kv.2).toList) (hd : st.length + 1 + d ≤ maxDepth) :
    (encode (.obj fs)).toList.foldlM step ⟨.beginValue, st, e⟩ =
      .ok (pop ⟨.endValue, .objectValue :: st, e⟩) := by
  have hopen : step ⟨.beginValue, st, e⟩ '{' =
      .ok ⟨.beginStringOrEmpty, .objectKey :: st, e⟩ := by
    show push ⟨.beginValue, st, e⟩ '{' .objectKey .beginStringOrEmpty = _
    dsimp only [push]
    rw [if_pos (by omega)]
  rw [toList_encode_obj, List.foldlM_cons, hopen, ok_bind, List.foldlM_append]
  by_cases hne : fs = []
  · -- the empty object closes right away
    subst hne
    rfl
  · have hfirst : step ⟨.beginStringOrEmpty, .objectKey :: st, e⟩ '"' =
        .ok ⟨.inString, .objectKey :: st, e⟩ := rfl
    obtain ⟨s, hs, hrun⟩ := foldlM_fields st e fs hne hfs hd hfirst
    rw [hrun, ok_bind, List.foldlM_cons, step_of_afterValue _ e hs (.inr rfl)]
    rfl

theorem takesValue_obj {d : Nat} (fs : List (String × Json))
    (hfs : ∀ kv ∈ fs, TakesValue d (encode kv.2).toList) :
    TakesValue (d + 1) (encode (.obj fs)).toList := by
  intro st e hst hd
  refine ⟨.endValue, .inl rfl, ?_⟩
  rw [foldlM_obj st e fs hfs (by omega)]
  cases st with
  | nil => exact absurd rfl hst
  | cons f rest => rfl

end Checker

/-- The text of a plain value is taken whole, by induction on how it is plain. -/
theorem Plain.takesValue {d : Nat} {j : Json} (h : Plain d j) :
    Checker.TakesValue d (encode j).toList := by
  induction h with
  | null d => exact Checker.takesValue_null d
  | bool d b => exact Checker.takesValue_bool d b
  | int d i => exact Checker.takesValue_int d i
  | str d _ => exact Checker.takesValue_str d _
  | obj d _ _ ih => exact Checker.takesValue_obj _ ih

/-- The text of a plain object passes the check. -/
theorem check_obj {d : Nat} {fs : List (String × Json)} (h : Plain (d + 1) (.obj fs))
    (hd : d + 1 ≤ maxDepth) : check (encode (.obj fs)) = .ok () := by
  cases h with
  | obj _ _ hfs =>
    have hrun := Checker.foldlM_obj [] false fs (fun kv hkv => (hfs kv hkv).takesValue)
      (by simp only [List.length_nil]; omega)
    simp only [check, hrun, ok_bind]
    rfl

end Windowing.Json
