set_option autoImplicit false

/-! # Patterns of `LIKE` and `GLOB`

A `LIKE` pattern matches `%` to any run of characters and `_` to any one character, and
every other character to itself, ASCII letters without regard to case. An escape
character, when one is given, makes the character after it stand for itself.

A `GLOB` pattern matches `*` to any run, `?` to any one character, and `[…]` to one
character of a set: characters and ranges `a-z`, all of it negated by a leading `^`, with
`]` first standing for itself. Case matters.

Matching stops at a NUL character in either text. The search after a wildcard tries each
place in the text, and a failure that no later place can mend ends the search. -/

namespace Windowing.Sql

/-- How a pattern is read: its any-run and any-one characters (none when the escape
character took their place), its other special character (the escape character, or `[`
for sets), whether it reads sets, and whether case is ignored. -/
structure PatternRules where
  matchAll : Option Char
  matchOne : Option Char
  matchOther : Option Char
  sets : Bool
  noCase : Bool

/-- The outcome of matching: a match, no match here, or no match at any later place. -/
inductive MatchResult where
  | matched
  | noMatch
  | noWildcardMatch
  deriving BEq, Inhabited

/-- An ASCII letter in lower case. -/
def asciiLower (c : Char) : Char := if 'A' ≤ c && c ≤ 'Z' then Char.ofNat (c.toNat + 32) else c

/-- Whether a character of a set matches, and the pattern after the set (none when the
set is not closed). -/
def matchSet (c : Char) : List Char → Option Char → Bool → Option (Bool × List Char)
  | [], _, _ => none
  | ']' :: rest, _, seen => some (seen, rest)
  | '-' :: d :: rest, some prior, seen =>
    if d != ']' then
      matchSet c rest none (seen || (prior ≤ c && c ≤ d))
    else matchSet c (d :: rest) (some '-') (seen || c == '-')
  | d :: rest, _, seen => matchSet c rest (some d) (seen || c == d)

/-- The text with NUL and all after it removed. -/
def beforeNul (cs : List Char) : List Char := cs.takeWhile (· != '\x00')

mutual

/-- Match a pattern against a text. -/
def patternMatch (r : PatternRules) : Nat → List Char → List Char → MatchResult
  | 0, _, _ => .noMatch
  | _ + 1, [], s => if s.isEmpty then .matched else .noMatch
  | fuel + 1, c :: pat, s =>
    if some c == r.matchAll then afterStar r fuel pat s
    else if some c == r.matchOther then
      if !r.sets then
        match pat with
        | [] => .noMatch
        | e :: pat' =>
          match s with
          | d :: s' =>
            if d == e || (r.noCase && e.toNat < 128 && d.toNat < 128 && asciiLower e == asciiLower d) then
              patternMatch r fuel pat' s'
            else .noMatch
          | [] => .noMatch
      else
        match s with
        | [] => .noMatch
        | d :: s' =>
          let (inv, body) := match pat with
            | '^' :: b => (true, b)
            | b => (false, b)
          let (seen0, body) := match body with
            | ']' :: b => (d == ']', b)
            | b => (false, b)
          match matchSet d body none seen0 with
          | none => .noMatch
          | some (seen, rest) => if seen != inv then patternMatch r fuel rest s' else .noMatch
    else
      match s with
      | [] => .noMatch
      | d :: s' =>
        if c == d then patternMatch r fuel pat s'
        else if r.noCase && c.toNat < 128 && d.toNat < 128 && asciiLower c == asciiLower d then
          patternMatch r fuel pat s'
        else if some c == r.matchOne then patternMatch r fuel pat s'
        else .noMatch

/-- Match after a `*` or `%`: further wildcards are folded in, then each place of the text
is tried. -/
def afterStar (r : PatternRules) : Nat → List Char → List Char → MatchResult
  | 0, _, _ => .noMatch
  | fuel + 1, pat, s =>
    match pat with
    | [] => .matched
    | c :: rest =>
      if some c == r.matchAll then afterStar r fuel rest s
      else if some c == r.matchOne then
        match s with
        | [] => .noWildcardMatch
        | _ :: s' => afterStar r fuel rest s'
      else if some c == r.matchOther && r.sets then
        tryEach r fuel pat s
      else
        let (c, pat', escaped) : Char × List Char × Bool :=
          if some c == r.matchOther then
            match rest with
            | e :: more => (e, more, true)
            | [] => (c, rest, false)
          else (c, rest, false)
        if some c == r.matchOther && !escaped then .noWildcardMatch
        else searchChar r fuel c pat' s

/-- Try a pattern at each place of the text. -/
def tryEach (r : PatternRules) : Nat → List Char → List Char → MatchResult
  | 0, _, _ => .noMatch
  | fuel + 1, pat, s =>
    match s with
    | [] => .noWildcardMatch
    | _ :: s' =>
      match patternMatch r fuel pat s with
      | .noMatch => tryEach r fuel pat s'
      | m => m

/-- After a wildcard, find each place where the character `c` comes and match the rest of
the pattern after it. -/
def searchChar (r : PatternRules) : Nat → Char → List Char → List Char → MatchResult
  | 0, _, _, _ => .noMatch
  | fuel + 1, c, pat, s =>
    match s with
    | [] => .noWildcardMatch
    | d :: s' =>
      let same := d == c || (r.noCase && c.toNat < 128 && asciiLower c == asciiLower d)
      if same then
        match patternMatch r fuel pat s' with
        | .noMatch => searchChar r fuel c pat s'
        | m => m
      else searchChar r fuel c pat s'

end

/-- Whether a text matches a `LIKE` pattern, with an optional escape character. -/
def likeMatch (pattern text : String) (escape : Option Char) : Bool :=
  let rules : PatternRules :=
    { matchAll := if escape == some '%' then none else some '%',
      matchOne := if escape == some '_' then none else some '_',
      matchOther := escape, sets := false, noCase := true }
  let p := beforeNul pattern.toList
  let s := beforeNul text.toList
  patternMatch rules ((p.length + 2) * (s.length + 2) + 2) p s == .matched

/-- Whether a text matches a `GLOB` pattern. -/
def globMatch (pattern text : String) : Bool :=
  let rules : PatternRules :=
    { matchAll := some '*', matchOne := some '?', matchOther := some '[', sets := true,
      noCase := false }
  let p := beforeNul pattern.toList
  let s := beforeNul text.toList
  patternMatch rules ((p.length + 2) * (s.length + 2) + 2) p s == .matched

end Windowing.Sql
