/-!
# Glob patterns

A pattern is matched against a whole path. `?` stands for any character, `*` for any sequence, and
brackets for one character of a set or outside it; all of them match slashes and dots too. `**` must
be a whole component of the pattern: it stands for any number of components. A bracket without end
and misplaced stars make a pattern invalid.
-/

namespace ProseLint

namespace Glob

/-- One or more characters of a set, between two bounds. -/
structure Range where
  first : Char
  last : Char
deriving Repr, DecidableEq, Inhabited

namespace Range

/-- Does the character lie between the bounds? -/
def contains (r : Range) (c : Char) : Bool := r.first ≤ c && c ≤ r.last

end Range

/-- A piece of a pattern. -/
inductive Token where
  | char (c : Char)
  | anyChar
  | anyOf (ranges : List Range)
  | noneOf (ranges : List Range)
  | sequence
  | components
deriving Repr, DecidableEq, Inhabited

/-- What makes a text no pattern. -/
inductive Fault where
  | tooManyStars
  | misplacedStars
  | unclosedBracket
deriving Repr, DecidableEq, Inhabited

/-- A fault and the character at which it shows. -/
structure SyntaxError where
  fault : Fault
  index : Nat
deriving Repr, DecidableEq, Inhabited

namespace SyntaxError

/-- The words for an error. -/
def describe (e : SyntaxError) : String :=
  "Pattern syntax error near position " ++ toString e.index ++ ": " ++
  match e.fault with
  | .tooManyStars => "wildcards are either regular `*` or recursive `**`"
  | .misplacedStars => "recursive wildcards must form a single path component"
  | .unclosedBracket => "invalid range pattern"

end SyntaxError

/-- The ranges that the inside of brackets lists: a dash between two characters spans those between
them. -/
def rangesOf : List Char → List Range
  | a :: '-' :: b :: cs => ⟨a, b⟩ :: rangesOf cs
  | c :: cs => ⟨c, c⟩ :: rangesOf cs
  | [] => []

/-- The inside of brackets, which has at least one character, and what follows the closing one. -/
def splitBracket? : List Char → Option (List Char × List Char)
  | [] => none
  | c :: cs =>
    match cs.dropWhile (· != ']') with
    | [] => none
    | _ :: rest => some (c :: cs.takeWhile (· != ']'), rest)

theorem splitBracket?_length {cs inside rest : List Char}
    (h : splitBracket? cs = some (inside, rest)) : rest.length < cs.length := by
  cases cs with
  | nil => simp [splitBracket?] at h
  | cons c cs =>
    have hle := (List.dropWhile_suffix (l := cs) (· != ']')).length_le
    simp only [splitBracket?] at h
    split at h
    · simp at h
    · next heq =>
      simp only [Option.some.injEq, Prod.mk.injEq] at h
      rw [heq, h.2] at hle
      simp only [List.length_cons] at hle ⊢
      omega

/-- The pieces of a pattern, of which `index` characters are behind and `atStart` says whether a
component begins here. -/
def tokensOf (index : Nat) (atStart : Bool) : List Char → Except SyntaxError (List Token)
  | [] => .ok []
  | '?' :: cs => do return .anyChar :: (← tokensOf (index + 1) false cs)
  | '*' :: '*' :: '*' :: _ => .error ⟨.tooManyStars, index + 2⟩
  | '*' :: '*' :: cs =>
    if !atStart then .error ⟨.misplacedStars, index - 1⟩
    else match cs with
      | [] => .ok [.components]
      | '/' :: rest => do return .components :: (← tokensOf (index + 3) true rest)
      | _ => .error ⟨.misplacedStars, index + 2⟩
  | '*' :: cs => do return .sequence :: (← tokensOf (index + 1) false cs)
  | '[' :: '!' :: cs =>
    match h : splitBracket? cs with
    | some (inside, rest) =>
      have := splitBracket?_length h
      do return .noneOf (rangesOf inside) :: (← tokensOf (index + inside.length + 3) false rest)
    | none => .error ⟨.unclosedBracket, index⟩
  | '[' :: cs =>
    match h : splitBracket? cs with
    | some (inside, rest) =>
      have := splitBracket?_length h
      do return .anyOf (rangesOf inside) :: (← tokensOf (index + inside.length + 2) false rest)
    | none => .error ⟨.unclosedBracket, index⟩
  | c :: cs => do return .char c :: (← tokensOf (index + 1) (c == '/') cs)
termination_by cs => cs.length

/-- The ends of a text, the whole of it first. -/
def tails : List Char → List (List Char)
  | [] => [[]]
  | c :: cs => (c :: cs) :: tails cs

/-- The ends of a text behind its slashes, and the empty end. -/
def tailsBehindSlash : List Char → List (List Char)
  | [] => [[]]
  | c :: cs => if c == '/' then cs :: tailsBehindSlash cs else tailsBehindSlash cs

/-- Does the piece, which stands for one character, stand for this one? -/
def Token.accepts (c : Char) : Token → Bool
  | .char d => c == d
  | .anyChar => true
  | .anyOf ranges => ranges.any fun r => r.contains c
  | .noneOf ranges => !ranges.any fun r => r.contains c
  | .sequence | .components => false

/-- Do the pieces match the whole text? -/
def tokensMatch : List Token → List Char → Bool
  | [], cs => cs.isEmpty
  | .sequence :: ts, cs => (tails cs).any (tokensMatch ts)
  | .components :: ts, cs => tokensMatch ts cs || (tailsBehindSlash cs).any (tokensMatch ts)
  | t :: ts, c :: cs => t.accepts c && tokensMatch ts cs
  | _ :: _, [] => false

end Glob

/-- A pattern of paths. -/
structure Glob where
  tokens : List Glob.Token
deriving Repr, DecidableEq, Inhabited

namespace Glob

/-- The pattern that a text stands for. -/
def ofString (text : String) : Except SyntaxError Glob :=
  (tokensOf 0 true text.toList).map Glob.mk

/-- Does the pattern match the whole path? -/
def covers (g : Glob) (path : String) : Bool := tokensMatch g.tokens path.toList

end Glob

end ProseLint
