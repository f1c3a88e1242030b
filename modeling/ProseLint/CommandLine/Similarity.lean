/-!
# Similar words

How alike two words are, as a number from zero to one (the Jaro similarity): characters of one
word are paired with equal ones of the other that stand not too far away. The share of paired
characters in both words counts, and the share of pairs that are in order.
-/

namespace ProseLint.CommandLine.Similarity

/-- Takes the first free character equal to `c` from the places `low` to `high` (exclusive) of a
word, of which `place` characters are behind. -/
def take? (c : Char) (low high place : Nat) : List (Char × Bool) → Option (List (Char × Bool))
  | [] => none
  | (d, taken) :: rest =>
    if low ≤ place && place < high && c == d && !taken then some ((d, true) :: rest)
    else (take? c low high (place + 1) rest).map ((d, taken) :: ·)

/-- Pairs the characters of a word, of which `place` are behind, with free ones of another. The
result has the paired characters in order and the other word with the taken ones marked. -/
def pairUp (range place : Nat) (other : List (Char × Bool)) :
    List Char → List Char × List (Char × Bool)
  | [] => ([], other)
  | c :: cs =>
    match take? c (place - range) (place + range + 1) 0 other with
    | some marked =>
      let (paired, result) := pairUp range (place + 1) marked cs
      (c :: paired, result)
    | none => pairUp range (place + 1) other cs

/-- How alike two words are. -/
def score (a b : List Char) : Float :=
  if a.isEmpty && b.isEmpty then 1
  else
    let range := max a.length b.length / 2 - 1
    let (paired, marked) := pairUp range 0 (b.map fun c => (c, false)) a
    let partners := (marked.filter Prod.snd).map Prod.fst
    let crossed := ((paired.zip partners).countP fun (c, d) => c != d) / 2
    if paired.isEmpty then 0
    else
      let m := Float.ofNat paired.length
      (m / Float.ofNat a.length + m / Float.ofNat b.length +
        Float.ofNat (paired.length - crossed) / m) / 3

/-- A candidate with its score, in its place among others in ascending order; equal ones stay behind
those before them. -/
def insertScored (new : Float × String) : List (Float × String) → List (Float × String)
  | [] => [new]
  | old :: rest => if old.1 > new.1 then new :: old :: rest else old :: insertScored new rest

/-- The candidates that are alike enough to a word, the most alike last. -/
def similar (word : String) (candidates : List String) : List String :=
  let scored := candidates.map fun c => (score word.toList c.toList, c)
  ((scored.filter fun s => s.1 > 0.7).foldl (fun sorted s => insertScored s sorted) []).map Prod.snd

end ProseLint.CommandLine.Similarity
