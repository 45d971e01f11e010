/-!
# Similarity of two words

A number from 0 to 1.  Two equal characters match when their positions differ by
less than half the longer length; each character matches at most once, and the
first free partner is taken.  Two matches that come in different order count
half a transposition each.  The similarity is the mean of three shares: the
matched part of either word, and the part of the matches that is in order.
-/

namespace ResourceFaults.Text

/-- Marks the first unmarked `c` at an index from `low` to below `high`, the
first element of the list having index `index`. -/
def claim (c : Char) (low high : Nat) : (index : Nat) → List (Char × Bool) →
    Option (List (Char × Bool))
  | _, [] => none
  | index, (d, taken) :: rest =>
    if index < high then
      if low ≤ index && c == d && !taken then some ((d, true) :: rest)
      else (claim c low high (index + 1) rest).map ((d, taken) :: ·)
    else none

/-- Lets the characters of the first word claim partners in the second, from
left to right.  The answer is the characters that found one, in the order of the
first word, and the marked second word. -/
def claimAll (range : Nat) : (index : Nat) → List Char → List (Char × Bool) →
    List Char × List (Char × Bool)
  | _, [], marked => ([], marked)
  | index, c :: cs, marked =>
    match claim c (index - range) (index + range + 1) 0 marked with
    | some marked' =>
      let (found, final) := claimAll range (index + 1) cs marked'
      (c :: found, final)
    | none => claimAll range (index + 1) cs marked

/-- How many places of two equally long lists differ. -/
def mismatches : List Char → List Char → Nat
  | a :: as, b :: bs => (if a == b then 0 else 1) + mismatches as bs
  | _, _ => 0

/-- The similarity of two words. -/
def similarity (a b : List Char) : Float :=
  if a.isEmpty && b.isEmpty then 1
  else
    let range := max a.length b.length / 2 - 1
    let (found, marked) := claimAll range 0 a (b.map fun c => (c, false))
    let partners := (marked.filter (·.2)).map (·.1)
    let matched := found.length
    if matched == 0 then 0
    else
      let ordered := matched - mismatches found partners / 2
      (Float.ofNat matched / Float.ofNat a.length + Float.ofNat matched / Float.ofNat b.length
        + Float.ofNat ordered / Float.ofNat matched) / 3

end ResourceFaults.Text
