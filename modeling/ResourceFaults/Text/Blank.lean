/-!
# Blanks and words

A blank is a character with the `White_Space` property.  `words` cuts a text at
its blanks, `trim` drops the blanks at both ends, and `joinChars` puts words
together with single spaces.
-/

namespace ResourceFaults.Text

/-- The characters with the `White_Space` property. -/
def isBlank (c : Char) : Bool :=
  let n := c.toNat
  (9 ≤ n && n ≤ 13) || n == 0x20 || n == 0x85 || n == 0xA0 || n == 0x1680 ||
    (0x2000 ≤ n && n ≤ 0x200A) || n == 0x2028 || n == 0x2029 || n == 0x202F ||
    n == 0x205F || n == 0x3000

/-- The longest run of characters at the front that are no blanks. -/
def firstWord (cs : List Char) : List Char :=
  cs.takeWhile fun c => !isBlank c

/-- What follows `firstWord`. -/
def afterWord (cs : List Char) : List Char :=
  cs.dropWhile fun c => !isBlank c

theorem length_afterWord_le (cs : List Char) : (afterWord cs).length ≤ cs.length :=
  (List.dropWhile_sublist _).length_le

/-- The maximal runs of characters that are no blanks, in order. -/
def wordChars : List Char → List (List Char)
  | [] => []
  | c :: cs =>
    if isBlank c then wordChars cs
    else (c :: firstWord cs) :: wordChars (afterWord cs)
termination_by cs => cs.length
decreasing_by
  · simp
  · have := length_afterWord_le cs
    simp only [List.length_cons]; omega

/-- The words of a text. -/
def words (s : String) : List String :=
  (wordChars s.toList).map String.ofList

/-- Without the blanks at the front. -/
def trimStart (cs : List Char) : List Char :=
  cs.dropWhile isBlank

/-- Without the blanks at both ends. -/
def trimChars (cs : List Char) : List Char :=
  (trimStart (trimStart cs).reverse).reverse

/-- Without the blanks at both ends. -/
def trim (s : String) : String :=
  String.ofList (trimChars s.toList)

/-- Words separated by single spaces. -/
def joinChars : List (List Char) → List Char
  | [] => []
  | [w] => w
  | w :: ws => w ++ ' ' :: joinChars ws

end ResourceFaults.Text
