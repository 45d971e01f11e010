import Mathlib
import ResourceFaults.Proofs.Decimal.Writing
import ResourceFaults.Json.Scalar
import ResourceFaults.Json.Document

/-!
# The texts that spell a document

`Spells d cs` says that some characters are a text of the document `d`: its scalars
as they are written, its lists and objects with commas and colons where they belong,
and blanks wherever blanks may stand.  The text on one line and the text with one
entry a line are two such texts (`spells_compact`, `spells_pretty`), so whoever reads
every text that spells a document reads both.
-/

namespace ResourceFaults.Json

/-! ## Blanks -/

/-- Whether some characters are blanks. -/
def AreSpaces (sp : List Char) : Prop :=
  ∀ c ∈ sp, isSpace c = true

@[simp] theorem areSpaces_nil : AreSpaces [] := fun _ h => absurd h List.not_mem_nil

theorem areSpaces_newLine (level : Nat) : AreSpaces (newLine level) := by
  intro c hc
  rcases List.mem_cons.1 hc with rfl | hc
  · rfl
  · obtain rfl := List.eq_of_mem_replicate hc
    rfl

theorem skipSpace_append {sp : List Char} (h : AreSpaces sp) (cs : List Char) :
    skipSpace (sp ++ cs) = skipSpace cs :=
  List.dropWhile_append_of_pos h

theorem skipSpace_cons {c : Char} (h : isSpace c = false) (cs : List Char) :
    skipSpace (c :: cs) = c :: cs :=
  List.dropWhile_cons_of_neg (by simp [h])

/-! ## Spelling -/

/-- What stands in front of an entry: a comma, if it is not the first. -/
def comma (first : Bool) : List Char :=
  if first then [] else [',']

mutual

/-- Whether some characters are a text of a document. -/
inductive Spells : Document → List Char → Prop
  | null : Spells .null "null".toList
  | boolean (b : Bool) : Spells (.boolean b) (if b then "true" else "false").toList
  | integer (i : Int) : Spells (.integer i) (Decimal.signedDigits i)
  | real (x : Float) : Spells (.real x) (realChars x)
  | string (s : String) : Spells (.string s) (stringChars s)
  | list {items : List Document} {cs : List Char} (h : SpellsItems true items cs) :
    Spells (.list items) ('[' :: cs)
  | object {fields : List (String × Document)} {cs : List Char} (h : SpellsFields true fields cs) :
    Spells (.object fields) ('\x7b' :: cs)

/-- Whether some characters are the items of a list with its closing bracket. -/
inductive SpellsItems : (first : Bool) → List Document → List Char → Prop
  | close {first : Bool} {sp : List Char} (hsp : AreSpaces sp) : SpellsItems first [] (sp ++ [']'])
  | item {first : Bool} {d : Document} {ds : List Document} {sp cs rest : List Char}
      (hsp : AreSpaces sp) (hd : Spells d cs) (hds : SpellsItems false ds rest) :
    SpellsItems first (d :: ds) (comma first ++ (sp ++ (cs ++ rest)))

/-- Whether some characters are the fields of an object with its closing brace. -/
inductive SpellsFields : (first : Bool) → List (String × Document) → List Char → Prop
  | close {first : Bool} {sp : List Char} (hsp : AreSpaces sp) :
    SpellsFields first [] (sp ++ ['\x7d'])
  | field {first : Bool} {name : String} {d : Document} {fields : List (String × Document)}
      {sp gap cs rest : List Char} (hsp : AreSpaces sp) (hgap : AreSpaces gap) (hd : Spells d cs)
      (hfields : SpellsFields false fields rest) :
    SpellsFields first ((name, d) :: fields)
      (comma first ++ (sp ++ (stringChars name ++ ':' :: (gap ++ (cs ++ rest)))))

end

/-! ## The two layouts -/

mutual

theorem spells_compact : (d : Document) → Spells d d.compactChars
  | .null => .null
  | .boolean b => .boolean b
  | .integer i => .integer i
  | .real x => .real x
  | .string s => .string s
  | .list items => .list (spellsItems_compact true items)
  | .object fields => .object (spellsFields_compact true fields)

theorem spellsItems_compact (first : Bool) :
    (ds : List Document) → SpellsItems first ds (compactItems first ds ++ [']'])
  | [] => .close areSpaces_nil
  | d :: ds => by
    have h : SpellsItems first (d :: ds) _ :=
      .item areSpaces_nil (spells_compact d) (spellsItems_compact false ds)
    simpa [compactItems, comma] using h

theorem spellsFields_compact (first : Bool) :
    (fields : List (String × Document)) →
      SpellsFields first fields (compactFields first fields ++ ['\x7d'])
  | [] => .close areSpaces_nil
  | (name, d) :: fields => by
    have h : SpellsFields first ((name, d) :: fields) _ :=
      .field areSpaces_nil areSpaces_nil (spells_compact d) (spellsFields_compact false fields)
    simpa [compactFields, comma] using h

end

mutual

theorem spells_pretty : (level : Nat) → (d : Document) → Spells d (d.prettyChars level)
  | _, .null => .null
  | _, .boolean b => .boolean b
  | _, .integer i => .integer i
  | _, .real x => .real x
  | _, .string s => .string s
  | _, .list [] => .list (.close areSpaces_nil)
  | level, .list (d :: ds) => by
    have h := Spells.list (spellsItems_pretty level (level + 1) true (d :: ds))
    simpa [Document.prettyChars] using h
  | _, .object [] => .object (.close areSpaces_nil)
  | level, .object (f :: fs) => by
    have h := Spells.object (spellsFields_pretty level (level + 1) true (f :: fs))
    simpa [Document.prettyChars] using h

theorem spellsItems_pretty (outer level : Nat) (first : Bool) :
    (ds : List Document) →
      SpellsItems first ds (prettyItems level first ds ++ (newLine outer ++ [']']))
  | [] => .close (areSpaces_newLine outer)
  | d :: ds => by
    have h : SpellsItems first (d :: ds) _ :=
      .item (areSpaces_newLine level) (spells_pretty level d)
        (spellsItems_pretty outer level false ds)
    simpa [prettyItems, comma] using h

theorem spellsFields_pretty (outer level : Nat) (first : Bool) :
    (fields : List (String × Document)) →
      SpellsFields first fields (prettyFields level first fields ++ (newLine outer ++ ['\x7d']))
  | [] => .close (areSpaces_newLine outer)
  | (name, d) :: fields => by
    have hgap : AreSpaces [' '] := by simp [AreSpaces, isSpace]
    have h : SpellsFields first ((name, d) :: fields) _ :=
      .field (areSpaces_newLine level) hgap (spells_pretty level d)
        (spellsFields_pretty outer level false fields)
    simpa [prettyFields, comma] using h

end

/-! ## What follows a value -/

/-- Whether what follows can follow a value: nothing, a comma, a closing bracket or
brace, or a blank. -/
def EndsValue (cs : List Char) : Prop :=
  ∀ c ∈ cs.head?, c = ',' ∨ c = ']' ∨ c = '\x7d' ∨ isSpace c = true

theorem endsValue_nil : EndsValue [] := fun _ h => by cases h

theorem endsValue_cons {c : Char} {cs : List Char}
    (h : c = ',' ∨ c = ']' ∨ c = '\x7d' ∨ isSpace c = true) : EndsValue (c :: cs) := by
  intro c' hc'
  obtain rfl : c = c' := by simpa using hc'
  exact h

/-- Blanks and a closing character can follow a value. -/
theorem endsValue_close {sp cs : List Char} {c : Char} (hsp : AreSpaces sp)
    (hc : c = ']' ∨ c = '\x7d') : EndsValue (sp ++ c :: cs) := by
  cases sp with
  | nil => exact endsValue_cons (.inr (hc.imp_right .inl))
  | cons b sp => exact endsValue_cons (.inr (.inr (.inr (hsp b List.mem_cons_self))))

theorem SpellsItems.endsValue {ds : List Document} {cs : List Char} (h : SpellsItems false ds cs)
    (more : List Char) : EndsValue (cs ++ more) := by
  cases h with
  | close hsp =>
    rw [List.append_assoc]
    exact endsValue_close hsp (.inl rfl)
  | item => exact endsValue_cons (.inl rfl)

theorem SpellsFields.endsValue {fields : List (String × Document)} {cs : List Char}
    (h : SpellsFields false fields cs) (more : List Char) : EndsValue (cs ++ more) := by
  cases h with
  | close hsp =>
    rw [List.append_assoc]
    exact endsValue_close hsp (.inr rfl)
  | field => exact endsValue_cons (.inl rfl)

/-- What follows a value does not go on with a number. -/
theorem EndsValue.not_number {c : Char} {cs : List Char} (h : EndsValue (c :: cs)) :
    c.isDigit = false ∧ c ≠ '.' ∧ c ≠ 'e' ∧ c ≠ 'E' ∧ c ≠ '+' ∧ c ≠ '-' := by
  rcases h c rfl with rfl | rfl | rfl | hspace
  · decide
  · decide
  · decide
  · simp only [isSpace, Bool.or_eq_true, beq_iff_eq] at hspace
    rcases hspace with ((rfl | rfl) | rfl) | rfl <;> decide

/-! ## How a value starts -/

/-- Whether a document is never written as `null`. -/
def Document.isSolid : Document → Bool
  | .null | .real _ => false
  | _ => true

theorem realChars_cases (x : Float) : realChars x = "null".toList ∨
    (∀ c ∈ realChars x, Decimal.IsNumberChar c) ∧ Decimal.StartsNumber (realChars x) := by
  unfold realChars
  cases h : numberLayout.float? x with
  | none => exact .inl rfl
  | some cs => exact .inr (Decimal.Layout.spec_of_float? h)

theorem isSpace_of_isNumberChar {c : Char} (h : Decimal.IsNumberChar c) : isSpace c = false := by
  rcases h with h | rfl | rfl | rfl | rfl
  · have hspace : isSpace c ≠ true := fun hspace => by
      simp only [isSpace, Bool.or_eq_true, beq_iff_eq] at hspace
      rcases hspace with ((rfl | rfl) | rfl) | rfl <;> exact absurd h (by decide)
    simpa using hspace
  all_goals rfl

theorem startsNumber_front {c : Char} (h : c = '-' ∨ c.isDigit = true) :
    isSpace c = false ∧ c ≠ ']' ∧ c ≠ 'n' := by
  rcases h with rfl | h
  · decide
  · refine ⟨isSpace_of_isNumberChar (.inl h), ?_, ?_⟩ <;>
      · rintro rfl
        exact absurd h (by decide)

/-- A value starts with no blank and no closing bracket, and with `n` only if it may be
written as `null`. -/
theorem Spells.front {d : Document} {cs : List Char} (h : Spells d cs) :
    ∃ c rest, cs = c :: rest ∧ isSpace c = false ∧ c ≠ ']' ∧ (d.isSolid = true → c ≠ 'n') := by
  cases h with
  | null => exact ⟨'n', _, rfl, rfl, by decide, by simp [Document.isSolid]⟩
  | boolean b => cases b <;> exact ⟨_, _, rfl, rfl, by decide, by decide⟩
  | integer i =>
    obtain ⟨c, rest, hcs, hc⟩ := Decimal.startsNumber_signedDigits i
    obtain ⟨hspace, hbracket, hletter⟩ := startsNumber_front hc
    exact ⟨c, rest, hcs, hspace, hbracket, fun _ => hletter⟩
  | real x =>
    rcases realChars_cases x with hnull | ⟨-, c, rest, hcs, hc⟩
    · exact ⟨'n', _, hnull, rfl, by decide, by simp [Document.isSolid]⟩
    · obtain ⟨hspace, hbracket, hletter⟩ := startsNumber_front hc
      exact ⟨c, rest, hcs, hspace, hbracket, fun _ => hletter⟩
  | string s => exact ⟨'"', _, rfl, rfl, by decide, fun _ => by decide⟩
  | list => exact ⟨'[', _, rfl, rfl, by decide, fun _ => by decide⟩
  | object => exact ⟨'\x7b', _, rfl, rfl, by decide, fun _ => by decide⟩

/-! ## How long a text is -/

/-- Each item takes a character at least. -/
theorem SpellsItems.length_le {first : Bool} {ds : List Document} {cs : List Char}
    (h : SpellsItems first ds cs) : ds.length ≤ cs.length := by
  induction ds generalizing first cs with
  | nil => exact Nat.zero_le _
  | cons d ds ih =>
    cases h with
    | item hsp hd hds =>
      obtain ⟨c, rest, rfl, -⟩ := hd.front
      have := ih hds
      simp only [List.length_append, List.length_cons]
      omega

/-- Each field takes a character at least. -/
theorem SpellsFields.length_le {first : Bool} {fields : List (String × Document)} {cs : List Char}
    (h : SpellsFields first fields cs) : fields.length ≤ cs.length := by
  induction fields generalizing first cs with
  | nil => exact Nat.zero_le _
  | cons f fields ih =>
    cases h with
    | field hsp hgap hd hfields =>
      have := ih hfields
      simp only [List.length_append, List.length_cons]
      omega

end ResourceFaults.Json
