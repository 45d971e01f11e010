import Mathlib
import ResourceFaults.Proofs.Text.Words
import ResourceFaults.Text.Lines

/-!
# Texts as rows of fields

A text can be taken as a table: each line is a row, and the words of the line are its
fields.  `Spaced` and `IsTable` say how a table may be written, with any blanks around
the fields and either ending behind a line; neither cuts a text.

`spaced_iff` and `IsTable.findSome?_lines` say that cutting a text into words and lines
finds the fields and rows it was written from, and `exists_isTable` that every text is
some table.
-/

namespace ResourceFaults.Text

variable {c : Char} {cs line text : List Char} {row : List (List Char)}

/-! ## Fields -/

/-- Whether a line is some fields with blanks around them.  A field goes up to the next
blank or to the end of the line. -/
inductive Spaced : List (List Char) → List Char → Prop where
  | blanks {cs : List Char} (h : ∀ c ∈ cs, isBlank c = true) : Spaced [] cs
  | field {front w rest : List Char} {row : List (List Char)}
      (hfront : ∀ c ∈ front, isBlank c = true) (hw : IsWord w)
      (hrest : ∀ c ∈ rest.head?, isBlank c = true) (h : Spaced row rest) :
      Spaced (w :: row) (front ++ (w ++ rest))

theorem Spaced.blank_cons (hc : isBlank c = true) (h : Spaced row cs) : Spaced row (c :: cs) := by
  cases h with
  | blanks h => exact .blanks (List.forall_mem_cons.2 ⟨hc, h⟩)
  | field hfront hw hrest h =>
    exact @Spaced.field (c :: _) _ _ _ (List.forall_mem_cons.2 ⟨hc, hfront⟩) hw hrest h

/-- The words of a line stand in it with blanks around them. -/
theorem spaced_wordChars (cs : List Char) : Spaced (wordChars cs) cs := by
  fun_induction wordChars cs with
  | case1 => exact .blanks (List.forall_mem_nil _)
  | case2 c cs hc ih => exact ih.blank_cons hc
  | case3 c cs hc ih =>
    have hc : isBlank c = false := by simpa using hc
    have hw : IsWord (c :: firstWord cs) := by
      have hmem : c :: firstWord cs ∈ wordChars (c :: cs) := by
        rw [wordChars_cons hc]
        exact List.mem_cons_self
      exact isWord_of_mem hmem
    have hcut : c :: cs = [] ++ ((c :: firstWord cs) ++ afterWord cs) :=
      congrArg (c :: ·) List.takeWhile_append_dropWhile.symm
    rw [hcut]
    refine .field (List.forall_mem_nil _) hw ?_ ih
    intro b hb
    have hhead : (cs.dropWhile fun c => !isBlank c).head? = some b := hb
    rw [← List.find?_eq_head?_dropWhile_not] at hhead
    exact List.find?_some hhead

theorem Spaced.wordChars_eq (h : Spaced row cs) : wordChars cs = row := by
  induction h with
  | blanks h => exact wordChars_eq_nil_iff.2 h
  | @field front w rest row hfront hw hrest h ih =>
    rw [wordChars_blanks_append hfront]
    cases rest with
    | nil =>
      rw [wordChars_nil] at ih
      rw [List.append_nil, hw.wordChars_eq, ih]
    | cons c rest =>
      have hc : isBlank c = true := hrest c rfl
      rw [wordChars_blank hc] at ih
      rw [wordChars_append_blank hc, hw.wordChars_eq, ih, List.singleton_append]

/-- A line is its own words with blanks around them, and no other fields. -/
theorem spaced_iff : Spaced row cs ↔ wordChars cs = row := by
  constructor
  · exact Spaced.wordChars_eq
  · rintro rfl
    exact spaced_wordChars cs

/-! ## Rows -/

/-- How a line ends that is not the last. -/
inductive LineEnding where
  | feed
  | returnFeed

def LineEnding.chars : LineEnding → List Char
  | feed => ['\n']
  | returnFeed => ['\r', '\n']

/-- Whether a text is some rows, each on a line of its own.  What follows the last ending
is a row too, and it may be empty. -/
inductive IsTable : List (List (List Char)) → List Char → Prop where
  | last {row : List (List Char)} {line : List Char} (hline : '\n' ∉ line)
      (hrow : Spaced row line) : IsTable [row] line
  | cons {row : List (List Char)} {rows : List (List (List Char))} {line text : List Char}
      (ending : LineEnding) (hline : '\n' ∉ line) (hrow : Spaced row line)
      (h : IsTable rows text) : IsTable (row :: rows) (line ++ (ending.chars ++ text))

section Feeds

variable {α : Type} [BEq α] {feed ret : α} {us row : List α}

theorem mem_of_mem_dropLast {u : α} (h : u ∈ dropLast ret us) : u ∈ us := by
  unfold dropLast at h
  split at h
  · split at h
    · exact List.mem_of_mem_dropLast h
    · exact h
  · exact h

variable [LawfulBEq α]

theorem feed_not_mem_cutLine (us : List α) : feed ∉ (cutLine feed us).1 := by
  induction us with
  | nil => exact List.not_mem_nil
  | cons u us ih =>
    rw [cutLine]
    split
    case isTrue => exact List.not_mem_nil
    case isFalse hu =>
      rw [List.mem_cons, not_or]
      exact ⟨fun heq => hu (beq_iff_eq.2 heq.symm), ih⟩

/-- No line of a text holds a line feed. -/
theorem feed_not_mem_of_mem_lines (h : row ∈ lines feed ret us) : feed ∉ row := by
  induction us using lines.induct feed with
  | case1 => simp [lines] at h
  | case2 u us rest hcut ih =>
    rw [lines] at h
    split at h
    case h_1 rest' hcut' =>
      obtain rfl : rest = rest' := Option.some.inj (hcut.symm.trans hcut')
      rcases List.mem_cons.1 h with rfl | h
      · exact fun hmem => feed_not_mem_cutLine (u :: us) (mem_of_mem_dropLast hmem)
      · exact ih h
    case h_2 hcut' =>
      rw [hcut] at hcut'
      cases hcut'
  | case3 u us hcut =>
    rw [lines] at h
    split at h
    case h_1 rest' hcut' =>
      rw [hcut] at hcut'
      cases hcut'
    case h_2 =>
      obtain rfl := List.mem_singleton.1 h
      exact feed_not_mem_cutLine (u :: us)

end Feeds

/-- A line is cut off at its line feed. -/
theorem cutLine_feed (h : '\n' ∉ line) (text : List Char) :
    cutLine '\n' (line ++ '\n' :: text) = (line, some text) := by
  induction line with
  | nil => rfl
  | cons c line ih =>
    rw [List.mem_cons, not_or] at h
    rw [List.cons_append, cutLine, if_neg (by simpa using Ne.symm h.1), ih h.2]

theorem cutLine_last (h : '\n' ∉ line) : cutLine '\n' line = (line, none) := by
  induction line with
  | nil => rfl
  | cons c line ih =>
    rw [List.mem_cons, not_or] at h
    rw [cutLine, if_neg (by simpa using Ne.symm h.1), ih h.2]

/-- What is cut off at a line feed can be put together again. -/
theorem eq_of_cutLine {after : Option (List Char)} (h : cutLine '\n' text = (line, after)) :
    text = line ++ after.elim [] ('\n' :: ·) ∧ '\n' ∉ line := by
  induction text generalizing line with
  | nil =>
    cases h
    exact ⟨rfl, List.not_mem_nil⟩
  | cons c text ih =>
    rw [cutLine] at h
    split at h
    case isTrue hc =>
      cases h
      obtain rfl := eq_of_beq hc
      exact ⟨rfl, List.not_mem_nil⟩
    case isFalse hc =>
      cases h
      obtain ⟨htext, hline⟩ := ih rfl
      refine ⟨congrArg (c :: ·) htext, ?_⟩
      rw [List.mem_cons, not_or]
      exact ⟨fun heq => hc (beq_iff_eq.2 heq.symm), hline⟩

theorem lines_nil : lines '\n' '\r' ([] : List Char) = [] := by
  rw [lines]

theorem lines_feed (h : '\n' ∉ line) (text : List Char) :
    lines '\n' '\r' (line ++ '\n' :: text) =
      dropLast '\r' line :: lines '\n' '\r' text := by
  have hcut := cutLine_feed h text
  obtain ⟨c, rest, hrest⟩ := List.exists_cons_of_ne_nil
    (List.append_ne_nil_of_right_ne_nil line (List.cons_ne_nil '\n' text))
  rw [hrest] at hcut ⊢
  rw [lines]
  split
  case h_1 rest' heq =>
    rw [hcut] at heq
    rw [hcut, Option.some.inj heq]
  case h_2 heq =>
    rw [hcut] at heq
    cases heq

theorem lines_last (hne : line ≠ []) (h : '\n' ∉ line) : lines '\n' '\r' line = [line] := by
  have hcut := cutLine_last h
  obtain ⟨c, rest, rfl⟩ := List.exists_cons_of_ne_nil hne
  rw [lines]
  split
  case h_1 rest' heq =>
    rw [hcut] at heq
    cases heq
  case h_2 heq => rw [hcut]

theorem isBlank_return : isBlank '\r' = true := by decide

/-- A carriage return at the end of a line is no part of a field. -/
theorem wordChars_dropLast (line : List Char) :
    wordChars (dropLast '\r' line) = wordChars line := by
  unfold dropLast
  split
  case h_1 c hc =>
    split
    case isTrue hreturn =>
      obtain rfl := eq_of_beq hreturn
      have hsplit := List.dropLast_append_getLast? '\r' hc
      rw [← hsplit, List.dropLast_concat,
        wordChars_append_blanks _ (List.forall_mem_singleton.2 isBlank_return)]
    case isFalse => rfl
  case h_2 => rfl

/-- What is looked for in a line by its words, and not in a line without any, is found in
the rows of a text. -/
theorem IsTable.findSome?_lines {α : Type} {f : List (List Char) → Option α}
    {rows : List (List (List Char))} (h : IsTable rows text) (hf : f [] = none) :
    (lines '\n' '\r' text).findSome? (fun line => f (wordChars line)) = rows.findSome? f := by
  induction h with
  | @last row line hline hrow =>
    obtain rfl := hrow.wordChars_eq
    cases line with
    | nil => simp [lines_nil, hf]
    | cons c line => simp [lines_last (List.cons_ne_nil c line) hline]
  | @cons row rows line text ending hline hrow h ih =>
    have hcut : ∃ line', lines '\n' '\r' (line ++ (ending.chars ++ text)) =
        line' :: lines '\n' '\r' text ∧ wordChars line' = row := by
      rw [← hrow.wordChars_eq]
      cases ending with
      | feed => exact ⟨_, lines_feed hline text, wordChars_dropLast line⟩
      | returnFeed =>
        have hreturn : '\n' ∉ line ++ ['\r'] := by simp [hline]
        refine ⟨dropLast '\r' (line ++ ['\r']), ?_, ?_⟩
        · rw [← lines_feed hreturn text, List.append_assoc]
          rfl
        · rw [wordChars_dropLast,
            wordChars_append_blanks _ (List.forall_mem_singleton.2 isBlank_return)]
    obtain ⟨line', hlines, hwords⟩ := hcut
    rw [hlines, List.findSome?_cons, List.findSome?_cons, hwords, ih]

/-- Every text is the rows of its lines. -/
theorem exists_isTable (text : List Char) : ∃ rows, IsTable rows text := by
  induction hlength : text.length using Nat.strong_induction_on generalizing text with
  | _ length ih =>
    cases hcut : cutLine '\n' text with
    | mk line after =>
      obtain ⟨htext, hline⟩ := eq_of_cutLine hcut
      cases after with
      | none =>
        have hlast : text = line := by rw [htext]; exact List.append_nil line
        rw [hlast]
        exact ⟨[wordChars line], .last hline (spaced_wordChars line)⟩
      | some rest =>
        have hlt : rest.length < length := by
          rw [← hlength, htext]
          simp only [Option.elim_some, List.length_append, List.length_cons]
          omega
        obtain ⟨rows, hrows⟩ := ih _ hlt rest rfl
        rw [htext]
        exact ⟨wordChars line :: rows, .cons .feed hline (spaced_wordChars line) hrows⟩

end ResourceFaults.Text
