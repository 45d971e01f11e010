import Mathlib
import ResourceFaults.Text.Blank

/-!
# Words and what stands between them

A blank ends a word wherever it stands (`wordChars_append_blank`), so the words of a
text are those of its pieces when it is cut at a blank.  From this it follows that
joining texts by single spaces puts their words one after the other
(`words_intercalate`), that joining the words of a text gives a text with the same
words, and that the blanks at the ends of a text do not matter.
-/

namespace ResourceFaults.Text

variable {c : Char} {w cs ds : List Char}

/-- Whether some characters are one word: there are some, and none is a blank. -/
structure IsWord (w : List Char) : Prop where
  ne_nil : w ≠ []
  not_blank : ∀ c ∈ w, isBlank c = false

/-! ## Cutting at a blank -/

@[simp] theorem wordChars_nil : wordChars [] = [] := by
  rw [wordChars]

theorem wordChars_blank (h : isBlank c = true) (cs : List Char) :
    wordChars (c :: cs) = wordChars cs := by
  rw [wordChars, if_pos h]

theorem wordChars_cons (h : isBlank c = false) (cs : List Char) :
    wordChars (c :: cs) = (c :: firstWord cs) :: wordChars (afterWord cs) := by
  rw [wordChars, if_neg (by simp [h])]

theorem firstWord_append_blank (h : isBlank c = true) :
    firstWord (cs ++ c :: ds) = firstWord cs := by
  induction cs with
  | nil => simp [firstWord, h]
  | cons b cs ih =>
    simp only [firstWord, List.cons_append, List.takeWhile_cons] at ih ⊢
    rw [ih]

theorem afterWord_append_blank (h : isBlank c = true) :
    afterWord (cs ++ c :: ds) = afterWord cs ++ c :: ds := by
  induction cs with
  | nil => simp [afterWord, h]
  | cons b cs ih =>
    simp only [afterWord, List.cons_append, List.dropWhile_cons] at ih ⊢
    split
    · exact ih
    · rfl

/-- A blank ends a word. -/
theorem wordChars_append_blank (h : isBlank c = true) (cs ds : List Char) :
    wordChars (cs ++ c :: ds) = wordChars cs ++ wordChars ds := by
  fun_induction wordChars cs with
  | case1 => exact wordChars_blank h ds
  | case2 b cs hb ih => rw [List.cons_append, wordChars_blank hb, ih]
  | case3 b cs hb ih =>
    rw [List.cons_append, wordChars_cons (by simpa using hb), firstWord_append_blank h,
      afterWord_append_blank h, ih, List.cons_append]

theorem wordChars_append_blanks (cs : List Char) (h : ∀ c ∈ ds, isBlank c = true) :
    wordChars (cs ++ ds) = wordChars cs := by
  induction ds generalizing cs with
  | nil => rw [List.append_nil]
  | cons c ds ih =>
    have hds := ih [] fun c hc => h c (List.mem_cons_of_mem _ hc)
    rw [wordChars_append_blank (h c List.mem_cons_self)]
    rw [List.nil_append, wordChars_nil] at hds
    rw [hds, List.append_nil]

theorem isBlank_of_isDigit (h : c.isDigit = true) : isBlank c = false := by
  have hrange : 48 ≤ c.toNat ∧ c.toNat ≤ 57 := by
    rw [Char.isDigit, Bool.and_eq_true, decide_eq_true_eq, decide_eq_true_eq] at h
    exact h
  unfold isBlank
  generalize c.toNat = n at hrange
  rcases hrange with ⟨hlow, hhigh⟩
  interval_cases n <;> rfl

theorem wordChars_eq_nil_iff : wordChars cs = [] ↔ ∀ c ∈ cs, isBlank c = true := by
  induction cs with
  | nil => simp
  | cons c cs ih =>
    cases hc : isBlank c with
    | true => simp [wordChars_blank hc, ih, hc]
    | false => simp [wordChars_cons hc, hc]

/-! ## Words are words -/

theorem IsWord.wordChars_eq (h : IsWord w) : wordChars w = [w] := by
  rcases h with ⟨hne, hw⟩
  cases w with
  | nil => exact absurd rfl hne
  | cons c w =>
    have hall : ∀ b ∈ w, (!isBlank b) = true := by
      intro b hb
      rw [hw b (List.mem_cons_of_mem _ hb)]
      rfl
    rw [wordChars_cons (hw c List.mem_cons_self), firstWord, afterWord,
      List.takeWhile_eq_self_iff.2 hall, List.dropWhile_eq_nil_iff.2 hall, wordChars_nil]

theorem isWord_of_mem (h : w ∈ wordChars cs) : IsWord w := by
  fun_induction wordChars cs with
  | case1 => cases h
  | case2 b cs hb ih => exact ih h
  | case3 b cs hb ih =>
    rcases List.mem_cons.1 h with rfl | h
    · refine ⟨List.cons_ne_nil _ _, fun c hc => ?_⟩
      rcases List.mem_cons.1 hc with rfl | hc
      · simpa using hb
      · simpa using List.mem_takeWhile_imp hc
    · exact ih h

/-! ## Joining -/

theorem isBlank_space : isBlank ' ' = true := by decide

theorem joinChars_cons_cons (t u : List Char) (texts : List (List Char)) :
    joinChars (t :: u :: texts) = t ++ ' ' :: joinChars (u :: texts) := by
  rw [joinChars]
  exact fun h => by cases h

/-- The words of some texts that are joined are the words of each. -/
theorem wordChars_joinChars (texts : List (List Char)) :
    wordChars (joinChars texts) = texts.flatMap wordChars := by
  induction texts with
  | nil => exact wordChars_nil
  | cons t texts ih =>
    cases texts with
    | nil => rw [joinChars, List.flatMap_cons, List.flatMap_nil, List.append_nil]
    | cons u texts =>
      rw [joinChars_cons_cons, wordChars_append_blank isBlank_space, ih, ← List.flatMap_cons]

theorem flatMap_wordChars (ws : List (List Char)) (h : ∀ w ∈ ws, IsWord w) :
    ws.flatMap wordChars = ws := by
  induction ws with
  | nil => rfl
  | cons w ws ih =>
    rw [List.flatMap_cons, (h w List.mem_cons_self).wordChars_eq,
      ih fun w hw => h w (List.mem_cons_of_mem _ hw), List.singleton_append]

theorem wordChars_joinChars_wordChars (cs : List Char) :
    wordChars (joinChars (wordChars cs)) = wordChars cs := by
  rw [wordChars_joinChars, flatMap_wordChars _ fun w => isWord_of_mem]

/-! ## Trimming -/

theorem exists_blanks_trimStart (cs : List Char) :
    ∃ ds, cs = ds ++ trimStart cs ∧ ∀ c ∈ ds, isBlank c = true :=
  ⟨cs.takeWhile isBlank, List.takeWhile_append_dropWhile.symm, fun _ => List.mem_takeWhile_imp⟩

theorem wordChars_blanks_append (h : ∀ c ∈ ds, isBlank c = true) (cs : List Char) :
    wordChars (ds ++ cs) = wordChars cs := by
  induction ds with
  | nil => rfl
  | cons c ds ih =>
    rw [List.cons_append, wordChars_blank (h c List.mem_cons_self),
      ih fun c hc => h c (List.mem_cons_of_mem _ hc)]

/-- The blanks at the ends of a text do not matter. -/
theorem wordChars_trimChars (cs : List Char) : wordChars (trimChars cs) = wordChars cs := by
  obtain ⟨front, hfront, hfrontBlank⟩ := exists_blanks_trimStart cs
  obtain ⟨back, hback, hbackBlank⟩ := exists_blanks_trimStart (trimStart cs).reverse
  have hcut : trimStart cs = trimChars cs ++ back.reverse := by
    rw [← List.reverse_inj, List.reverse_append, List.reverse_reverse, trimChars,
      List.reverse_reverse]
    exact hback
  calc wordChars (trimChars cs)
      = wordChars (trimStart cs) := by
        rw [hcut, wordChars_append_blanks _ fun c hc => hbackBlank c (List.mem_reverse.1 hc)]
    _ = wordChars cs := by
        conv_rhs => rw [hfront]
        rw [wordChars_blanks_append hfrontBlank]

/-! ## Texts -/

theorem toList_intercalate_space (texts : List String) :
    (" ".intercalate texts).toList = joinChars (texts.map String.toList) := by
  induction texts with
  | nil => rfl
  | cons t texts ih =>
    cases texts with
    | nil => simp [joinChars]
    | cons u texts =>
      rw [String.intercalate_cons_cons, String.toList_append, String.toList_append, ih,
        List.append_assoc]
      exact (joinChars_cons_cons _ _ _).symm

/-- The words of some texts that are joined by spaces are the words of each. -/
theorem words_intercalate (texts : List String) :
    words (" ".intercalate texts) = texts.flatMap words := by
  rw [words, toList_intercalate_space, wordChars_joinChars, List.flatMap_map, List.map_flatMap]
  rfl

/-- The words of a text, joined by spaces, make a text with the same words. -/
theorem words_intercalate_words (s : String) : words (" ".intercalate (words s)) = words s := by
  rw [words, toList_intercalate_space, words, List.map_map]
  have hid : String.toList ∘ String.ofList = id := funext fun cs => String.toList_ofList
  rw [hid, List.map_id, wordChars_joinChars_wordChars]

theorem words_trim (s : String) : words (trim s) = words s := by
  rw [words, trim, String.toList_ofList, wordChars_trimChars, words]

/-- Nothing is left of a text that is trimmed exactly if it has no words. -/
theorem trim_eq_empty_iff (s : String) : trim s = "" ↔ words s = [] := by
  constructor
  · intro h
    rw [← words_trim, h, words, String.toList_empty, wordChars_nil, List.map_nil]
  · intro h
    have hblank : ∀ c ∈ s.toList, isBlank c = true := by
      rw [← wordChars_eq_nil_iff]
      exact List.map_eq_nil_iff.1 h
    have hnone : trimStart s.toList = [] := List.dropWhile_eq_nil_iff.2 hblank
    rw [trim, trimChars, hnone]
    rfl

end ResourceFaults.Text
