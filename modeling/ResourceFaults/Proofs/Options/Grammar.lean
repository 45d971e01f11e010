import Mathlib
import ResourceFaults.Proofs.Options.Steps

/-!
# Which command lines are read

`Options.parse` takes the command lines of `IsCommandLine`, gives each its meaning, and
complains about everything else.

One item is read at a time: `ReadsOn.item` says that an item can be read where its
options have not been given yet, and `ReadsOn.beginsWithItem` that what is read begins
with an item.  A whole command line is an induction over its items.
-/

namespace ResourceFaults

open Text (RawText RawChar)
open Arguments (Grammar Progress)

namespace FaultOption

section Items

variable {l : List (FaultOption × Nat)} {k : FaultOption} {n : Nat} {tokens : List RawText}
  {attached : Option RawText} {o : Options}

/-- The flag of a run of letters is set before the option that ends the run. -/
theorem append_settings_flagged {form : Form} {v : List Char} :
    l ++ (Item.valued .flagged form k v n).settings = (l ++ [(keep, 0)]) ++ [(k, n)] := by
  rw [List.append_assoc]
  rfl

/-- An item can be read where its options have not been given, and then what follows it
is read. -/
theorem ReadsOn.item {i : Item} (hi : i.IsProper)
    (hnodup : (optionsOf (l ++ i.settings)).Nodup) (h : ReadsOn (l ++ i.settings) tokens o) :
    ReadsOn l (i.tokens ++ tokens) o := by
  cases i with
  | flag long =>
    have hmem := (nodup_concat.1 hnodup).2
    cases long with
    | false =>
      refine readsOn_letter_iff.2 (Arguments.bind_eq_ok_iff.2 ?_)
      exact ⟨_, meetLetters_flag_eq_ok_iff.2 ⟨hmem, rfl⟩, h⟩
    | true =>
      refine (readsOn_name_iff keep none).2 (Arguments.bind_eq_ok_iff.2 ?_)
      exact ⟨_, meet_flag_eq_ok_iff.2 ⟨rfl, hmem, rfl⟩, h⟩
  | valued opening form k v n =>
    rcases hi with ⟨hn, hhead, hform⟩
    have hk := hn.ne_keep
    cases opening with
    | letter =>
      have hmem := (nodup_concat.1 hnodup).2
      apply readsOn_letter_iff.2
      rw [meetLetters_value hk, meet_letter_bind_eq_ok_iff hk]
      exact ⟨form, v, n, hn, hhead, rfl, hmem, tokens, rfl, h⟩
    | name =>
      have hmem := (nodup_concat.1 hnodup).2
      have hne : form ≠ .joined := fun hjoined => hform hjoined rfl
      obtain ⟨attached, hattached⟩ : ∃ attached : Option RawText,
          attached.elim [] (.char '=' :: ·) = form.tail (v.map .char) := by
        cases form with
        | apart => exact ⟨none, rfl⟩
        | joined => exact absurd rfl hne
        | equals => exact ⟨some (v.map .char), rfl⟩
      have hread := (readsOn_name_iff k attached).2 <| (meet_name_bind_eq_ok_iff hk).2
        ⟨form, v, n, hne, hn, hhead, hattached, hmem, tokens, rfl, h⟩
      rw [hattached] at hread
      exact hread
    | flagged =>
      rw [append_settings_flagged] at hnodup h
      obtain ⟨hflag, hmem⟩ := nodup_concat.1 hnodup
      obtain ⟨p, hmeet, hrest⟩ := Arguments.bind_eq_ok_iff.1 <| (meet_letter_bind_eq_ok_iff hk).2
        ⟨form, v, n, hn, hhead, rfl, hmem, tokens, rfl, h⟩
      rw [← meetLetters_value hk] at hmeet
      have hletters := meetLetters_flag_eq_ok_iff.2 ⟨(nodup_concat.1 hflag).2, hmeet⟩
      exact readsOn_letter_iff.2 (Arguments.bind_eq_ok_iff.2 ⟨p, hletters, hrest⟩)

/-- Whether the arguments after some settings begin with an item, and can be read after
it. -/
def BeginsWithItem (l : List (FaultOption × Nat)) (tokens : List RawText) (o : Options) : Prop :=
  ∃ (i : Item) (rest : List RawText), tokens = i.tokens ++ rest ∧ i.IsProper ∧
    (optionsOf (l ++ i.settings)).Nodup ∧ ReadsOn (l ++ i.settings) rest o

theorem beginsWithItem_of_name (hl : (optionsOf l).Nodup)
    (h : ReadsOn l ((Opening.name.text k ++ attached.elim [] (.char '=' :: ·)) :: tokens) o) :
    BeginsWithItem l ((Opening.name.text k ++ attached.elim [] (.char '=' :: ·)) :: tokens) o := by
  rw [readsOn_name_iff] at h
  by_cases hk : k = keep
  · subst hk
    obtain ⟨p, hmeet, hrest⟩ := Arguments.bind_eq_ok_iff.1 h
    obtain ⟨rfl, hmem, rfl⟩ := meet_flag_eq_ok_iff.1 hmeet
    exact ⟨.flag true, tokens, rfl, trivial, nodup_concat.2 ⟨hl, hmem⟩, hrest⟩
  · obtain ⟨form, v, n, hform, hn, hhead, htail, hmem, rest, rfl, hrest⟩ :=
      (meet_name_bind_eq_ok_iff hk).1 h
    rw [htail]
    exact ⟨.valued .name form k v n, rest, rfl, ⟨hn, hhead, fun hjoined => absurd hjoined hform⟩,
      nodup_concat.2 ⟨hl, hmem⟩, hrest⟩

theorem beginsWithItem_of_flag {tail : RawText} (hl : (optionsOf l).Nodup)
    (h : ReadsOn l ((.char '-' :: .char keep.letter :: tail) :: tokens) o) :
    BeginsWithItem l ((.char '-' :: .char keep.letter :: tail) :: tokens) o := by
  rw [readsOn_letter_iff] at h
  obtain ⟨p, hletters, hrest⟩ := Arguments.bind_eq_ok_iff.1 h
  obtain ⟨hmem, hmeet⟩ := meetLetters_flag_eq_ok_iff.1 hletters
  have hflag : (optionsOf (l ++ [(keep, 0)])).Nodup := nodup_concat.2 ⟨hl, hmem⟩
  cases tail with
  | nil =>
    cases hmeet
    exact ⟨.flag false, tokens, rfl, trivial, hflag, hrest⟩
  | cons u tail =>
    obtain ⟨k, rfl⟩ := exists_letter_of_meetLetters hmeet
    by_cases hk : k = keep
    · -- the flag a second time
      subst hk
      obtain ⟨hagain, -⟩ := meetLetters_flag_eq_ok_iff.1 hmeet
      exact absurd (mem_optionsOf (List.mem_append_right l List.mem_cons_self)) hagain
    · rw [meetLetters_value hk] at hmeet
      obtain ⟨form, v, n, hn, hhead, rfl, hnew, rest, rfl, hreads⟩ :=
        (meet_letter_bind_eq_ok_iff hk).1 (Arguments.bind_eq_ok_iff.2 ⟨p, hmeet, hrest⟩)
      refine ⟨.valued .flagged form k v n, rest, rfl, ⟨hn, hhead, by simp⟩, ?_, ?_⟩
      · rw [append_settings_flagged]
        exact nodup_concat.2 ⟨hflag, hnew⟩
      · rw [append_settings_flagged]
        exact hreads

theorem beginsWithItem_of_letter {tail : RawText} (hl : (optionsOf l).Nodup)
    (h : ReadsOn l ((.char '-' :: .char k.letter :: tail) :: tokens) o) :
    BeginsWithItem l ((.char '-' :: .char k.letter :: tail) :: tokens) o := by
  by_cases hk : k = keep
  · subst hk
    exact beginsWithItem_of_flag hl h
  · rw [readsOn_letter_iff, meetLetters_value hk] at h
    obtain ⟨form, v, n, hn, hhead, rfl, hmem, rest, rfl, hrest⟩ :=
      (meet_letter_bind_eq_ok_iff hk).1 h
    exact ⟨.valued .letter form k v n, rest, rfl, ⟨hn, hhead, by simp⟩,
      nodup_concat.2 ⟨hl, hmem⟩, hrest⟩

/-- What is read, other than the end of the options, begins with an item. -/
theorem ReadsOn.beginsWithItem {t : RawText} (h : ReadsOn l (t :: tokens) o)
    (hl : (optionsOf l).Nodup) (ht : t ≠ [.char '-', .char '-']) :
    BeginsWithItem l (t :: tokens) o := by
  rcases h.cases_first with rfl | ⟨k, attached, rfl⟩ | ⟨k, tail, rfl⟩
  · exact absurd rfl ht
  · exact beginsWithItem_of_name hl h
  · exact beginsWithItem_of_letter hl h

end Items

/-! ## Command lines -/

section Runs

variable {l : List (FaultOption × Nat)} {tokens : List RawText} {o : Options}

theorem readsOn_nil : ReadsOn l [] o ↔ o = Options.putAll {} l := by
  have h : ReadsOn l [] o ↔ grammar.readWords (progress l) [] = .ok (o, []) := Iff.rfl
  rw [h, readWords_progress_eq_ok_iff]
  exact and_iff_right rfl

theorem readsOn_escape_iff :
    ReadsOn l ([.char '-', .char '-'] :: tokens) o ↔ tokens = [] ∧ o = Options.putAll {} l :=
  readWords_progress_eq_ok_iff

theorem append_settingsOf_cons {i : Item} {items : List Item} :
    l ++ settingsOf (i :: items) = (l ++ i.settings) ++ settingsOf items := by
  rw [settingsOf, List.flatMap_cons, List.append_assoc]
  rfl

/-- The items of a list can be read one after the other, with or without the end of the
options. -/
theorem readsOn_items {items : List Item} {ending : List RawText}
    (hending : ending = [] ∨ ending = [[.char '-', .char '-']])
    (hproper : ∀ i ∈ items, i.IsProper) (h : (optionsOf (l ++ settingsOf items)).Nodup) :
    ReadsOn l (items.flatMap Item.tokens ++ ending)
      (Options.putAll {} (l ++ settingsOf items)) := by
  induction items generalizing l with
  | nil =>
    rw [settingsOf, List.flatMap_nil, List.flatMap_nil, List.append_nil, List.nil_append]
    rcases hending with rfl | rfl
    · exact readsOn_nil.2 rfl
    · exact readsOn_escape_iff.2 ⟨rfl, rfl⟩
  | cons i items ih =>
    rw [append_settingsOf_cons] at h ⊢
    rw [List.flatMap_cons, List.append_assoc]
    have hfirst : (optionsOf (l ++ i.settings)).Nodup := by
      rw [optionsOf, List.map_append] at h
      exact h.of_append_left
    exact ReadsOn.item (hproper i List.mem_cons_self) hfirst
      (ih (fun i' hi' => hproper i' (List.mem_cons_of_mem i hi')) h)

theorem Item.tokens_ne_nil (i : Item) : i.tokens ≠ [] := by
  cases i with
  | flag long => cases long <;> exact List.cons_ne_nil _ _
  | valued opening form k v n => exact List.cons_ne_nil _ _

/-- Arguments that are read are the items of a list, with or without the end of the
options. -/
theorem ReadsOn.exists_items (hl : (optionsOf l).Nodup) (h : ReadsOn l tokens o) :
    ∃ items : List Item,
      (tokens = items.flatMap Item.tokens ∨
        tokens = items.flatMap Item.tokens ++ [[.char '-', .char '-']]) ∧
      (∀ i ∈ items, i.IsProper) ∧ (optionsOf (l ++ settingsOf items)).Nodup ∧
      o = Options.putAll {} (l ++ settingsOf items) := by
  -- an item takes one argument or two, so the induction is on how many there are
  induction hlength : tokens.length using Nat.strong_induction_on generalizing l tokens with
  | _ length ih =>
    have hnone : settingsOf [] = [] := rfl
    cases tokens with
    | nil =>
      refine ⟨[], .inl rfl, by simp, ?_, ?_⟩
      · rw [hnone, List.append_nil]
        exact hl
      · rw [hnone, List.append_nil]
        exact readsOn_nil.1 h
    | cons t tokens =>
      by_cases ht : t = [.char '-', .char '-']
      · subst ht
        obtain ⟨rfl, ho⟩ := readsOn_escape_iff.1 h
        refine ⟨[], .inr rfl, by simp, ?_, ?_⟩
        · rw [hnone, List.append_nil]
          exact hl
        · rw [hnone, List.append_nil]
          exact ho
      · obtain ⟨i, rest, heq, hi, hnodup, hrest⟩ := h.beginsWithItem hl ht
        have hlt : rest.length < length := by
          have hpos := List.length_pos_iff.2 i.tokens_ne_nil
          rw [heq, List.length_append] at hlength
          omega
        obtain ⟨items, hwritten, hproper, hall, ho⟩ := ih _ hlt hnodup hrest rfl
        rw [← append_settingsOf_cons] at hall ho
        refine ⟨i :: items, ?_, List.forall_mem_cons.2 ⟨hi, hproper⟩, hall, ho⟩
        rw [heq, List.flatMap_cons, List.append_assoc]
        exact hwritten.imp (congrArg _) (congrArg _)

end Runs

end FaultOption

/-! ## Options -/

namespace Options

open FaultOption

variable {tokens : List RawText} {o : Options}

theorem parse_eq_ok_iff_readsOn :
    parse tokens = .ok o ↔ ∃ made, ReadsOn [] tokens made ∧ made.clamped = o := by
  have hparse : grammar.parse tokens = grammar.readFrom (progress []) tokens := rfl
  unfold parse ReadsOn
  rw [hparse]
  cases hread : grammar.readFrom (progress []) tokens with
  | error e =>
    cases e with
    | complaint c => simp
    | answer i => exact i.elim
  | ok r =>
    rcases r with ⟨made, words⟩
    obtain rfl : words = [] := Grammar.words_eq_nil_of_readFrom rfl hread
    simp

theorem parse_eq_ok_iff_exists_items :
    parse tokens = .ok o ↔
      ∃ items, IsCommandLine items tokens ∧ o = given (settingsOf items) := by
  rw [parse_eq_ok_iff_readsOn]
  constructor
  · intro h
    rcases h with ⟨made, hread, rfl⟩
    have hnil : (optionsOf []).Nodup := List.nodup_nil
    obtain ⟨items, hwritten, hproper, honce, rfl⟩ := hread.exists_items hnil
    exact ⟨items, ⟨hwritten, hproper, honce⟩, clamped_putAll honce⟩
  · intro h
    rcases h with ⟨items, ⟨hwritten, hproper, honce⟩, rfl⟩
    refine ⟨putAll {} (settingsOf items), ?_, clamped_putAll honce⟩
    have hread : ∀ ending, ending = [] ∨ ending = [[.char '-', .char '-']] →
        ReadsOn [] (items.flatMap Item.tokens ++ ending) (putAll {} (settingsOf items)) :=
      fun ending hending => readsOn_items hending hproper honce
    rcases hwritten with rfl | rfl
    · have hplain := hread [] (.inl rfl)
      rw [List.append_nil] at hplain
      exact hplain
    · exact hread _ (.inr rfl)

/-- The arguments that make options are the command lines, and the options are what the
items of the command line mean.  Two command lines that give the same numbers make the
same options, whatever the order and the spelling of their items.  All other arguments
are complained about. -/
theorem parse_isCommandLine :
    (∀ tokens o, parse tokens = .ok o ↔
      ∃ items, IsCommandLine items tokens ∧ o = given (settingsOf items)) ∧
    (∀ items items' tokens tokens', IsCommandLine items tokens → IsCommandLine items' tokens' →
      (settingsOf items).Perm (settingsOf items') → parse tokens = parse tokens') ∧
    ∀ tokens, (∀ items, ¬IsCommandLine items tokens) → ∃ c, parse tokens = .error c := by
  refine ⟨fun tokens o => parse_eq_ok_iff_exists_items, ?_, ?_⟩
  · intro items items' tokens tokens' h h' hperm
    have hparse := parse_eq_ok_iff_exists_items.2 ⟨items, h, rfl⟩
    have hparse' := parse_eq_ok_iff_exists_items.2 ⟨items', h', rfl⟩
    rw [hparse, hparse', given_perm hperm h.once]
  · intro tokens hnone
    cases hparse : parse tokens with
    | error c => exact ⟨c, rfl⟩
    | ok o =>
      obtain ⟨items, h, -⟩ := parse_eq_ok_iff_exists_items.1 hparse
      exact absurd h (hnone items)

/-- Two spellings of a command line come to the same, and a lone word to nothing. -/
theorem parse_isCommandLine_spellings :
    parse (["-kd", "05", "--memory=4000"].map RawText.ofString) =
        .ok { durationSecs := 5, blockMib := 2047, keep := true } ∧
      parse (["-kd", "05", "--memory=4000"].map RawText.ofString) =
        parse (["-m4000", "--duration", "5", "--keep", "--"].map RawText.ofString) ∧
      ∃ c, parse (["x"].map RawText.ofString) = .error c := by
  have hfive : FaultOption.duration.Reads ['5'] 5 :=
    ⟨⟨['5'], .inl rfl, by simp [Decimal.AreDigits], rfl⟩, by decide⟩
  have hzeroFive : FaultOption.duration.Reads ['0', '5'] 5 :=
    ⟨⟨['0', '5'], .inl rfl, by simp [Decimal.AreDigits], rfl⟩, by decide⟩
  have hlarge : FaultOption.memory.Reads ['4', '0', '0', '0'] 4000 :=
    ⟨.inl ⟨['4', '0', '0', '0'], .inl rfl, by simp [Decimal.AreDigits], rfl⟩, by decide⟩
  have h : IsCommandLine
      [.valued .flagged .apart .duration ['0', '5'] 5,
        .valued .name .equals .memory ['4', '0', '0', '0'] 4000]
      (["-kd", "05", "--memory=4000"].map RawText.ofString) := by
    refine ⟨.inl rfl, ?_, by decide⟩
    simp [Item.IsProper, hzeroFive, hlarge]
  have h' : IsCommandLine
      [.valued .letter .joined .memory ['4', '0', '0', '0'] 4000,
        .valued .name .apart .duration ['5'] 5, .flag true]
      (["-m4000", "--duration", "5", "--keep", "--"].map RawText.ofString) := by
    refine ⟨.inr rfl, ?_, by decide⟩
    simp [Item.IsProper, hfive, hlarge]
  refine ⟨(parse_isCommandLine.1 _ _).2 ⟨_, h, by decide⟩,
    parse_isCommandLine.2.1 _ _ _ _ h h' (by decide), parse_isCommandLine.2.2 _ ?_⟩
  intro items hitems
  have hparse := (parse_isCommandLine.1 _ _).2 ⟨items, hitems, rfl⟩
  cases hparse

end Options

end ResourceFaults
