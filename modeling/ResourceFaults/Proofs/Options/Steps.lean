import Mathlib
import ResourceFaults.Proofs.Options.Values

/-!
# Reading the options of a fault

The parser followed over one option.  `FaultOption.progress l` is what has been read
once the settings `l` are recorded and nothing is open, and `ReadsOn l tokens o` says
that from there the arguments `tokens` can be read and make the options `o`.

An option that takes a value goes on in one of the three forms (`GoesOn`).  The last
section says which arguments can come first, and what the parser makes of each.
-/

namespace ResourceFaults

open Text (RawText RawChar)
open Arguments (Grammar Progress Shape)

/-! ## What has been read -/

namespace FaultOption

/-- What has been read once some settings are recorded and nothing is open. -/
def progress (l : List (FaultOption × Nat)) : Progress FaultOption Options :=
  ⟨Options.putAll {} l, optionsOf l, none⟩

/-- What has been read once an option waits for its value after some settings. -/
def awaiting (l : List (FaultOption × Nat)) (k : FaultOption) : Progress FaultOption Options :=
  { progress l with pending := some (k, none) }

/-- Whether the arguments after some settings can be read, and make some options. -/
def ReadsOn (l : List (FaultOption × Nat)) (tokens : List RawText) (o : Options) : Prop :=
  grammar.readFrom (progress l) tokens = .ok (o, [])

section Steps

variable {l : List (FaultOption × Nat)} {k : FaultOption} {n : Nat} {tokens : List RawText}
  {attached : Option RawText} {p : Progress FaultOption Options} {o : Options}

theorem nodup_concat :
    (optionsOf (l ++ [(k, n)])).Nodup ↔ (optionsOf l).Nodup ∧ k ∉ optionsOf l := by
  rw [optionsOf, List.map_append, ← and_comm, List.map_singleton, ← List.concat_eq_append]
  exact List.nodup_concat _ _

/-- The options after one setting more. -/
theorem progress_concat :
    progress (l ++ [(k, n)]) = ⟨k.put n (Options.putAll {} l), optionsOf l ++ [k], none⟩ := by
  simp [progress, Options.putAll]

theorem record_value_eq_ok_iff {value : RawText} (hk : k ≠ keep) :
    (progress l).record grammar k (some value) = .ok p ↔
      ∃ v n, value = v.map .char ∧ k.Reads v n ∧ k ∉ optionsOf l ∧
        p = progress (l ++ [(k, n)]) := by
  have hread : ∀ e, grammar.read k (some value) = .ok e ↔
      ∃ v n, value = v.map .char ∧ k.Reads v n ∧ e = .change (k.put n) :=
    fun e => read_eq_ok_iff hk
  rw [Progress.record_eq_ok_iff]
  constructor
  · intro h
    rcases h with ⟨hmem, update, hupdate, rfl⟩
    obtain ⟨v, n, hv, hn, he⟩ := (hread _).1 hupdate
    cases he
    exact ⟨v, n, hv, hn, hmem, progress_concat.symm⟩
  · intro h
    rcases h with ⟨v, n, hv, hn, hmem, rfl⟩
    exact ⟨hmem, k.put n, (hread _).2 ⟨v, n, hv, hn, rfl⟩, progress_concat⟩

theorem record_flag_eq_ok_iff :
    (progress l).record grammar keep none = .ok p ↔
      keep ∉ optionsOf l ∧ p = progress (l ++ [(keep, 0)]) := by
  rw [Progress.record_eq_ok_iff, progress_concat]
  apply and_congr_right
  intro hmem
  constructor
  · intro h
    rcases h with ⟨update, hupdate, rfl⟩
    cases hupdate
    rfl
  · rintro rfl
    exact ⟨keep.put 0, rfl, rfl⟩

theorem close_progress : (progress l).close grammar = .ok (progress l) :=
  Progress.close_eq_self rfl

theorem meet_flag_eq_ok_iff :
    (progress l).meet grammar keep attached = .ok p ↔
      attached = none ∧ keep ∉ optionsOf l ∧ p = progress (l ++ [(keep, 0)]) := by
  unfold Progress.meet
  rw [takesValue_eq]
  cases attached with
  | some value => simp
  | none =>
    rw [close_progress, ← record_flag_eq_ok_iff]
    simp [bind, Except.bind]

theorem meet_value_eq_ok_iff (hk : k ≠ keep) :
    (progress l).meet grammar k attached = .ok p ↔
      (attached = none ∧ p = awaiting l k) ∨
        ∃ v n, attached = some (v.map .char) ∧ k.Reads v n ∧ k ∉ optionsOf l ∧
          p = progress (l ++ [(k, n)]) := by
  unfold Progress.meet
  rw [takesValue_eq]
  cases attached with
  | some value =>
    simp [close_progress, bind, Except.bind, hk, record_value_eq_ok_iff hk]
  | none =>
    simp [close_progress, bind, Except.bind, hk, awaiting, eq_comm]

/-- At the end of the options they are what has been set, and no words may follow. -/
theorem readWords_progress_eq_ok_iff :
    grammar.readWords (progress l) tokens = .ok (o, []) ↔
      tokens = [] ∧ o = Options.putAll {} l := by
  rw [Grammar.readWords_eq_ok_iff rfl]
  apply and_congr_right
  intro _
  constructor
  · intro h
    rcases h with ⟨q, hclose, h⟩
    cases hclose
    exact (Prod.mk.inj h).1
  · rintro rfl
    exact ⟨progress l, close_progress, rfl⟩

/-- A value does not look like an option, unless it begins with a hyphen. -/
theorem Reads.shape_eq_word_iff {v : List Char} (h : k.Reads v n) :
    Shape.of (v.map .char) = .word ↔ v.head? ≠ some '-' := by
  rw [Shape.of_eq_word_iff]
  cases v with
  | nil => simp
  | cons c v =>
    have hne := h.ne.2.1
    simp_all

/-- An option that waits takes the next argument for its value. -/
theorem readFrom_awaiting_eq_ok_iff (hk : k ≠ keep) :
    grammar.readFrom (awaiting l k) tokens = .ok (o, []) ↔
      ∃ v n rest, tokens = v.map .char :: rest ∧ k.Reads v n ∧ v.head? ≠ some '-' ∧
        k ∉ optionsOf l ∧ ReadsOn (l ++ [(k, n)]) rest o := by
  have hsupply : ∀ value rest,
      grammar.readFrom ((awaiting l k).supply value) rest = .ok (o, []) ↔
        ∃ v n, value = v.map .char ∧ k.Reads v n ∧ k ∉ optionsOf l ∧
          ReadsOn (l ++ [(k, n)]) rest o := by
    intro value rest
    have hclose : ((awaiting l k).supply value).close grammar =
        (progress l).record grammar k (some value) := rfl
    rw [Grammar.readFrom_eq_ok_iff rfl rfl]
    simp only [hclose, record_value_eq_ok_iff hk]
    constructor
    · intro h
      rcases h with ⟨_, ⟨v, n, hv, hn, hmem, rfl⟩, hrest⟩
      exact ⟨v, n, hv, hn, hmem, hrest⟩
    · intro h
      rcases h with ⟨v, n, hv, hn, hmem, hrest⟩
      exact ⟨_, ⟨v, n, hv, hn, hmem, rfl⟩, hrest⟩
  rw [Grammar.readFrom_waiting_eq_ok_iff rfl rfl]
  constructor
  · intro h
    rcases h with ⟨t, rest, rfl, hshape, h⟩
    obtain ⟨v, n, rfl, hn, hmem, hrest⟩ := (hsupply t rest).1 h
    exact ⟨v, n, rest, rfl, hn, hn.shape_eq_word_iff.1 hshape, hmem, hrest⟩
  · intro h
    rcases h with ⟨v, n, rest, rfl, hn, hhead, hmem, hrest⟩
    exact ⟨v.map .char, rest, rfl, hn.shape_eq_word_iff.2 hhead,
      (hsupply _ rest).2 ⟨v, n, rfl, hn, hmem, hrest⟩⟩

/-- What an option with a value comes to, by where the value stands. -/
theorem meet_value_bind_eq_ok_iff (hk : k ≠ keep) :
    ((progress l).meet grammar k attached >>= fun p => grammar.readFrom p tokens) = .ok (o, []) ↔
      ∃ v n, k.Reads v n ∧ k ∉ optionsOf l ∧
        ((attached = some (v.map .char) ∧ ReadsOn (l ++ [(k, n)]) tokens o) ∨
          (attached = none ∧ v.head? ≠ some '-' ∧
            ∃ rest, tokens = v.map .char :: rest ∧ ReadsOn (l ++ [(k, n)]) rest o)) := by
  rw [Arguments.bind_eq_ok_iff]
  constructor
  · intro h
    rcases h with ⟨p, hmeet, h⟩
    rcases (meet_value_eq_ok_iff hk).1 hmeet with ⟨rfl, rfl⟩ | ⟨v, n, rfl, hn, hmem, rfl⟩
    · obtain ⟨v, n, rest, rfl, hn, hhead, hmem, hrest⟩ := (readFrom_awaiting_eq_ok_iff hk).1 h
      exact ⟨v, n, hn, hmem, .inr ⟨rfl, hhead, rest, rfl, hrest⟩⟩
    · exact ⟨v, n, hn, hmem, .inl ⟨rfl, h⟩⟩
  · intro h
    rcases h with ⟨v, n, hn, hmem, ⟨rfl, hrest⟩ | ⟨rfl, hhead, rest, rfl, hrest⟩⟩
    · exact ⟨_, (meet_value_eq_ok_iff hk).2 (.inr ⟨v, n, rfl, hn, hmem, rfl⟩), hrest⟩
    · exact ⟨_, (meet_value_eq_ok_iff hk).2 (.inl ⟨rfl, rfl⟩),
        (readFrom_awaiting_eq_ok_iff hk).2 ⟨v, n, rest, rfl, hn, hhead, hmem, hrest⟩⟩

/-- Whether an option that has begun goes on, from the rest of its argument and the
arguments that follow, to its value in some form and then to some options. -/
def GoesOn (l : List (FaultOption × Nat)) (k : FaultOption) (form : Form) (v : List Char) (n : Nat)
    (tail : RawText) (tokens : List RawText) (o : Options) : Prop :=
  k.Reads v n ∧ (form = .apart → v.head? ≠ some '-') ∧ tail = form.tail (v.map .char) ∧
    k ∉ optionsOf l ∧
    ∃ rest, tokens = form.next (v.map .char) ++ rest ∧ ReadsOn (l ++ [(k, n)]) rest o

/-- After a letter the value may have any form. -/
theorem meet_letter_bind_eq_ok_iff {tail : RawText} (hk : k ≠ keep) :
    ((progress l).meet grammar k (Progress.attachedRest tail) >>=
        fun p => grammar.readFrom p tokens) = .ok (o, []) ↔
      ∃ form v n, GoesOn l k form v n tail tokens o := by
  rw [meet_value_bind_eq_ok_iff hk]
  constructor
  · intro h
    rcases h with ⟨v, n, hn, hmem, ⟨hattached, hrest⟩ | ⟨hattached, hhead, rest, rfl, hrest⟩⟩
    · rcases Progress.attachedRest_eq_some_iff.1 hattached with rfl | ⟨rfl, -⟩
      · exact ⟨.equals, v, n, hn, by simp, rfl, hmem, tokens, rfl, hrest⟩
      · exact ⟨.joined, v, n, hn, by simp, rfl, hmem, tokens, rfl, hrest⟩
    · obtain rfl := Progress.attachedRest_eq_none_iff.1 hattached
      exact ⟨.apart, v, n, hn, fun _ => hhead, rfl, hmem, rest, rfl, hrest⟩
  · intro h
    rcases h with ⟨form, v, n, hn, hhead, rfl, hmem, rest, rfl, hrest⟩
    refine ⟨v, n, hn, hmem, ?_⟩
    cases form with
    | apart => exact .inr ⟨rfl, hhead rfl, rest, rfl, hrest⟩
    | joined =>
      refine .inl ⟨Progress.attachedRest_eq_some_iff.2 (.inr ⟨rfl, ?_, ?_⟩), hrest⟩
      · simpa using hn.ne.1
      · simpa using hn.ne.2.2
    | equals => exact .inl ⟨rfl, hrest⟩

/-- After a name the value stands behind an equals sign or apart. -/
theorem meet_name_bind_eq_ok_iff (hk : k ≠ keep) :
    ((progress l).meet grammar k attached >>= fun p => grammar.readFrom p tokens) = .ok (o, []) ↔
      ∃ form v n, form ≠ .joined ∧
        GoesOn l k form v n (attached.elim [] (.char '=' :: ·)) tokens o := by
  rw [meet_value_bind_eq_ok_iff hk]
  constructor
  · intro h
    rcases h with ⟨v, n, hn, hmem, ⟨rfl, hrest⟩ | ⟨rfl, hhead, rest, rfl, hrest⟩⟩
    · exact ⟨.equals, v, n, by simp, hn, by simp, rfl, hmem, tokens, rfl, hrest⟩
    · exact ⟨.apart, v, n, by simp, hn, fun _ => hhead, rfl, hmem, rest, rfl, hrest⟩
  · intro h
    rcases h with ⟨form, v, n, hform, hn, hhead, htail, hmem, rest, rfl, hrest⟩
    refine ⟨v, n, hn, hmem, ?_⟩
    cases form with
    | apart =>
      cases attached with
      | some value => cases htail
      | none => exact .inr ⟨rfl, hhead rfl, rest, rfl, hrest⟩
    | joined => exact absurd rfl hform
    | equals =>
      cases attached with
      | some value =>
        cases htail
        exact .inl ⟨rfl, hrest⟩
      | none => cases htail

/-! ## The first argument -/

/-- A name is met with what is attached to it. -/
theorem readFrom_name (p : Progress FaultOption Options) (k : FaultOption)
    (attached : Option RawText) (tokens : List RawText) :
    grammar.readFrom p
        ((Opening.name.text k ++ attached.elim [] (.char '=' :: ·)) :: tokens) =
      (p.meet grammar k attached >>= fun q => grammar.readFrom q tokens) := by
  have hshape : Shape.of (Opening.name.text k ++ attached.elim [] (.char '=' :: ·)) =
      .long k.longName attached := by
    refine Shape.of_eq_long_iff.2 ⟨k.longName ++ attached.elim [] (.char '=' :: ·), ?_, rfl,
      RawText.cutAtEquals_joined equals_not_mem_longName⟩
    exact List.append_ne_nil_of_left_ne_nil longName_ne_nil _
  rw [Grammar.readFrom, Grammar.shape_eq rfl, hshape]
  dsimp only
  rw [ofLong?_eq_some_iff.2 rfl]

theorem readFrom_letter (p : Progress FaultOption Options) (k : FaultOption) (tail : RawText)
    (tokens : List RawText) :
    grammar.readFrom p ((.char '-' :: .char k.letter :: tail) :: tokens) =
      (p.meetLetters grammar (.char k.letter :: tail) >>=
        fun q => grammar.readFrom q tokens) := by
  have hshape : Shape.of (.char '-' :: .char k.letter :: tail) =
      .letters (.char k.letter :: tail) := by
    refine Shape.of_eq_letters_iff.2 ⟨.char k.letter, tail, ?_, rfl, rfl⟩
    intro h
    exact letter_ne_hyphen (RawChar.char.inj h)
  rw [Grammar.readFrom, Grammar.shape_eq rfl, hshape]

theorem readsOn_name_iff (k : FaultOption) (attached : Option RawText) :
    ReadsOn l ((Opening.name.text k ++ attached.elim [] (.char '=' :: ·)) :: tokens) o ↔
      ((progress l).meet grammar k attached >>= fun p => grammar.readFrom p tokens) =
        .ok (o, []) := by
  rw [ReadsOn, readFrom_name]

theorem readsOn_letter_iff {tail : RawText} :
    ReadsOn l ((.char '-' :: .char k.letter :: tail) :: tokens) o ↔
      ((progress l).meetLetters grammar (.char k.letter :: tail) >>=
        fun p => grammar.readFrom p tokens) = .ok (o, []) := by
  rw [ReadsOn, readFrom_letter]

/-- A run of letters that is read begins with the letter of an option. -/
theorem exists_letter_of_meetLetters {u : RawChar} {tail : RawText}
    (h : (progress l).meetLetters grammar (u :: tail) = .ok p) :
    ∃ k : FaultOption, u = .char k.letter := by
  cases u with
  | byte b => cases h
  | char c =>
    rw [Progress.meetLetters] at h
    cases hk : grammar.ofShort? c with
    | none =>
      rw [hk] at h
      cases h
    | some k =>
      obtain rfl := ofShort?_eq_some_iff.1 hk
      exact ⟨k, rfl⟩

/-- The arguments that are read end the options, or begin with a name or a letter. -/
theorem ReadsOn.cases_first {t : RawText} (h : ReadsOn l (t :: tokens) o) :
    t = [.char '-', .char '-'] ∨
      (∃ (k : FaultOption) (attached : Option RawText),
        t = Opening.name.text k ++ attached.elim [] (.char '=' :: ·)) ∨
      ∃ (k : FaultOption) (tail : RawText), t = .char '-' :: .char k.letter :: tail := by
  unfold ReadsOn at h
  rw [Grammar.readFrom, Grammar.shape_eq rfl] at h
  cases hshape : Shape.of t with
  | escape => exact .inl (Shape.of_eq_escape_iff.1 hshape)
  | long name attached =>
    rw [hshape] at h
    dsimp only at h
    cases hk : grammar.ofLong? name with
    | none =>
      rw [hk] at h
      cases h
    | some k =>
      obtain rfl := ofLong?_eq_some_iff.1 hk
      obtain ⟨rest, -, rfl, hcut⟩ := Shape.of_eq_long_iff.1 hshape
      refine .inr (.inl ⟨k, attached, ?_⟩)
      rw [RawText.eq_of_cutAtEquals hcut]
      rfl
  | letters run =>
    rw [hshape] at h
    obtain ⟨u, rest, -, rfl, rfl⟩ := Shape.of_eq_letters_iff.1 hshape
    obtain ⟨p, hmeet, -⟩ := Arguments.bind_eq_ok_iff.1 h
    obtain ⟨k, rfl⟩ := exists_letter_of_meetLetters hmeet
    exact .inr (.inr ⟨k, rest, rfl⟩)
  | word =>
    rw [hshape] at h
    have hend : grammar.readWords (progress l) (t :: tokens) = .ok (o, []) := h
    obtain ⟨hnil, -⟩ := readWords_progress_eq_ok_iff.1 hend
    cases hnil

theorem meetLetters_value {tail : RawText} (hk : k ≠ keep) :
    p.meetLetters grammar (.char k.letter :: tail) =
      p.meet grammar k (Progress.attachedRest tail) := by
  rw [Progress.meetLetters, ofShort?_eq_some_iff.2 rfl]
  simp [takesValue_eq, hk]

theorem meetLetters_flag {tail : RawText} :
    p.meetLetters grammar (.char keep.letter :: tail) =
      (p.meet grammar keep none >>= fun q => q.meetLetters grammar tail) := rfl

theorem meetLetters_flag_eq_ok_iff {tail : RawText} :
    (progress l).meetLetters grammar (.char keep.letter :: tail) = .ok p ↔
      keep ∉ optionsOf l ∧ (progress (l ++ [(keep, 0)])).meetLetters grammar tail = .ok p := by
  rw [meetLetters_flag, Arguments.bind_eq_ok_iff]
  constructor
  · intro h
    rcases h with ⟨q, hmeet, h⟩
    obtain ⟨-, hmem, rfl⟩ := meet_flag_eq_ok_iff.1 hmeet
    exact ⟨hmem, h⟩
  · intro h
    rcases h with ⟨hmem, h⟩
    exact ⟨_, meet_flag_eq_ok_iff.2 ⟨rfl, hmem, rfl⟩, h⟩

end Steps

end FaultOption

end ResourceFaults
