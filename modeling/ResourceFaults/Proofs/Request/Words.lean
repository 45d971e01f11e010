import Mathlib
import ResourceFaults.Proofs.Text.Words
import ResourceFaults.Request

/-!
# What a request is read from

A text is read as a request by its words alone.  `Request.IsByWords` says which words
make which request, and `Request.isByWords` that every text is read so, with the
complaint about its options if there is one.
-/

namespace ResourceFaults.Request

open Arguments (Complaint)
open Text (RawText words)

variable {text text' : String} {ws rest : List String}

/-! ## Words -/

@[simp] theorem ofWords_nil : ofWords [] = .ok (.unrecognized "") := rfl

theorem ofWords_cpu (rest : List String) :
    ofWords ("cpu" :: rest) = (Options.parse (rest.map RawText.ofString)).map cpu := rfl

theorem ofWords_mem (rest : List String) :
    ofWords ("mem" :: rest) = (Options.parse (rest.map RawText.ofString)).map mem := rfl

@[simp] theorem ofWords_stop (rest : List String) : ofWords ("stop" :: rest) = .ok .stop := rfl

theorem ofWords_unknown {command : String} (hcpu : command ≠ "cpu") (hmem : command ≠ "mem")
    (hstop : command ≠ "stop") (rest : List String) :
    ofWords (command :: rest) = .ok (.unrecognized command) := by
  simp [ofWords, hcpu, hmem, hstop]

/-- The command word is one of four kinds. -/
theorem ofWords_cases (ws : List String) :
    (∃ rest, ws = "cpu" :: rest) ∨ (∃ rest, ws = "mem" :: rest) ∨ (∃ rest, ws = "stop" :: rest) ∨
      (ws.headD "" ≠ "cpu" ∧ ws.headD "" ≠ "mem" ∧ ws.headD "" ≠ "stop" ∧
        ofWords ws = .ok (.unrecognized (ws.headD ""))) := by
  cases ws with
  | nil => simp
  | cons command rest =>
    by_cases hcpu : command = "cpu"
    · exact .inl ⟨rest, by rw [hcpu]⟩
    by_cases hmem : command = "mem"
    · exact .inr (.inl ⟨rest, by rw [hmem]⟩)
    by_cases hstop : command = "stop"
    · exact .inr (.inr (.inl ⟨rest, by rw [hstop]⟩))
    · exact .inr (.inr (.inr ⟨hcpu, hmem, hstop, ofWords_unknown hcpu hmem hstop rest⟩))

theorem map_ne_ok {r : Request} {make : Options → Request}
    {x : Except (Complaint FaultOption) Options} (h : ∀ o, make o ≠ r) : x.map make ≠ .ok r := by
  cases x with
  | error c => exact nofun
  | ok o => exact fun heq => h o (Except.ok.inj heq)

theorem ofWords_eq_stop_iff : ofWords ws = .ok .stop ↔ ws.head? = some "stop" := by
  rcases ofWords_cases ws with ⟨rest, rfl⟩ | ⟨rest, rfl⟩ | ⟨rest, rfl⟩ | ⟨-, -, hstop, hws⟩
  · exact iff_of_false (map_ne_ok nofun) (by simp)
  · exact iff_of_false (map_ne_ok nofun) (by simp)
  · exact iff_of_true rfl rfl
  · refine iff_of_false (by simp [hws]) fun h => hstop ?_
    rw [List.headD_eq_head?_getD, h]
    rfl

theorem ofWords_eq_unrecognized_iff {command : String} :
    ofWords ws = .ok (.unrecognized command) ↔
      command = ws.headD "" ∧ command ≠ "cpu" ∧ command ≠ "mem" ∧ command ≠ "stop" := by
  rcases ofWords_cases ws with ⟨rest, rfl⟩ | ⟨rest, rfl⟩ | ⟨rest, rfl⟩ | ⟨hcpu, hmem, hstop, hws⟩
  · refine iff_of_false (map_ne_ok nofun) ?_
    rintro ⟨rfl, h, -⟩
    exact h rfl
  · refine iff_of_false (map_ne_ok nofun) ?_
    rintro ⟨rfl, -, h, -⟩
    exact h rfl
  · refine iff_of_false nofun ?_
    rintro ⟨rfl, -, -, h⟩
    exact h rfl
  · rw [hws]
    constructor
    · intro h
      obtain rfl : ws.headD "" = command := unrecognized.inj (Except.ok.inj h)
      exact ⟨rfl, hcpu, hmem, hstop⟩
    · rintro ⟨rfl, -⟩
      rfl

/-! ## Texts -/

/-- Texts with the same words are read as the same request. -/
theorem parse_eq_of_words_eq (h : words text = words text') : parse text = parse text' := by
  rw [parse, parse, h]

/-- Texts that are joined by spaces are read as the words of all of them. -/
theorem parse_intercalate (texts : List String) :
    parse (" ".intercalate texts) = ofWords (texts.flatMap words) := by
  rw [parse, Text.words_intercalate]

/-- How a text is read by its words. -/
structure IsByWords (text : String) : Prop where
  /-- What stands between the words does not matter. -/
  joined : parse text = parse (" ".intercalate (words text))
  stop_iff : parse text = .ok .stop ↔ (words text).head? = some "stop"
  /-- An unknown command is the first word, or none if there is no word. -/
  unrecognized_iff : ∀ command, parse text = .ok (.unrecognized command) ↔
    command = (words text).headD "" ∧ command ≠ "cpu" ∧ command ≠ "mem" ∧ command ≠ "stop"
  /-- After `cpu` and `mem` the other words are the arguments of the options. -/
  cpu_eq : ∀ rest, words text = "cpu" :: rest →
    parse text = (Options.parse (rest.map RawText.ofString)).map cpu
  mem_eq : ∀ rest, words text = "mem" :: rest →
    parse text = (Options.parse (rest.map RawText.ofString)).map mem

theorem isByWords (text : String) : IsByWords text where
  joined := parse_eq_of_words_eq (Text.words_intercalate_words text).symm
  stop_iff := ofWords_eq_stop_iff
  unrecognized_iff _ := ofWords_eq_unrecognized_iff
  cpu_eq rest h := by rw [parse, h, ofWords_cpu]
  mem_eq rest h := by rw [parse, h, ofWords_mem]

end ResourceFaults.Request
