import Mathlib
import ResourceFaults.Proofs.Options.Grammar

/-!
# The limit of block sizes

A block size beyond 2047 MiB counts as 2047 MiB.  The limit is applied when options are
read (`Options.parse`) and once more when a worker gets its plan (`Options.memoryPlan`).
So options with a larger block size, however they have come about, make the plan that
they make with their block size brought within the limit.

Arguments are read to the same options, or complained about in the same way, when the
value of a block size among them is brought within the limit (`Options.parse_limited`).
Nothing is asked of the other arguments.  The proof follows two readings at once:
`FaultOption.Alike` relates what they have read, and `FaultOption.ReadAlike` the
arguments that are still to come.
-/

namespace ResourceFaults

open Text (RawText RawChar)
open Arguments (Grammar Progress Shape Effect Interruption)

/-! ## Plans -/

namespace Options

theorem toNat_maxBlockMib : maxBlockMib.toNat = 2047 := rfl

/-- The size of a block in bytes never exceeds 2047 MiB. -/
theorem toNat_blockBytes (o : Options) :
    o.blockBytes.toNat = min o.blockMib.toNat 2047 * 2 ^ 20 := by
  have hmin : (min o.blockMib maxBlockMib).toNat = min o.blockMib.toNat 2047 := by
    rw [UInt32.toNat_min, toNat_maxBlockMib]
  rw [blockBytes, UInt64.toNat_mul, UInt32.toNat_toUInt64, hmin]
  have hlt : min o.blockMib.toNat 2047 * 1048576 < 2 ^ 64 := by omega
  exact Nat.mod_eq_of_lt hlt

theorem blockBytes_lt (o : Options) : o.blockBytes.toNat < 2 ^ 31 := by
  rw [toNat_blockBytes]
  omega

theorem blockBytes_clamped (o : Options) : o.clamped.blockBytes = o.blockBytes := by
  rw [← UInt64.toNat_inj, toNat_blockBytes, toNat_blockBytes, clamped, UInt32.toNat_min,
    toNat_maxBlockMib, min_assoc, min_self]

theorem memoryPlan_clamped (o : Options) : o.clamped.memoryPlan = o.memoryPlan := by
  rw [memoryPlan, blockBytes_clamped]
  rfl

end Options

/-! ## Computations that agree -/

namespace Arguments

variable {ε α β : Type} {R : α → α → Prop} {S : β → β → Prop}

/-- Whether two computations fail in the same way, or come to results that are
related. -/
inductive Agree (R : α → α → Prop) : Except ε α → Except ε α → Prop
  | error (e : ε) : Agree R (.error e) (.error e)
  | ok {x y : α} (h : R x y) : Agree R (.ok x) (.ok y)

theorem Agree.bind {x y : Except ε α} {f g : α → Except ε β} (h : Agree R x y)
    (hfg : ∀ a b, R a b → Agree S (f a) (g b)) : Agree S (x >>= f) (y >>= g) := by
  cases h with
  | error e => exact .error e
  | ok h => exact hfg _ _ h

theorem Agree.map {x y : Except ε α} {f g : α → β} (h : Agree R x y)
    (hfg : ∀ a b, R a b → S (f a) (g b)) : Agree S (x.map f) (y.map g) := by
  cases h with
  | error e => exact .error e
  | ok h => exact .ok (hfg _ _ h)

end Arguments

open Arguments (Agree)

namespace FaultOption

/-! ## Options that are alike -/

section Options

variable {o o' : Options} {k : FaultOption} {n n' : Nat} {value : Option RawText}
  {update : Options → Options}

/-- A half word is kept as it is. -/
theorem toNat_ofNat_halfWord (h : n ≤ Arguments.maxHalfWord) : (UInt32.ofNat n).toNat = n := by
  have hsize : Arguments.maxHalfWord + 1 = UInt32.size := rfl
  exact UInt32.toNat_ofNat_of_lt' (by omega)

theorem put_clamped (k : FaultOption) (n : Nat) (h : o.clamped = o'.clamped) :
    (k.put n o).clamped = (k.put n o').clamped := by
  cases k <;> simp_all [put, Options.clamped]

/-- Beyond the limit it does not matter by how much a block size exceeds it. -/
theorem put_memory_clamped (hn : n ≤ Arguments.maxHalfWord) (hn' : n' ≤ Arguments.maxHalfWord)
    (hmin : min n 2047 = min n' 2047) (h : o.clamped = o'.clamped) :
    (memory.put n o).clamped = (memory.put n' o').clamped := by
  have hsize : min (UInt32.ofNat n) Options.maxBlockMib =
      min (UInt32.ofNat n') Options.maxBlockMib := by
    rw [← UInt32.toNat_inj, UInt32.toNat_min, UInt32.toNat_min, toNat_ofNat_halfWord hn,
      toNat_ofNat_halfWord hn', Options.toNat_maxBlockMib, hmin]
  simp_all [put, Options.clamped]

/-- What an option does with its value keeps options alike. -/
theorem update_clamped (hread : k.read value = .ok (.change update))
    (h : o.clamped = o'.clamped) : (update o).clamped = (update o').clamped := by
  cases k with
  | keep =>
    cases hread
    exact put_clamped keep 0 h
  | memory =>
    obtain ⟨w, -, hw⟩ := Arguments.map_eq_ok_iff.1 hread
    cases hw
    simp_all [Options.clamped]
  | duration | threads | sleep =>
    obtain ⟨w, -, hw⟩ := Arguments.map_eq_ok_iff.1 hread
    cases hw
    simp_all [Options.clamped]

end Options

/-! ## What has been read alike -/

/-- Whether two texts are values of a block size, and the same within the limit. -/
def SameSize (v v' : List Char) : Prop :=
  ∃ n n', memory.Reads v n ∧ memory.Reads v' n' ∧ min n 2047 = min n' 2047

/-- Whether two open options are the same, but for the value of a block size. -/
inductive OpenAlike :
    Option (FaultOption × Option RawText) → Option (FaultOption × Option RawText) → Prop
  | same (pending : Option (FaultOption × Option RawText)) : OpenAlike pending pending
  | size {v v' : List Char} (h : SameSize v v') :
      OpenAlike (some (memory, some (v.map .char))) (some (memory, some (v'.map .char)))

/-- Whether what has been read is the same, but for a block size beyond the limit. -/
structure Alike (p p' : Progress FaultOption Options) : Prop where
  clamped_eq : p.settings.clamped = p'.settings.clamped
  recorded_eq : p.recorded = p'.recorded
  pending : OpenAlike p.pending p'.pending

namespace Alike

variable {p p' : Progress FaultOption Options} {k : FaultOption} {v v' : List Char}

theorem refl (p : Progress FaultOption Options) : Alike p p := ⟨rfl, rfl, .same _⟩

/-- What is open does not matter where it is replaced. -/
theorem reopen (h : Alike p p') {pending pending' : Option (FaultOption × Option RawText)}
    (hpending : OpenAlike pending pending') :
    Alike { p with pending } { p' with pending := pending' } :=
  ⟨h.clamped_eq, h.recorded_eq, hpending⟩

theorem record (h : Alike p p') (k : FaultOption) (value : Option RawText) :
    Agree Alike (p.record grammar k value) (p'.record grammar k value) := by
  unfold Progress.record
  rw [h.recorded_eq]
  split
  · exact .error _
  · cases hread : grammar.read k value with
    | error fault => exact .error _
    | ok effect =>
      cases effect with
      | answer i => exact i.elim
      | change update =>
        exact .ok ⟨update_clamped hread h.clamped_eq, rfl, h.pending⟩

theorem record_size (h : Alike p p') (hsize : SameSize v v') :
    Agree Alike (p.record grammar memory (some (v.map .char)))
      (p'.record grammar memory (some (v'.map .char))) := by
  obtain ⟨n, n', hn, hn', hmin⟩ := hsize
  have hread : grammar.read memory (some (v.map .char)) = .ok (.change (memory.put n)) :=
    (read_eq_ok_iff (by decide)).2 ⟨v, n, rfl, hn, rfl⟩
  have hread' : grammar.read memory (some (v'.map .char)) = .ok (.change (memory.put n')) :=
    (read_eq_ok_iff (by decide)).2 ⟨v', n', rfl, hn', rfl⟩
  unfold Progress.record
  rw [h.recorded_eq, hread, hread']
  split
  · exact .error _
  · exact .ok ⟨put_memory_clamped hn.2 hn'.2 hmin h.clamped_eq, rfl, h.pending⟩

theorem close (h : Alike p p') : Agree Alike (p.close grammar) (p'.close grammar) := by
  rcases p with ⟨o, recorded, pending⟩
  rcases p' with ⟨o', recorded', pending'⟩
  rcases h with ⟨hclamped, hrecorded, hpending⟩
  have hclosed : Alike ⟨o, recorded, none⟩ ⟨o', recorded', none⟩ :=
    ⟨hclamped, hrecorded, .same none⟩
  cases hpending with
  | size hsize => exact hclosed.record_size hsize
  | same =>
    rcases pending with - | ⟨k, - | value⟩
    · exact .ok hclosed
    · exact .error _
    · exact hclosed.record k (some value)

theorem meet (h : Alike p p') (k : FaultOption) (attached : Option RawText) :
    Agree Alike (p.meet grammar k attached) (p'.meet grammar k attached) := by
  unfold Progress.meet
  rw [h.recorded_eq]
  split
  · cases attached with
    | some value => exact h.close.bind fun q q' hq => hq.record k (some value)
    | none => exact h.close.bind fun q q' hq => .ok (hq.reopen (.same _))
  · cases attached with
    | some value => exact .error _
    | none => exact h.close.bind fun q q' hq => hq.record k none

theorem meet_size (h : Alike p p') (hsize : SameSize v v') :
    Agree Alike (p.meet grammar memory (some (v.map .char)))
      (p'.meet grammar memory (some (v'.map .char))) :=
  h.close.bind fun _ _ hq => hq.record_size hsize

theorem meetLetters (h : Alike p p') (run : RawText) :
    Agree Alike (p.meetLetters grammar run) (p'.meetLetters grammar run) := by
  induction run generalizing p p' with
  | nil => exact .ok h
  | cons u run ih =>
    cases u with
    | byte b => exact .error _
    | char c =>
      simp only [Progress.meetLetters]
      cases grammar.ofShort? c with
      | none => exact .error _
      | some k =>
        dsimp only
        split
        · exact h.meet k _
        · exact (h.meet k none).bind fun q q' hq => ih hq

theorem recordedAfterClose_eq (h : Alike p p') :
    p.recordedAfterClose = p'.recordedAfterClose := by
  rcases p with ⟨o, recorded, pending⟩
  rcases p' with ⟨o', recorded', pending'⟩
  rcases h with ⟨-, rfl, hpending⟩
  cases hpending <;> rfl

theorem isWaiting_eq (h : Alike p p') : p.isWaiting = p'.isWaiting := by
  rcases p with ⟨o, recorded, pending⟩
  rcases p' with ⟨o', recorded', pending'⟩
  rcases h with ⟨-, -, hpending⟩
  cases hpending <;> rfl

theorem supply (h : Alike p p') (value : RawText) : Alike (p.supply value) (p'.supply value) := by
  rcases h with ⟨hclamped, hrecorded, hpending⟩
  refine ⟨hclamped, hrecorded, ?_⟩
  rcases p with ⟨o, recorded, pending⟩
  rcases p' with ⟨o', recorded', pending'⟩
  cases hpending <;> exact .same _

end Alike

/-! ## Arguments that are read alike -/

/-- Whether options and words are the same, but for a block size beyond the limit. -/
def Settled (r r' : Options × List RawText) : Prop :=
  r.1.clamped = r'.1.clamped

/-- Whether some arguments come to the same as others, after whatever has been read
alike. -/
def ReadAlike (tokens tokens' : List RawText) : Prop :=
  ∀ p p', Alike p p' → Agree Settled (grammar.readFrom p tokens) (grammar.readFrom p' tokens')

section ReadAlike

variable {tokens tokens' : List RawText} {v v' : List Char} {n n' : Nat}

theorem Alike.readWords {p p' : Progress FaultOption Options} (h : Alike p p')
    (words : List RawText) :
    Agree Settled (grammar.readWords p words) (grammar.readWords p' words) := by
  cases words with
  | nil => exact h.close.map fun q q' hq => hq.clamped_eq
  | cons word words => exact .error _

/-- The same arguments may stand in front, unless they end the options. -/
theorem ReadAlike.append (h : ReadAlike tokens tokens') (front : List RawText)
    (hfront : [.char '-', .char '-'] ∈ front → tokens = tokens') :
    ReadAlike (front ++ tokens) (front ++ tokens') := by
  intro p p' hp
  induction front generalizing p p' with
  | nil => exact h p p' hp
  | cons t front ih =>
    have hrest := ih fun hmem => hfront (List.mem_cons_of_mem t hmem)
    rw [List.cons_append, List.cons_append, Grammar.readFrom, Grammar.readFrom]
    cases hshape : grammar.shape t with
    | escape =>
      rw [Grammar.shape_eq rfl, Shape.of_eq_escape_iff] at hshape
      rw [hfront (hshape ▸ List.mem_cons_self)]
      exact hp.readWords _
    | long name value =>
      dsimp only
      cases grammar.ofLong? name with
      | none =>
        rw [hp.recordedAfterClose_eq]
        exact .error _
      | some k => exact (hp.meet k value).bind hrest
    | letters run => exact (hp.meetLetters run).bind hrest
    | word =>
      dsimp only
      rw [hp.isWaiting_eq]
      split
      · exact hrest _ _ (hp.supply t)
      · exact .error _

theorem ReadAlike.refl (tokens : List RawText) : ReadAlike tokens tokens := by
  have hnil : ReadAlike [] [] := fun p p' hp => hp.readWords []
  have h := hnil.append tokens fun _ => rfl
  rwa [List.append_nil] at h

/-- An option that waits takes a block size for its value, whichever of the two it is. -/
theorem Alike.readFrom_awaiting {p p' : Progress FaultOption Options} (h : Alike p p')
    (hp : p.pending = some (memory, none)) (hp' : p'.pending = some (memory, none))
    (hsize : SameSize v v') (hhead : v.head? ≠ some '-') (hhead' : v'.head? ≠ some '-')
    (tokens : List RawText) :
    Agree Settled (grammar.readFrom p (v.map .char :: tokens))
      (grammar.readFrom p' (v'.map .char :: tokens)) := by
  obtain ⟨n, n', hn, hn', -⟩ := id hsize
  rcases p with ⟨o, recorded, pending⟩
  rcases p' with ⟨o', recorded', pending'⟩
  cases hp
  cases hp'
  rw [Grammar.readFrom, Grammar.readFrom, Grammar.shape_eq rfl, Grammar.shape_eq rfl,
    hn.shape_eq_word_iff.2 hhead, hn'.shape_eq_word_iff.2 hhead']
  exact ReadAlike.refl tokens _ _ (h.reopen (.size hsize))

/-- The value that an option finds attached. -/
def Form.attached (value : RawText) : Form → Option RawText
  | apart => none
  | joined => some value
  | equals => some value

/-- After its letter or its name a block size is read in the same way, whichever of the
two it is. -/
theorem Alike.meet_form {p p' : Progress FaultOption Options} (h : Alike p p')
    (hsize : SameSize v v') (form : Form)
    (hhead : form = .apart → v.head? ≠ some '-') (hhead' : form = .apart → v'.head? ≠ some '-')
    (tokens : List RawText) :
    Agree Settled
      (p.meet grammar memory (form.attached (v.map .char)) >>=
        fun q => grammar.readFrom q (form.next (v.map .char) ++ tokens))
      (p'.meet grammar memory (form.attached (v'.map .char)) >>=
        fun q => grammar.readFrom q (form.next (v'.map .char) ++ tokens)) := by
  cases form with
  | joined | equals => exact (h.meet_size hsize).bind (ReadAlike.refl tokens)
  | apart =>
    have hopen : Agree
        (fun q q' => Alike q q' ∧ q.pending = some (memory, none) ∧
          q'.pending = some (memory, none))
        (p.meet grammar memory none) (p'.meet grammar memory none) :=
      h.close.bind fun q q' hq => .ok ⟨hq.reopen (.same _), rfl, rfl⟩
    exact hopen.bind fun q q' hq =>
      hq.1.readFrom_awaiting hq.2.1 hq.2.2 hsize (hhead rfl) (hhead' rfl) tokens

/-- What is attached to a letter. -/
theorem Reads.attachedRest_tail (h : memory.Reads v n) (form : Form) :
    Progress.attachedRest (form.tail (v.map .char)) = form.attached (v.map .char) := by
  cases form with
  | apart | equals => rfl
  | joined =>
    refine Progress.attachedRest_eq_some_iff.2 (.inr ⟨rfl, ?_, ?_⟩)
    · simpa using h.ne.1
    · simpa using h.ne.2.2

theorem Reads.meetLetters_tail (h : memory.Reads v n) (p : Progress FaultOption Options)
    (form : Form) :
    p.meetLetters grammar (.char memory.letter :: form.tail (v.map .char)) =
      p.meet grammar memory (form.attached (v.map .char)) := by
  rw [meetLetters_value (by decide), h.attachedRest_tail]

theorem Form.tail_eq_attached (value : RawText) {form : Form} (h : form ≠ .joined) :
    form.tail value = (form.attached value).elim [] (.char '=' :: ·) := by
  cases form with
  | joined => exact absurd rfl h
  | apart | equals => rfl

/-- A block size and one of the same limit are read alike, wherever they stand and
however they are written. -/
theorem ReadAlike.item {opening : Opening} {form : Form}
    (hi : (Item.valued opening form memory v n).IsProper)
    (hi' : (Item.valued opening form memory v' n').IsProper) (hmin : min n 2047 = min n' 2047)
    (tokens : List RawText) :
    ReadAlike ((Item.valued opening form memory v n).tokens ++ tokens)
      ((Item.valued opening form memory v' n').tokens ++ tokens) := by
  rcases hi with ⟨hn, hhead, hform⟩
  rcases hi' with ⟨hn', hhead', -⟩
  have hsize : SameSize v v' := ⟨n, n', hn, hn', hmin⟩
  intro p p' hp
  rw [Item.tokens, Item.tokens, List.cons_append, List.cons_append]
  cases opening with
  | letter =>
    simp only [Opening.text, List.cons_append, List.nil_append, readFrom_letter,
      hn.meetLetters_tail, hn'.meetLetters_tail]
    exact hp.meet_form hsize form hhead hhead' tokens
  | name =>
    have hne : form ≠ .joined := fun hjoined => hform hjoined rfl
    rw [Form.tail_eq_attached _ hne, Form.tail_eq_attached _ hne, readFrom_name, readFrom_name]
    exact hp.meet_form hsize form hhead hhead' tokens
  | flagged =>
    simp only [Opening.text, List.cons_append, List.nil_append, readFrom_letter,
      meetLetters_flag, bind_assoc, hn.meetLetters_tail, hn'.meetLetters_tail]
    exact (hp.meet keep none).bind fun q q' hq => hq.meet_form hsize form hhead hhead' tokens

end ReadAlike

end FaultOption

/-! ## Options -/

namespace Options

open FaultOption

variable {tokens tokens' : List RawText} {v v' : List Char} {n n' : Nat}

theorem parse_eq_of_readAlike (h : ReadAlike tokens tokens') : parse tokens = parse tokens' := by
  have hagree := h _ _ (Alike.refl (Progress.start grammar))
  unfold parse Grammar.parse
  revert hagree
  generalize grammar.readFrom (Progress.start grammar) tokens = x
  generalize grammar.readFrom (Progress.start grammar) tokens' = y
  intro hagree
  cases hagree with
  | error e => rfl
  | ok hsettled => exact congrArg Except.ok hsettled

/-- Options are the same, and so are complaints about them, when the value of a block size
is brought within the limit.  What stands around it is arbitrary, as long as the options
have not ended before it. -/
theorem parse_limited {opening : Opening} {form : Form}
    (hi : (Item.valued opening form memory v n).IsProper)
    (hi' : (Item.valued opening form memory v' n').IsProper) (hmin : min n 2047 = min n' 2047)
    {before after : List RawText} (hbefore : [.char '-', .char '-'] ∉ before) :
    parse (before ++ ((Item.valued opening form memory v n).tokens ++ after)) =
      parse (before ++ ((Item.valued opening form memory v' n').tokens ++ after)) :=
  parse_eq_of_readAlike
    ((ReadAlike.item hi hi' hmin after).append before fun hmem => absurd hmem hbefore)

/-- The number of a block size on a command line is a half word. -/
theorem memory_le_of_isCommandLine {items : List Item} (h : IsCommandLine items tokens)
    (hmem : (memory, n) ∈ settingsOf items) : n ≤ Arguments.maxHalfWord := by
  obtain ⟨i, hi, hsetting⟩ := List.mem_flatMap.1 hmem
  have hproper := h.proper i hi
  rcases i with long | ⟨opening, form, k, v, m⟩
  · cases List.mem_singleton.1 hsetting
  · have hpair : (memory, n) = (k, m) := by
      cases opening <;> simpa [Item.settings] using hsetting
    cases hpair
    exact hproper.1.2

/-- The block size of options that are read is the number of its option within the limit,
and one mebibyte without the option. -/
theorem exists_items_of_parse {o : Options} (h : parse tokens = .ok o) :
    ∃ items, IsCommandLine items tokens ∧
      o.blockMib.toNat = min (((settingsOf items).lookup memory).getD 1) 2047 := by
  obtain ⟨items, hitems, rfl⟩ := parse_eq_ok_iff_exists_items.1 h
  refine ⟨items, hitems, ?_⟩
  rw [given, UInt32.toNat_min, toNat_maxBlockMib]
  cases hlookup : (settingsOf items).lookup memory with
  | none => rfl
  | some n =>
    have hle := memory_le_of_isCommandLine hitems ((lookup_eq_some_iff_mem hitems.once).1 hlookup)
    rw [Option.elim_some, Option.getD_some, toNat_ofNat_halfWord hle]

end Options

end ResourceFaults
