import Mathlib
import ResourceFaults.Json.Codec
import ResourceFaults.Proofs.Json.Reals
import ResourceFaults.Proofs.Time.Rfc3339

/-!
# Values read back from what they are written as

`Codec.Reads codec a b` says that `b` is read from every text that spells what `a` is
written as, wherever that text stands: behind blanks, and in front of whatever can
follow a value.  Scalars are read as themselves, real numbers as what their own text is
read as, and optional values and lists as their parts are (`Codec.Reads.some`,
`Codec.Reads.list`).
-/

namespace ResourceFaults.Json

namespace Codec

variable {α β : Type}

/-- Whether `b` is read from every text of what `a` is written as. -/
def Reads (codec : Codec α) (a b : α) : Prop :=
  ∀ ⦃sp cs rest : List Char⦄, AreSpaces sp → Spells (codec.write a) cs → EndsValue rest →
    codec.read (sp ++ (cs ++ rest)) = .ok (b, rest)

/-! ## Whole texts -/

theorem Reads.decode {codec : Codec α} {a b : α} (h : codec.Reads a b) {cs : List Char}
    (hcs : Spells (codec.write a) cs) : codec.decode (String.ofList cs) = .ok b := by
  have hread := h areSpaces_nil hcs endsValue_nil
  rw [List.nil_append, List.append_nil] at hread
  rw [Codec.decode, String.toList_ofList]
  simp only [hread]
  rfl

theorem Reads.decode_compact {codec : Codec α} {a b : α} (h : codec.Reads a b) :
    codec.decode (codec.compact a) = .ok b :=
  h.decode (spells_compact _)

theorem Reads.decode_pretty {codec : Codec α} {a b : α} (h : codec.Reads a b) :
    codec.decode (codec.pretty a) = .ok b :=
  h.decode (spells_pretty 0 _)

theorem read_of_decode {codec : Codec α} {cs : List Char} {a : α}
    (h : codec.decode (String.ofList cs) = .ok a) :
    ∃ rest, codec.read cs = .ok (a, rest) ∧ skipSpace rest = [] := by
  rw [Codec.decode, String.toList_ofList] at h
  split at h
  · cases h
  · rename_i rest hread
    split at h
    · rename_i hrest
      obtain rfl := Except.ok.inj h
      exact ⟨rest, hread, hrest⟩
    · cases h

/-! ## Numbers -/

/-- A number is converted wherever it stands. -/
theorem readConverted_of_number {expected : String} {convert : Number → Except ReadFault α}
    {sp cs rest : List Char} {n : Number} {a : α} (hsp : AreSpaces sp)
    (hstart : Decimal.StartsNumber cs) (hread : readNumber (cs ++ rest) = .ok (n, rest))
    (hconvert : convert n = .ok a) :
    readConverted expected convert (sp ++ (cs ++ rest)) = .ok (a, rest) := by
  obtain ⟨c, cs, rfl, hc⟩ := hstart
  have hnumber : (c == '-' || startsWithDigit (c :: (cs ++ rest))) = true := by
    rcases hc with rfl | hc
    · rfl
    · rw [startsWithDigit_cons hc, Bool.or_true]
  rw [List.cons_append] at hread ⊢
  rw [readConverted, skipSpace_append hsp, skipSpace_cons (startsNumber_front hc).1]
  simp only [hnumber, hread, hconvert, if_true]

/-- A whole number that 64 bits can hold, in a range that it is in. -/
theorem readConverted_signedDigits (low beyond : Int) (expected : String) {i : Int}
    {sp rest : List Char} (hsp : AreSpaces sp) (hrest : EndsValue rest) (hlow : low ≤ i)
    (hbeyond : i < beyond) (hfrom : -2 ^ 63 ≤ low) (hto : beyond ≤ 2 ^ 64) :
    readConverted expected (wholeBetween low beyond expected)
      (sp ++ (Decimal.signedDigits i ++ rest)) = .ok (i, rest) :=
  readConverted_of_number hsp (Decimal.startsNumber_signedDigits i)
    (readNumber_signedDigits (hfrom.trans hlow) (hbeyond.trans_le hto) hrest)
    (if_pos ⟨hlow, hbeyond⟩)

theorem reads_wordNamed (expected : String) (n : UInt64) : (wordNamed expected).Reads n n := by
  intro sp cs rest hsp hcs hrest
  have hspan : span 64 = 2 ^ 64 := rfl
  have hlt := n.toNat_lt
  cases hcs with
  | integer =>
    have hread := readConverted_signedDigits 0 (span 64) expected hsp hrest
      (Int.natCast_nonneg n.toNat) (by omega) (by decide) (by omega)
    show (readConverted _ _ _).map _ = _
    rw [hread]
    simp [Except.map]

theorem reads_signedWord (n : Int64) : signedWord.Reads n n := by
  intro sp cs rest hsp hcs hrest
  have hspan : span 63 = 2 ^ 63 := rfl
  have hle := n.le_toInt
  have hlt := n.toInt_lt
  cases hcs with
  | integer =>
    have hread := readConverted_signedDigits (-span 63) (span 63) "i64" hsp hrest
      (i := n.toInt) (by omega) (by omega) (by omega) (by omega)
    show (readConverted _ _ _).map _ = _
    rw [hread]
    simp [Except.map]

theorem readConverted_eq_ok {expected : String} {convert : Number → Except ReadFault α}
    {cs rest : List Char} {a : α} (h : readConverted expected convert cs = .ok (a, rest)) :
    ∃ n, readNumber (skipSpace cs) = .ok (n, rest) ∧ convert n = .ok a := by
  unfold readConverted at h
  split at h
  · cases h
  · rename_i hcs
    rw [hcs]
    split at h
    · split at h
      · cases h
      · rename_i n rest hread
        split at h
        · rename_i a hconvert
          obtain ⟨rfl, rfl⟩ := Prod.mk.inj (Except.ok.inj h)
          exact ⟨n, hread, hconvert⟩
        · cases h
    · cases h

/-- A real number is read as whatever its own text is read as: the text has no blanks,
so all of it is the number. -/
theorem reads_real {x y : Float} (h : real.decode (real.compact x) = .ok y) : real.Reads x y := by
  intro sp cs rest hsp hcs hrest
  have hdecode : real.decode (String.ofList (realChars x)) = .ok y := h
  obtain ⟨left, hread, hleft⟩ := read_of_decode hdecode
  cases hcs with
  | real =>
    rcases realChars_cases x with hnull | ⟨hchars, hstart⟩
    · rw [hnull] at hread
      cases hread
    · have hconverted : readConverted "f64" (fun n => .ok (Number.toFloat n)) (realChars x) =
          .ok (y, left) := hread
      obtain ⟨n, hnumber, hconvert⟩ := readConverted_eq_ok hconverted
      have hskip : skipSpace (realChars x) = realChars x := by
        obtain ⟨c, cs, hcs, hc⟩ := hstart
        rw [hcs, skipSpace_cons (startsNumber_front hc).1]
      rw [hskip] at hnumber
      have hnil : left = [] := by
        have hsuffix := isSuffix_readNumber hnumber
        cases left with
        | nil => rfl
        | cons c left =>
          have hc := hchars c (hsuffix.subset List.mem_cons_self)
          rw [skipSpace_cons (isSpace_of_isNumberChar hc)] at hleft
          cases hleft
      subst hnil
      show readConverted "f64" (fun n => .ok (Number.toFloat n)) _ = _
      exact readConverted_of_number hsp hstart (readNumber_append hrest hnumber) hconvert

/-! ## Strings -/

/-- A string is converted wherever it stands. -/
theorem readConvertedString_of_string {expected : String}
    {convert : List Char → Except String α} {sp rest : List Char} {s : String} {a : α}
    (hsp : AreSpaces sp) (hconvert : convert s.toList = .ok a) :
    readConvertedString expected convert (sp ++ (stringChars s ++ rest)) = .ok (a, rest) := by
  have hread := readString_escape s.toList rest
  rw [readConvertedString, skipSpace_append hsp, stringChars_append, skipSpace_cons rfl]
  simp only [hread, hconvert, beq_self_eq_true, if_true]

theorem reads_string (s : String) : string.Reads s s := by
  intro sp cs rest hsp hcs hrest
  cases hcs with
  | string =>
    have hconvert : (.ok (String.ofList s.toList) : Except String String) = .ok s := by
      rw [String.ofList_toList]
    show readConvertedString "a string" (fun s => .ok (String.ofList s)) _ = _
    exact readConvertedString_of_string hsp hconvert

theorem reads_moment {m : Time.Moment} (h : m.IsPlain) : moment.Reads m m := by
  intro sp cs rest hsp hcs hrest
  cases hcs with
  | string =>
    refine readConvertedString_of_string hsp ?_
    rw [Time.Moment.text, String.toList_ofList, Time.Moment.read_chars h]
    rfl

/-! ## Optional values -/

theorem reads_none (codec : Codec α) : codec.optional.Reads none none := by
  intro sp cs rest hsp hcs hrest
  cases hcs with
  | null =>
    simp only [optional]
    rw [skipSpace_append hsp]
    rfl

/-- A value that is there is read as such if it cannot be taken for `null`. -/
theorem Reads.some {codec : Codec α} {a b : α} (h : codec.Reads a b)
    (hsolid : (codec.write a).isSolid = true) : codec.optional.Reads (some a) (some b) := by
  intro sp cs rest hsp hcs hrest
  have hread := h areSpaces_nil hcs hrest
  obtain ⟨c, cs, rfl, hspace, -, hletter⟩ := Spells.front hcs
  simp only [optional]
  rw [skipSpace_append hsp, List.cons_append, skipSpace_cons hspace]
  split
  · rename_i heq
    exact absurd (List.cons.inj heq).1 (hletter hsolid)
  · rw [List.nil_append, List.cons_append] at hread
    rw [hread]
    rfl

/-! ## Lists -/

theorem nextItem_close (first : Bool) {sp : List Char} (hsp : AreSpaces sp) (rest : List Char) :
    nextItem first (sp ++ ']' :: rest) = .ok (false, ']' :: rest) := by
  rw [nextItem, skipSpace_append hsp, skipSpace_cons rfl]
  rfl

theorem nextItem_item (first : Bool) {sp cs : List Char} {c : Char} (hsp : AreSpaces sp)
    (hspace : isSpace c = false) (hbracket : c ≠ ']') :
    nextItem first (comma first ++ (sp ++ c :: cs)) = .ok (true, c :: cs) := by
  have hc : (c == ']') = false := beq_eq_false_iff_ne.2 hbracket
  have hskip : skipSpace (sp ++ c :: cs) = c :: cs := by
    rw [skipSpace_append hsp, skipSpace_cons hspace]
  cases first with
  | true =>
    rw [comma, if_pos rfl, List.nil_append, nextItem, hskip]
    simp [hc]
  | false =>
    have hcomma : skipSpace (',' :: (sp ++ c :: cs)) = ',' :: (sp ++ c :: cs) :=
      skipSpace_cons rfl _
    rw [comma, if_neg Bool.false_ne_true, List.singleton_append, nextItem, hcomma]
    simp [hskip, hc]

/-- The items of a list are read one by one, and the closing bracket is left. -/
theorem readItems_of_spells {codec : Codec α} {as bs : List α}
    (h : List.Forall₂ codec.Reads as bs) {fuel : Nat} {first : Bool} {cs rest : List Char}
    (hfuel : as.length ≤ fuel) (hcs : SpellsItems first (as.map codec.write) cs) :
    readItems codec (fuel + 1) first (cs ++ rest) = .ok (bs, ']' :: rest) := by
  induction h generalizing fuel first cs with
  | nil =>
    cases hcs with
    | close hsp =>
      rw [List.append_assoc, List.singleton_append, readItems, nextItem_close first hsp, ok_bind]
      rfl
  | cons ha has ih =>
    obtain ⟨fuel, rfl⟩ := Nat.exists_eq_add_one.2 (Nat.zero_lt_of_lt hfuel)
    cases hcs with
    | item hsp hd hds =>
      obtain ⟨c, cs', hcs', hspace, hbracket, -⟩ := hd.front
      have hread := ha areSpaces_nil hd (hds.endsValue rest)
      have hrest := ih (Nat.le_of_succ_le_succ hfuel) hds
      rw [List.nil_append] at hread
      rw [hcs', List.cons_append] at hread
      rw [hcs', List.append_assoc, List.append_assoc, List.append_assoc, List.cons_append,
        readItems, nextItem_item first hsp hspace hbracket, ok_bind]
      simp only [if_true]
      rw [hread, ok_bind]
      simp only
      rw [hrest]
      rfl

theorem Reads.list {codec : Codec α} {as bs : List α} (h : List.Forall₂ codec.Reads as bs) :
    codec.list.Reads as bs := by
  intro sp cs rest hsp hcs hrest
  cases hcs with
  | list hitems =>
    rename_i cs
    have hfuel : as.length ≤ (cs ++ rest).length := by
      have hle := hitems.length_le
      rw [List.length_map] at hle
      rw [List.length_append]
      omega
    have hread : readItems codec (_ + 1) true (cs ++ rest) = .ok (bs, ']' :: rest) :=
      readItems_of_spells h hfuel hitems
    simp only [Codec.list]
    rw [skipSpace_append hsp, List.cons_append, skipSpace_cons rfl]
    simp only [beq_self_eq_true, if_true, hread]
    rfl

end Codec

end ResourceFaults.Json
