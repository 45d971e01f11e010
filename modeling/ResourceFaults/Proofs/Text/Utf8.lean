import Mathlib
import ResourceFaults.Text.Raw

/-!
# Reading the bytes of a text

`RawText.ofBytes_utf8`: the bytes of a string are read as the string, with no byte
left over.

A character is one piece of its bytes (`piece_encode`).  Its lead byte promises as
many bytes as follow, and the range of the first of them is wide enough: the range
is only narrowed where a shorter form would do, where a surrogate would stand, or
beyond the last character.
-/

namespace ResourceFaults.Text

/-! ## Lead bytes -/

theorem toNat_byte {k : Nat} (h : k < 256) : (UInt8.ofNat k).toNat = k :=
  UInt8.toNat_ofNat_of_lt' h

theorem Lead.of?_two {k : Nat} (hlow : 2 ≤ k) (hhigh : k < 32) :
    Lead.of? (UInt8.ofNat (k + 192)) = some ⟨1, 0x80, 0xBF, k⟩ := by
  interval_cases k <;> rfl

theorem Lead.of?_three {k : Nat} (hhigh : k < 16) :
    Lead.of? (UInt8.ofNat (k + 224)) =
      some ⟨2, if k = 0 then 0xA0 else 0x80, if k = 13 then 0x9F else 0xBF, k⟩ := by
  interval_cases k <;> rfl

theorem Lead.of?_four {k : Nat} (hhigh : k < 5) :
    Lead.of? (UInt8.ofNat (k + 240)) =
      some ⟨3, if k = 0 then 0x90 else 0x80, if k = 4 then 0x8F else 0xBF, k⟩ := by
  interval_cases k <;> rfl

/-- A lead byte is above ASCII. -/
theorem not_lt_ascii {k : Nat} (hlow : 128 ≤ k) (hhigh : k < 256) :
    ¬ UInt8.ofNat k < 0x80 := by
  rw [UInt8.lt_iff_toNat_lt, toNat_byte hhigh]
  exact Nat.not_lt.2 hlow

/-! ## The bytes that follow -/

/-- A byte in its range keeps the promise and adds six bits. -/
theorem Lead.follow_cons {owed j value : Nat} {low high : UInt8} {rest : List UInt8} (hj : j < 64)
    (hlow : low.toNat ≤ j + 128) (hhigh : j + 128 ≤ high.toNat) :
    Lead.follow (owed + 1) low high value (UInt8.ofNat (j + 128) :: rest) =
      ((Lead.follow owed 0x80 0xBF (value * 64 + j) rest).1 + 1,
        (Lead.follow owed 0x80 0xBF (value * 64 + j) rest).2) := by
  have hbyte : (UInt8.ofNat (j + 128)).toNat = j + 128 := toNat_byte (by omega)
  have hrange : (low ≤ UInt8.ofNat (j + 128) && UInt8.ofNat (j + 128) ≤ high) = true := by
    rw [Bool.and_eq_true, decide_eq_true_eq, decide_eq_true_eq, UInt8.le_iff_toNat_le,
      UInt8.le_iff_toNat_le, hbyte]
    exact ⟨hlow, hhigh⟩
  have hbits : (UInt8.ofNat (j + 128)).toNat % 0x40 = j := by rw [hbyte]; omega
  rw [Lead.follow, if_pos hrange, hbits]

/-- Bytes after the first have the whole range. -/
theorem Lead.follow_tail {owed j value : Nat} {rest : List UInt8} (hj : j < 64) :
    Lead.follow (owed + 1) 0x80 0xBF value (UInt8.ofNat (j + 128) :: rest) =
      ((Lead.follow owed 0x80 0xBF (value * 64 + j) rest).1 + 1,
        (Lead.follow owed 0x80 0xBF (value * 64 + j) rest).2) :=
  follow_cons hj (by show 128 ≤ _; omega) (by show _ ≤ 191; omega)

/-! ## Characters -/

/-- The code points of characters: no surrogates, and none beyond the last. -/
theorem code_cases (c : Char) :
    c.val.toNat < 0xD800 ∨ 0xDFFF < c.val.toNat ∧ c.val.toNat < 0x110000 :=
  c.valid

/-- The bytes of a character are one piece. -/
theorem piece_encode (c : Char) (rest : List UInt8) :
    ∃ b tail, String.utf8EncodeChar c = b :: tail ∧
      piece b (tail ++ rest) = (tail.length, some c) := by
  have hcode := code_cases c
  have hchar : Char.ofNat c.val.toNat = c := Char.ofNat_toNat c
  generalize hv : c.val.toNat = v at hcode hchar
  rw [String.utf8EncodeChar.eq_def]
  simp only [hv]
  by_cases hone : v ≤ 127
  · have hascii : UInt8.ofNat v < 0x80 := by
      rw [UInt8.lt_iff_toNat_lt, toNat_byte (by omega)]
      exact Nat.lt_succ_of_le hone
    refine ⟨_, _, if_pos hone, ?_⟩
    rw [piece, if_pos hascii, toNat_byte (by omega), hchar]
    rfl
  rw [if_neg hone]
  by_cases htwo : v ≤ 2047
  · refine ⟨_, _, if_pos htwo, ?_⟩
    rw [piece, if_neg (not_lt_ascii (by omega) (by omega)),
      Lead.of?_two (by omega) (by omega)]
    have hvalue : v / 64 % 32 * 64 + v % 64 = v := by omega
    simp only [List.cons_append, List.nil_append]
    rw [Lead.follow_tail (by omega), hvalue]
    simp [Lead.follow, hchar]
  rw [if_neg htwo]
  by_cases hthree : v ≤ 65535
  · refine ⟨_, _, if_pos hthree, ?_⟩
    rw [piece, if_neg (not_lt_ascii (by omega) (by omega)), Lead.of?_three (by omega)]
    have hvalue : (v / 4096 % 16 * 64 + v / 64 % 64) * 64 + v % 64 = v := by omega
    have hlow : (if v / 4096 % 16 = 0 then 0xA0 else 0x80 : UInt8).toNat ≤ v / 64 % 64 + 128 := by
      split
      · show 160 ≤ _
        omega
      · show 128 ≤ _
        omega
    have hhigh : v / 64 % 64 + 128 ≤ (if v / 4096 % 16 = 13 then 0x9F else 0xBF : UInt8).toNat := by
      split
      · show _ ≤ 159
        omega
      · show _ ≤ 191
        omega
    simp only [List.cons_append, List.nil_append]
    rw [Lead.follow_cons (by omega) hlow hhigh, Lead.follow_tail (by omega), hvalue]
    simp [Lead.follow, hchar]
  · refine ⟨_, _, if_neg hthree, ?_⟩
    rw [piece, if_neg (not_lt_ascii (by omega) (by omega)), Lead.of?_four (by omega)]
    have hvalue : ((v / 262144 % 8 * 64 + v / 4096 % 64) * 64 + v / 64 % 64) * 64 + v % 64 = v := by
      omega
    have hlow : (if v / 262144 % 8 = 0 then 0x90 else 0x80 : UInt8).toNat ≤
        v / 4096 % 64 + 128 := by
      split
      · show 144 ≤ _
        omega
      · show 128 ≤ _
        omega
    have hhigh : v / 4096 % 64 + 128 ≤
        (if v / 262144 % 8 = 4 then 0x8F else 0xBF : UInt8).toNat := by
      split
      · show _ ≤ 143
        omega
      · show _ ≤ 191
        omega
    simp only [List.cons_append, List.nil_append]
    rw [Lead.follow_cons (by omega) hlow hhigh, Lead.follow_tail (by omega),
      Lead.follow_tail (by omega), hvalue]
    simp [Lead.follow, hchar]

/-! ## Texts -/

namespace RawText

theorem ofBytes_encode (c : Char) (rest : List UInt8) :
    ofBytes (String.utf8EncodeChar c ++ rest) = .char c :: ofBytes rest := by
  obtain ⟨b, tail, hbytes, hpiece⟩ := piece_encode c rest
  rw [hbytes, List.cons_append, ofBytes, hpiece]
  simp

/-- The bytes of a string are read as the string. -/
theorem ofBytes_utf8 (s : String) : ofBytes s.toUTF8.data.toList = ofString s := by
  have hbytes : s.toUTF8.data.toList = s.toList.flatMap String.utf8EncodeChar := by
    rw [String.toUTF8, ← String.ofList_toList (s := s), String.toByteArray_ofList,
      List.utf8Encode, List.toList_data_toByteArray, String.toList_ofList]
  rw [hbytes, ofString]
  induction s.toList with
  | nil => rw [List.flatMap_nil, ofBytes, List.map_nil]
  | cons c cs ih => rw [List.flatMap_cons, ofBytes_encode, ih, List.map_cons]

end RawText

end ResourceFaults.Text
