import Mathlib.Tactic.SplitIfs
import TestImpact.Text.Lines
import TestImpact.Text.Utf8

/-
  A text comes back from its bytes.

  A character has one to four bytes. Its first byte announces how many follow
  and in which bounds, and the bits of all of them put together are its code
  point again (`decodeStep_charBytes`). So what is encoded is decoded to the
  same characters (`decode_encode`).
-/

namespace TestImpact.Text

/-- The bytes of a character, as numbers. -/
def charBytes (c : Char) : List Nat := (String.utf8EncodeChar c).map (·.toNat)

section Rest

variable {low high count bits b : Nat} {rest : List Nat}

theorem decodeRest_last (h : low ≤ b ∧ b ≤ high) :
    decodeRest low high count bits 0 (b :: rest) = .ok (64 * bits + (b - 0x80)) := by
  have hin : (b < low || high < b) = false := by simp [h]
  simp [decodeRest, hin]

theorem decodeRest_next {more : Nat} (h : low ≤ b ∧ b ≤ high) :
    decodeRest low high count bits (more + 1) (b :: rest) =
      decodeRest 0x80 0xbf (count + 1) (64 * bits + (b - 0x80)) more rest := by
  have hin : (b < low || high < b) = false := by simp [h]
  simp [decodeRest, hin]

end Rest

/-! Leads -/

theorem lead_two {b : Nat} (h : 0xc2 ≤ b ∧ b < 0xe0) :
    Lead.of? b = some ⟨0x80, 0xbf, 0, b - 0xc0⟩ := by
  rw [Lead.of?, if_neg (by omega), if_pos h.2]

theorem lead_three {b : Nat} (h : 0xe0 ≤ b ∧ b < 0xf0) :
    Lead.of? b = some ⟨if b = 0xe0 then 0xa0 else 0x80, if b = 0xed then 0x9f else 0xbf, 1,
      b - 0xe0⟩ := by
  rw [Lead.of?, if_neg (by omega), if_neg (by omega)]
  by_cases hfirst : b = 0xe0
  · simp [hfirst]
  · by_cases hsurrogate : b = 0xed
    · simp [hsurrogate]
    · simp [hfirst, hsurrogate, h.2]

theorem lead_four {b : Nat} (h : 0xf0 ≤ b ∧ b ≤ 0xf4) :
    Lead.of? b = some ⟨if b = 0xf0 then 0x90 else 0x80, if b = 0xf4 then 0x8f else 0xbf, 2,
      b - 0xf0⟩ := by
  obtain rfl | rfl | rfl | rfl | rfl : b = 0xf0 ∨ b = 0xf1 ∨ b = 0xf2 ∨ b = 0xf3 ∨ b = 0xf4 := by
    omega
  all_goals rfl

/-! Characters -/

theorem codePoint_bounds (c : Char) :
    c.toNat < 0xd800 ∨ 0xdfff < c.toNat ∧ c.toNat < 0x110000 := c.valid

theorem charBytes_eq (c : Char) :
    charBytes c =
      if c.toNat ≤ 0x7f then [c.toNat]
      else if c.toNat ≤ 0x7ff then [c.toNat / 64 + 0xc0, c.toNat % 64 + 0x80]
      else if c.toNat ≤ 0xffff then
        [c.toNat / 4096 + 0xe0, c.toNat / 64 % 64 + 0x80, c.toNat % 64 + 0x80]
      else
        [c.toNat / 262144 + 0xf0, c.toNat / 4096 % 64 + 0x80, c.toNat / 64 % 64 + 0x80,
          c.toNat % 64 + 0x80] := by
  have hbounds := codePoint_bounds c
  have hval : c.val.toNat = c.toNat := rfl
  rw [charBytes, String.utf8EncodeChar, hval]
  split_ifs <;>
    simp only [List.map_cons, List.map_nil, UInt8.toNat_ofNat', List.cons.injEq, and_true] <;>
    omega

/-- The bytes of a character, with others behind them, are read as this character. -/
theorem decodeStep_charBytes (c : Char) (rest : List Nat) :
    ∃ b more, charBytes c = b :: more ∧ decodeStep b (more ++ rest) = .ok (c, more.length) := by
  have hbounds := codePoint_bounds c
  have hback : Char.ofNat c.toNat = c := Char.ofNat_toNat c
  rw [charBytes_eq]
  -- By the number of bytes; the bits of each, put together again, are the code point.
  split_ifs with hone htwo hthree
  · refine ⟨_, _, rfl, ?_⟩
    rw [decodeStep, if_pos (by omega), hback, List.length_nil]
  · refine ⟨_, _, rfl, ?_⟩
    have hsum : 64 * (c.toNat / 64 + 0xc0 - 0xc0) + (c.toNat % 64 + 0x80 - 0x80) = c.toNat := by
      omega
    rw [decodeStep, if_neg (by omega), lead_two (by omega)]
    simp only [List.cons_append, List.nil_append]
    rw [decodeRest_last (by omega), hsum, Except.map, hback]
    rfl
  · refine ⟨_, _, rfl, ?_⟩
    have hsum : 64 * (64 * (c.toNat / 4096 + 0xe0 - 0xe0) + (c.toNat / 64 % 64 + 0x80 - 0x80))
        + (c.toNat % 64 + 0x80 - 0x80) = c.toNat := by omega
    rw [decodeStep, if_neg (by omega), lead_three (by omega)]
    simp only [List.cons_append, List.nil_append]
    rw [decodeRest_next (by split_ifs <;> omega), decodeRest_last (by omega), hsum, Except.map,
      hback]
    rfl
  · refine ⟨_, _, rfl, ?_⟩
    have hsum : 64 * (64 * (64 * (c.toNat / 262144 + 0xf0 - 0xf0)
        + (c.toNat / 4096 % 64 + 0x80 - 0x80)) + (c.toNat / 64 % 64 + 0x80 - 0x80))
        + (c.toNat % 64 + 0x80 - 0x80) = c.toNat := by omega
    rw [decodeStep, if_neg (by omega), lead_four (by omega)]
    simp only [List.cons_append, List.nil_append]
    rw [decodeRest_next (by split_ifs <;> omega), decodeRest_next (by omega),
      decodeRest_last (by omega), hsum, Except.map, hback]
    rfl

/-! Texts -/

theorem decodeFrom_charBytes (cs : List Char) (position : Nat) :
    decodeFrom position (cs.flatMap charBytes) = .ok cs := by
  induction cs generalizing position with
  | nil => rw [List.flatMap_nil, decodeFrom]
  | cons c cs ih =>
    obtain ⟨b, more, hbytes, hstep⟩ := decodeStep_charBytes c (cs.flatMap charBytes)
    rw [List.flatMap_cons, hbytes, List.cons_append, decodeFrom, hstep]
    simp only [List.drop_left]
    rw [ih]
    rfl

/-- A byte array is listed from its end; what is listed already stands reversed. -/
theorem listed_eq (bytes : ByteArray) (i : Nat) (listed : List UInt8) :
    ByteArray.toList.loop bytes i listed = listed.reverse ++ bytes.data.toList.drop i := by
  by_cases h : i < bytes.size
  · have hnext : bytes.data.toList.drop i = bytes.get! i :: bytes.data.toList.drop (i + 1) := by
      have hi : i < bytes.data.toList.length := by simpa using h
      rw [List.drop_eq_getElem_cons hi]
      simp [ByteArray.get!, h]
    rw [ByteArray.toList.loop, if_pos h, listed_eq bytes (i + 1), hnext]
    simp
  · have hnone : bytes.data.toList.drop i = [] := List.drop_eq_nil_of_le (by simpa using h)
    rw [ByteArray.toList.loop, if_neg h, hnone, List.append_nil]
  termination_by bytes.size - i

theorem encode_eq (s : String) : encode s = s.toList.flatMap String.utf8EncodeChar := by
  rw [encode, String.toUTF8_eq_toByteArray, ← String.utf8Encode_toList, List.utf8Encode,
    ByteArray.toList, listed_eq, List.toList_data_toByteArray]
  rfl

theorem decode_encode (s : String) : decode (encode s) = .ok s.toList := by
  rw [decode, encode_eq, List.map_flatMap]
  exact decodeFrom_charBytes s.toList 0

/-! Line ends -/

/-- Where no carriage return stands, line ends are the same in both readings. -/
theorem unifyLineEnds_eq {cs : List Char} (h : '\r' ∉ cs) : unifyLineEnds cs = cs := by
  induction cs with
  | nil => rfl
  | cons c cs ih =>
    obtain ⟨hc, hcs⟩ : '\r' ≠ c ∧ '\r' ∉ cs := by simpa using h
    unfold unifyLineEnds
    split
    · rename_i heq
      cases heq
    · rename_i heq
      exact absurd (List.cons.inj heq).1.symm hc
    · rename_i heq
      exact absurd (List.cons.inj heq).1.symm hc
    · rename_i heq
      obtain ⟨rfl, rfl⟩ := List.cons.inj heq
      rw [ih hcs]

end TestImpact.Text
