import Mathlib.Tactic.SplitIfs
import LiveTemplate.Text.Utf8

/-!
# Decoding what has been encoded

The octets of a text are the octets of its characters, one after the other. The reader takes the
octets of one character apart into the digits of its number, in base 64, and stands between two
characters again behind them. So it reads every text back from its octets.
-/

namespace LiveTemplate.Text

variable {p : PendingChar} {low high n : Nat} {rest : List UInt8}

/-- The octets of a text are the octets of its characters. -/
theorem encode_eq_flatMap (text : String) :
    encode text = text.toList.flatMap String.utf8EncodeChar := by
  have hoctets : text.toByteArray = (text.toList.flatMap String.utf8EncodeChar).toByteArray := by
    have hback : String.ofList text.toList = text := String.ofList_toList
    rw [← hback, String.toByteArray_ofList, List.utf8Encode, hback]
  rw [encode, String.toUTF8_eq_toByteArray, hoctets, List.toList_data_toByteArray]

/-! ## One octet -/

theorem toNat_octet (h : n < 256) : (UInt8.ofNat n).toNat = n := by
  rw [UInt8.toNat_ofNat', Nat.mod_eq_of_lt h]

theorem decodeFrom_first (hn : n < 256) (h : firstOctet n = .pending p) :
    decodeFrom none (UInt8.ofNat n :: rest) = decodeFrom (some p) rest := by
  simp only [decodeFrom, toNat_octet hn, h]

/-- An octet within the bounds of a pending character adds a digit in base 64 to it. -/
theorem next_tail (owed bits : Nat) (hlow : low ≤ n + 128) (hhigh : n + 128 ≤ high) :
    PendingChar.next ⟨owed, low, high, bits⟩ (n + 128) =
      if owed ≤ 1 then .complete (Char.ofNat (bits * 64 + n))
      else .pending ⟨owed - 1, 0x80, 0xBF, bits * 64 + n⟩ := by
  have hkept : (low ≤ n + 128 && n + 128 ≤ high) = true := by simp [hlow, hhigh]
  have hbits : n + 128 - 128 = n := Nat.add_sub_cancel ..
  simp only [PendingChar.next, hkept, if_true, hbits]

theorem decodeFrom_tail (owed bits : Nat) (hn : n < 64) (hlow : low ≤ n + 128)
    (hhigh : n + 128 ≤ high) :
    decodeFrom (some ⟨owed + 2, low, high, bits⟩) (UInt8.ofNat (n + 128) :: rest) =
      decodeFrom (some ⟨owed + 1, 0x80, 0xBF, bits * 64 + n⟩) rest := by
  have hoctet : (UInt8.ofNat (n + 128)).toNat = n + 128 := toNat_octet (by omega)
  have hmore : ¬ owed + 2 ≤ 1 := by omega
  simp only [decodeFrom, hoctet, next_tail (owed + 2) bits hlow hhigh, if_neg hmore,
    Nat.reduceSubDiff]

theorem decodeFrom_last (bits : Nat) (hn : n < 64) (hlow : low ≤ n + 128)
    (hhigh : n + 128 ≤ high) :
    decodeFrom (some ⟨1, low, high, bits⟩) (UInt8.ofNat (n + 128) :: rest) =
      some (Char.ofNat (bits * 64 + n)) :: decodeFrom none rest := by
  have hoctet : (UInt8.ofNat (n + 128)).toNat = n + 128 := toNat_octet (by omega)
  simp only [decodeFrom, hoctet, next_tail 1 bits hlow hhigh, Nat.le_refl, if_true]

/-! ## One character -/

section Octets

variable {v : Nat}

theorem firstOctet_one (h : v < 0x80) : firstOctet v = .complete (Char.ofNat v) := by
  rw [firstOctet, if_pos h]

theorem firstOctet_two (hlow : 0x80 ≤ v) (hhigh : v < 0x800) :
    firstOctet (v / 64 % 32 + 192) = .pending ⟨1, 0x80, 0xBF, v / 64⟩ := by
  have hbits : v / 64 % 32 + 192 - 0xC0 = v / 64 := by omega
  rw [firstOctet, if_neg (by omega), if_neg (by omega), if_pos (by omega), hbits]

theorem firstOctet_three (hhigh : v < 0x10000) :
    firstOctet (v / 4096 % 16 + 224) =
      .pending ⟨2, if v / 4096 = 0 then 0xA0 else 0x80, if v / 4096 = 13 then 0x9F else 0xBF,
        v / 4096⟩ := by
  have hbits : v / 4096 % 16 + 224 - 0xE0 = v / 4096 := by omega
  have hshort : v / 4096 % 16 + 224 = 0xE0 ↔ v / 4096 = 0 := by omega
  have hsurrogate : v / 4096 % 16 + 224 = 0xED ↔ v / 4096 = 13 := by omega
  rw [firstOctet, if_neg (by omega), if_neg (by omega), if_neg (by omega), if_pos (by omega), hbits]
  simp only [hshort, hsurrogate]

theorem firstOctet_four (hhigh : v < 0x110000) :
    firstOctet (v / 262144 % 8 + 240) =
      .pending ⟨3, if v / 262144 = 0 then 0x90 else 0x80, if v / 262144 = 4 then 0x8F else 0xBF,
        v / 262144⟩ := by
  have hbits : v / 262144 % 8 + 240 - 0xF0 = v / 262144 := by omega
  have hshort : v / 262144 % 8 + 240 = 0xF0 ↔ v / 262144 = 0 := by omega
  have hbeyond : v / 262144 % 8 + 240 = 0xF4 ↔ v / 262144 = 4 := by omega
  rw [firstOctet, if_neg (by omega), if_neg (by omega), if_neg (by omega), if_neg (by omega),
    if_pos (by omega), hbits]
  simp only [hshort, hbeyond]

end Octets

/-- The reader reads a character back, and starts anew behind it. -/
theorem decodeFrom_encodeChar (c : Char) (rest : List UInt8) :
    decodeFrom none (String.utf8EncodeChar c ++ rest) = some c :: decodeFrom none rest := by
  obtain ⟨v, hv⟩ : ∃ v, v = c.val.toNat := ⟨_, rfl⟩
  have hvalid : v < 0xD800 ∨ 0xDFFF < v ∧ v < 0x110000 := hv ▸ c.valid
  have hc : Char.ofNat v = c := hv ▸ Char.ofNat_toNat c
  rw [String.utf8EncodeChar, ← hv]
  -- The number of octets is decided by the size of the number.
  split_ifs with hone htwo hthree
  · have hfirst : firstOctet (UInt8.ofNat v).toNat = .complete c := by
      rw [toNat_octet (by omega), firstOctet_one (by omega), hc]
    simp only [List.cons_append, List.nil_append, decodeFrom, hfirst]
  · have hfirst := @firstOctet_two v (by omega) (by omega)
    have hnumber : v / 64 * 64 + v % 64 = v := by omega
    simp only [List.cons_append, List.nil_append]
    rw [decodeFrom_first (by omega) hfirst, decodeFrom_last _ (by omega) (by omega) (by omega), hnumber, hc]
  · have hfirst := @firstOctet_three v (by omega)
    have hnumber : (v / 4096 * 64 + v / 64 % 64) * 64 + v % 64 = v := by omega
    simp only [List.cons_append, List.nil_append]
    rw [decodeFrom_first (by omega) hfirst,
      decodeFrom_tail 0 _ (by omega) (by split_ifs <;> omega) (by split_ifs <;> omega),
      decodeFrom_last _ (by omega) (by omega) (by omega), hnumber, hc]
  · have hfirst := @firstOctet_four v (by omega)
    have hnumber :
        ((v / 262144 * 64 + v / 4096 % 64) * 64 + v / 64 % 64) * 64 + v % 64 = v := by omega
    simp only [List.cons_append, List.nil_append]
    rw [decodeFrom_first (by omega) hfirst,
      decodeFrom_tail 1 _ (by omega) (by split_ifs <;> omega) (by split_ifs <;> omega),
      decodeFrom_tail 0 _ (by omega) (by omega) (by omega),
      decodeFrom_last _ (by omega) (by omega) (by omega), hnumber, hc]

/-! ## Texts -/

theorem decodeFrom_flatMap (text : List Char) :
    decodeFrom none (text.flatMap String.utf8EncodeChar) = text.map some := by
  induction text with
  | nil => rfl
  | cons c text ih => rw [List.flatMap_cons, decodeFrom_encodeChar, ih, List.map_cons]

/-- Every text is read back from its octets. -/
theorem decode?_encode (text : String) : decode? (encode text) = some text := by
  have hread : (text.toList.map some).mapM id = some text.toList := by
    induction text.toList with
    | nil => rfl
    | cons c text ih => simp [List.mapM_cons, ih]
  rw [decode?, encode_eq_flatMap, decodeFrom_flatMap, hread, Option.map_some, String.ofList_toList]

end LiveTemplate.Text
