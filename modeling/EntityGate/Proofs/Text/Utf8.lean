import EntityGate.Text.Utf8

/-!
# Decoding undoes encoding

The bytes of a character are one step of decoding, whatever follows them, so that the bytes of a
text decode to that text: see `decode_encode`. They are the packed bytes of the text as a list: see
`bytes_of_text`.
-/

namespace EntityGate.Text

/-! ## One character -/

theorem byte_to_nat {value : Nat} (h : value < 256) : (UInt8.ofNat value).toNat = value := by
  simp [Nat.mod_eq_of_lt h]

/-- A further byte adds its six bits to the code point. -/
theorem read_tail_succ (count code : Nat) {bits : Nat} (h : bits < 64) (bytes : List UInt8) :
    readTail (count + 1) code (UInt8.ofNat (bits + 128) :: bytes) =
      readTail count (64 * code + bits) bytes := by
  have hbyte : (UInt8.ofNat (bits + 128)).toNat = bits + 128 := byte_to_nat (by omega)
  rw [readTail, hbyte, if_pos ⟨by omega, by omega⟩, Nat.add_sub_cancel]

/-- The first byte of several and the second one are read together. -/
theorem decode_step_lead {lead code low high count bits : Nat} (hlead : 128 ≤ lead)
    (hbyte : lead < 256) (h : leadByte lead = some (code, low, high, count)) (hbits : bits < 64)
    (hlow : low ≤ bits + 128) (hhigh : bits + 128 ≤ high) (bytes : List UInt8) :
    decodeStep (UInt8.ofNat lead) (UInt8.ofNat (bits + 128) :: bytes) =
      readTail count (64 * code + bits) bytes := by
  have hsecond : (UInt8.ofNat (bits + 128)).toNat = bits + 128 := byte_to_nat (by omega)
  unfold decodeStep
  rw [byte_to_nat hbyte, if_neg (by omega), h]
  simp only [hsecond]
  rw [if_pos ⟨hlow, hhigh⟩, Nat.add_sub_cancel]

theorem lead_byte_two {code : Nat} (hlow : 0x7F < code) (hhigh : code ≤ 0x7FF) :
    leadByte (code / 64 + 192) = some (code / 64, 0x80, 0xBF, 0) := by
  rw [leadByte, if_pos ⟨by omega, by omega⟩, Nat.add_sub_cancel]

/-- The first of three bytes, with the bounds that leave out what fits two bytes and the
surrogates. -/
theorem lead_byte_three {code : Nat} (hlow : 0x7FF < code) (hhigh : code ≤ 0xFFFF)
    (hvalid : code < 0xD800 ∨ 0xDFFF < code) :
    ∃ low high, leadByte (code / 4096 + 224) = some (code / 4096, low, high, 1) ∧
      low ≤ code / 64 % 64 + 128 ∧ code / 64 % 64 + 128 ≤ high := by
  rw [leadByte, if_neg (by omega)]
  by_cases hzero : code / 4096 + 224 = 0xE0
  · rw [if_pos hzero]
    exact ⟨0xA0, 0xBF, by rw [show code / 4096 = 0 by omega], by omega, by omega⟩
  rw [if_neg hzero]
  by_cases hsurrogate : code / 4096 + 224 = 0xED
  · rw [if_pos hsurrogate]
    exact ⟨0x80, 0x9F, by rw [show code / 4096 = 0xD by omega], by omega, by omega⟩
  rw [if_neg hsurrogate, if_pos ⟨by omega, by omega⟩, Nat.add_sub_cancel]
  exact ⟨0x80, 0xBF, rfl, by omega, by omega⟩

/-- The first of four bytes, with the bounds that leave out what fits three bytes and what is
beyond the last code point. -/
theorem lead_byte_four {code : Nat} (hlow : 0xFFFF < code) (hhigh : code < 0x110000) :
    ∃ low high, leadByte (code / 262144 + 240) = some (code / 262144, low, high, 2) ∧
      low ≤ code / 4096 % 64 + 128 ∧ code / 4096 % 64 + 128 ≤ high := by
  rw [leadByte, if_neg (by omega), if_neg (by omega), if_neg (by omega), if_neg (by omega)]
  by_cases hzero : code / 262144 + 240 = 0xF0
  · rw [if_pos hzero]
    exact ⟨0x90, 0xBF, by rw [show code / 262144 = 0 by omega], by omega, by omega⟩
  rw [if_neg hzero]
  by_cases hmiddle : 0xF1 ≤ code / 262144 + 240 ∧ code / 262144 + 240 ≤ 0xF3
  · rw [if_pos hmiddle, Nat.add_sub_cancel]
    exact ⟨0x80, 0xBF, rfl, by omega, by omega⟩
  rw [if_neg hmiddle, if_pos (by omega)]
  exact ⟨0x80, 0x8F, by rw [show code / 262144 = 4 by omega], by omega, by omega⟩

/-- The bytes of a character are read in one step, whatever follows them. -/
theorem decode_step_encode (char : Char) (rest : List UInt8) :
    ∃ byte bytes, String.utf8EncodeChar char = byte :: bytes ∧
      decodeStep byte (bytes ++ rest) = (some char, rest) := by
  have hvalid : char.val.toNat < 0xD800 ∨ 0xDFFF < char.val.toNat ∧ char.val.toNat < 0x110000 :=
    char.valid
  have hchar : Char.ofNat char.val.toNat = char := Char.ofNat_toNat char
  unfold String.utf8EncodeChar
  generalize char.val.toNat = code at hvalid hchar
  dsimp only
  -- One to four bytes, as many as the code needs; the arithmetic puts its parts together again.
  by_cases hone : code ≤ 0x7F
  · rw [if_pos hone]
    refine ⟨_, _, rfl, ?_⟩
    unfold decodeStep
    rw [byte_to_nat (by omega), if_pos (by omega), hchar]
    rfl
  rw [if_neg hone]
  by_cases htwo : code ≤ 0x7FF
  · rw [if_pos htwo, show code / 64 % 32 = code / 64 by omega]
    refine ⟨_, _, rfl, ?_⟩
    rw [List.cons_append, decode_step_lead (by omega) (by omega)
      (lead_byte_two (by omega) htwo) (by omega) (by omega) (by omega), readTail,
      show 64 * (code / 64) + code % 64 = code by omega, hchar]
    rfl
  rw [if_neg htwo]
  by_cases hthree : code ≤ 0xFFFF
  · rw [if_pos hthree, show code / 4096 % 16 = code / 4096 by omega]
    refine ⟨_, _, rfl, ?_⟩
    obtain ⟨low, high, hlead, hlow, hhigh⟩ := lead_byte_three (by omega) hthree (by omega)
    rw [List.cons_append, decode_step_lead (by omega) (by omega) hlead (by omega) hlow hhigh,
      List.cons_append, read_tail_succ _ _ (by omega), readTail,
      show 64 * (64 * (code / 4096) + code / 64 % 64) + code % 64 = code by omega, hchar]
    rfl
  · rw [if_neg hthree, show code / 262144 % 8 = code / 262144 by omega]
    refine ⟨_, _, rfl, ?_⟩
    obtain ⟨low, high, hlead, hlow, hhigh⟩ := lead_byte_four (show 0xFFFF < code by omega)
      (by omega)
    rw [List.cons_append, decode_step_lead (by omega) (by omega) hlead (by omega) hlow hhigh,
      List.cons_append, read_tail_succ _ _ (by omega), List.cons_append,
      read_tail_succ _ _ (by omega), readTail,
      show 64 * (64 * (64 * (code / 262144) + code / 4096 % 64) + code / 64 % 64) + code % 64 =
        code by omega, hchar]
    rfl

/-! ## A text -/

theorem decode_steps_encode (chars : List Char) {fuel : Nat} (h : chars.length ≤ fuel) :
    decodeSteps fuel (encodeUtf8 chars) = chars.map some := by
  induction chars generalizing fuel with
  | nil => cases fuel <;> rfl
  | cons char rest ih =>
      obtain ⟨fuel, rfl⟩ : ∃ less, fuel = less + 1 := Nat.exists_eq_add_one.mpr (by
        simp only [List.length_cons] at h
        omega)
      obtain ⟨byte, bytes, hencode, hstep⟩ := decode_step_encode char (encodeUtf8 rest)
      have hbytes : encodeUtf8 (char :: rest) = byte :: (bytes ++ encodeUtf8 rest) := by
        simp [encodeUtf8, hencode]
      have hfuel : rest.length ≤ fuel := by
        simp only [List.length_cons] at h
        omega
      simp only [hbytes, decodeSteps, hstep, ih hfuel, List.map_cons]

theorem length_le_encode (chars : List Char) : chars.length ≤ (encodeUtf8 chars).length := by
  induction chars with
  | nil => exact Nat.le_refl 0
  | cons char rest ih =>
      obtain ⟨byte, bytes, hencode, -⟩ := decode_step_encode char []
      have hbytes : encodeUtf8 (char :: rest) = byte :: (bytes ++ encodeUtf8 rest) := by
        simp [encodeUtf8, hencode]
      simp only [hbytes, List.length_cons, List.length_append]
      omega

/-- The bytes of a text decode to that text. -/
theorem decode_encode (chars : List Char) : decodeUtf8? (encodeUtf8 chars) = some chars := by
  unfold decodeUtf8?
  rw [decode_steps_encode chars (length_le_encode chars)]
  induction chars with
  | nil => rfl
  | cons char rest ih => simp [ih]

/-! ## Packed bytes -/

theorem byte_list_loop (bytes : ByteArray) (position : Nat) (read : List UInt8) :
    ByteArray.toList.loop bytes position read =
      read.reverse ++ bytes.data.toList.drop position := by
  induction position, read using ByteArray.toList.loop.induct bytes with
  | case1 position read hbefore ih =>
      have hlength : position < bytes.data.toList.length := by simpa using hbefore
      have hbyte : bytes.get! position = bytes.data.toList[position] :=
        getElem!_pos bytes.data position hbefore
      rw [ByteArray.toList.loop, if_pos hbefore, ih, hbyte, List.drop_eq_getElem_cons hlength,
        List.reverse_cons, List.append_assoc, List.singleton_append]
  | case2 position read hafter =>
      have hlength : bytes.data.toList.length ≤ position := by simpa using hafter
      rw [ByteArray.toList.loop, if_neg hafter, List.drop_of_length_le hlength, List.append_nil]

/-- The packed bytes of a text are those of its characters. -/
theorem bytes_of_text (text : String) : text.toUTF8.toList = encodeUtf8 text.toList := by
  have hbytes : text.toUTF8.toList = text.toUTF8.data.toList := byte_list_loop text.toUTF8 0 []
  rw [hbytes, String.toUTF8_eq_toByteArray, ← String.utf8Encode_toList, List.utf8Encode,
    List.toList_data_toByteArray]
  rfl

end EntityGate.Text
