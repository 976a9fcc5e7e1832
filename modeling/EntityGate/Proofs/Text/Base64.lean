import EntityGate.Proofs.Text.Utf8
import EntityGate.Text.Base64
import EntityGate.Text.Blank

/-!
# Base 64 is undone

The symbols of bytes decode to these bytes: see `decode_encode_bytes`. No symbol is white space, so
that trimming leaves an encoded text as it is.
-/

namespace EntityGate

theorem Text.trim_chars_of_not_blank {chars : List Char}
    (h : ∀ char ∈ chars, Text.isBlank char = false) : Text.trimChars chars = chars := by
  have hdrop : ∀ list : List Char, (∀ char ∈ list, Text.isBlank char = false) →
      list.dropWhile Text.isBlank = list := by
    intro list hlist
    cases list with
    | nil => rfl
    | cons char rest => simp [hlist char List.mem_cons_self]
  have hreverse : ∀ char ∈ chars.reverse, Text.isBlank char = false :=
    fun char hchar => h char (List.mem_reverse.mp hchar)
  unfold Text.trimChars Text.stripWhile Text.dropEndWhile
  rw [hdrop chars h, hdrop chars.reverse hreverse, List.reverse_reverse]

namespace Base64

/-! ## Symbols -/

theorem symbol_value_symbol : ∀ value < 64, symbolValue? (symbol value) = some value := by
  decide

theorem symbol_not_blank : ∀ value < 64, Text.isBlank (symbol value) = false := by
  decide

theorem byte_of_mod {value : Nat} {byte : UInt8} (h : value % 256 = byte.toNat) :
    UInt8.ofNat value = byte := by
  refine UInt8.toNat_inj.mp ?_
  simpa using h

/-- The six-bit values of the symbols of bytes. -/
def valuesOf : List UInt8 → List Nat
  | first :: second :: third :: rest =>
    let word := 65536 * first.toNat + 256 * second.toNat + third.toNat
    word / 262144 :: word / 4096 % 64 :: word / 64 % 64 :: word % 64 :: valuesOf rest
  | [first, second] =>
    let word := 256 * first.toNat + second.toNat
    [word / 1024, word / 16 % 64, word % 16 * 4]
  | [first] => [first.toNat / 4, first.toNat % 4 * 16]
  | [] => []

theorem encode_bytes_eq (bytes : List UInt8) : encodeBytes bytes = (valuesOf bytes).map symbol := by
  fun_induction valuesOf bytes with
  | case1 first second third rest word ih => simp [encodeBytes, ih, word]
  | case2 first second word => simp [encodeBytes, word]
  | case3 first => simp [encodeBytes]
  | case4 => rfl

theorem values_of_lt (bytes : List UInt8) : ∀ value ∈ valuesOf bytes, value < 64 := by
  fun_induction valuesOf bytes with
  | case1 first second third rest word ih =>
      have hfirst := first.toNat_lt
      have hsecond := second.toNat_lt
      have hthird := third.toNat_lt
      simp only [List.mem_cons, forall_eq_or_imp]
      exact ⟨by omega, by omega, by omega, by omega, ih⟩
  | case2 first second word =>
      have hfirst := first.toNat_lt
      have hsecond := second.toNat_lt
      simp only [List.mem_cons, forall_eq_or_imp, List.not_mem_nil, false_imp_iff, implies_true,
        and_true]
      exact ⟨by omega, by omega, by omega⟩
  | case3 first =>
      have hfirst := first.toNat_lt
      simp only [List.mem_cons, forall_eq_or_imp, List.not_mem_nil, false_imp_iff, implies_true,
        and_true]
      exact ⟨by omega, by omega⟩
  | case4 => simp

/-! ## Bytes -/

theorem decode_values_of (bytes : List UInt8) : decodeValues (valuesOf bytes) = some bytes := by
  fun_induction valuesOf bytes with
  | case1 first second third rest word ih =>
      have hfirst := first.toNat_lt
      have hsecond := second.toNat_lt
      have hthird := third.toNat_lt
      have hword : 262144 * (word / 262144) + 4096 * (word / 4096 % 64) + 64 * (word / 64 % 64) +
          word % 64 = word := by omega
      have hbyte : UInt8.ofNat (word / 65536) = first := byte_of_mod (by omega)
      have hbyte' : UInt8.ofNat (word / 256) = second := byte_of_mod (by omega)
      have hbyte'' : UInt8.ofNat word = third := byte_of_mod (by omega)
      simp only [decodeValues, ih, hword, Option.bind_eq_bind, Option.bind_some, hbyte, hbyte',
        hbyte'']
  | case2 first second word =>
      have hfirst := first.toNat_lt
      have hsecond := second.toNat_lt
      have hword : 4096 * (word / 1024) + 64 * (word / 16 % 64) + word % 16 * 4 = word * 4 := by
        omega
      have hbyte : UInt8.ofNat (word * 4 / 1024) = first := byte_of_mod (by omega)
      have hbyte' : UInt8.ofNat (word * 4 / 4) = second := byte_of_mod (by omega)
      simp only [decodeValues, hword, hbyte, hbyte']
      rw [if_pos (by omega)]
  | case3 first =>
      have hfirst := first.toNat_lt
      have hword : 64 * (first.toNat / 4) + first.toNat % 4 * 16 = first.toNat * 16 := by omega
      have hbyte : UInt8.ofNat (first.toNat * 16 / 16) = first := byte_of_mod (by omega)
      simp only [decodeValues, hword, hbyte]
      rw [if_pos (by omega)]
  | case4 => rfl

theorem map_symbol_values {values : List Nat} (h : ∀ value ∈ values, value < 64) :
    (values.map symbol).mapM symbolValue? = some values := by
  induction values with
  | nil => rfl
  | cons value rest ih =>
      have hvalue := symbol_value_symbol value (h value List.mem_cons_self)
      have hrest := ih fun other hother => h other (List.mem_cons_of_mem _ hother)
      simp [hvalue, hrest]

/-- The symbols of a text decode to its bytes. -/
theorem decode_encode (text : String) :
    decode? (encode text) = some (Text.encodeUtf8 text.toList) := by
  simp only [decode?, encode, String.toList_ofList, encode_bytes_eq,
    map_symbol_values (values_of_lt _), Option.bind_eq_bind, Option.bind_some, decode_values_of]

/-- An encoded text has no white space around it. -/
theorem trim_encode (text : String) : Text.trim (encode text) = encode text := by
  unfold Text.trim
  rw [Text.trim_chars_of_not_blank, String.ofList_toList]
  intro char hchar
  simp only [encode, String.toList_ofList, encode_bytes_eq] at hchar
  obtain ⟨value, hvalue, rfl⟩ := List.mem_map.mp hchar
  exact symbol_not_blank value (values_of_lt _ value hvalue)

end Base64

end EntityGate
