import ApiProxy.Text.Utf8

/-!
# Reading what was written as UTF-8

The bytes of a text are read as the text. A character is written in up to four bytes, of which the
first one says how many follow and the range of the second one rules out all other ways to write the
character, so none of these bytes is replaced.

## Main results

* `Text.decodeFrom_utf8EncodeChar`: the bytes of one character.
* `Text.decodeUtf8_toUTF8`: the bytes of a text.
-/

namespace ApiProxy.Text

variable {bits lead low high : Nat} {p more : Pending} {n v : Nat}

/-! ### One byte -/

/-- A byte that begins a character. -/
theorem decodeFrom_lead (h : leadByte? n = some (lead, p)) (hn : n < 0x100) (bytes : List UInt8) :
    decodeFrom 0 [] (UInt8.ofNat n :: bytes) =
      complete lead p fun bits p => decodeFrom bits p bytes := by
  rw [decodeFrom, UInt8.toNat_ofNat_of_lt' hn, h]

/-- A byte that goes on with a character, and the six bits in it. -/
theorem decodeFrom_next (hlow : low ≤ n % 0x40 + 0x80) (hhigh : n % 0x40 + 0x80 ≤ high)
    (bytes : List UInt8) :
    decodeFrom bits ((low, high) :: more) (UInt8.ofNat (n % 0x40 + 0x80) :: bytes) =
      complete (bits * 0x40 + n % 0x40) more fun bits p => decodeFrom bits p bytes := by
  have hbyte : (UInt8.ofNat (n % 0x40 + 0x80)).toNat = n % 0x40 + 0x80 :=
    UInt8.toNat_ofNat_of_lt' (by rw [UInt8.size]; omega)
  have hbits : (n % 0x40 + 0x80) % 0x40 = n % 0x40 := by omega
  rw [decodeFrom, hbyte, if_pos ⟨hlow, hhigh⟩, hbits]

theorem decodeFrom_continuation (bytes : List UInt8) :
    decodeFrom bits (continuation :: more) (UInt8.ofNat (n % 0x40 + 0x80) :: bytes) =
      complete (bits * 0x40 + n % 0x40) more fun bits p => decodeFrom bits p bytes := by
  have hhigh : n % 0x40 + 0x80 ≤ 0xBF := by omega
  exact decodeFrom_next (Nat.le_add_left _ _) hhigh bytes

theorem leadByte?_two (hlow : 0x80 ≤ v) (hhigh : v ≤ 0x7FF) :
    leadByte? (v / 64 % 0x20 + 0xC0) = some (v / 64, [continuation]) := by
  have hlead : ¬v / 64 % 0x20 + 0xC0 < 0xC2 ∧ v / 64 % 0x20 + 0xC0 < 0xE0 := by omega
  have hbits : (v / 64 % 0x20 + 0xC0) % 0x20 = v / 64 := by omega
  rw [leadByte?, if_neg (by omega), if_neg hlead.1, if_pos hlead.2, hbits]

/-- The first byte of three, and the range that it sets for the second one. -/
theorem leadByte?_three (hlow : 0x800 ≤ v) (hhigh : v ≤ 0xFFFF)
    (hscalar : v < 0xD800 ∨ 0xDFFF < v) : ∃ low high,
      leadByte? (v / 4096 % 0x10 + 0xE0) = some (v / 4096, [(low, high), continuation]) ∧
        low ≤ v / 64 % 0x40 + 0x80 ∧ v / 64 % 0x40 + 0x80 ≤ high := by
  have hbits : (v / 4096 % 0x10 + 0xE0) % 0x10 = v / 4096 := by omega
  rw [leadByte?, if_neg (by omega), if_neg (by omega), if_neg (by omega), hbits]
  split
  · exact ⟨_, _, rfl, by omega, by omega⟩
  split
  · exact ⟨_, _, rfl, by omega, by omega⟩
  · rw [if_pos (by omega)]
    exact ⟨_, _, rfl, by omega, by omega⟩

/-- The first byte of four, and the range that it sets for the second one. -/
theorem leadByte?_four (hlow : 0x10000 ≤ v) (hhigh : v < 0x110000) : ∃ low high,
    leadByte? (v / 262144 % 0x08 + 0xF0) =
        some (v / 262144, [(low, high), continuation, continuation]) ∧
      low ≤ v / 4096 % 0x40 + 0x80 ∧ v / 4096 % 0x40 + 0x80 ≤ high := by
  have hbits : (v / 262144 % 0x08 + 0xF0) % 0x08 = v / 262144 := by omega
  rw [leadByte?, if_neg (by omega), if_neg (by omega), if_neg (by omega), if_neg (by omega),
    if_neg (by omega), if_neg (by omega), hbits]
  split
  · exact ⟨_, _, rfl, by omega, by omega⟩
  split
  · exact ⟨_, _, rfl, by omega, by omega⟩
  · rw [if_pos (by omega)]
    exact ⟨_, _, rfl, by omega, by omega⟩

/-! ### Characters and texts -/

/-- The bytes of a character are read as the character. -/
theorem decodeFrom_utf8EncodeChar (c : Char) (bytes : List UInt8) :
    decodeFrom 0 [] (String.utf8EncodeChar c ++ bytes) = c :: decodeFrom 0 [] bytes := by
  have hc : Char.ofNat c.val.toNat = c := Char.ofNat_toNat c
  have hvalid : c.val.toNat < 0xD800 ∨ 0xDFFF < c.val.toNat ∧ c.val.toNat < 0x110000 := c.valid
  rw [String.utf8EncodeChar]
  generalize c.val.toNat = v at hc hvalid
  split
  · next hone =>
    have hlead : leadByte? v = some (v, []) := by rw [leadByte?, if_pos (by omega)]
    rw [List.cons_append, List.nil_append, decodeFrom_lead hlead (by omega), complete, hc]
  split
  · next htwo =>
    have hbits : v / 64 * 0x40 + v % 0x40 = v := by omega
    simp only [List.cons_append, List.nil_append]
    rw [decodeFrom_lead (leadByte?_two (by omega) htwo) (by omega), complete,
      decodeFrom_continuation, complete, hbits, hc]
    exact nofun
  split
  · next hthree =>
    obtain ⟨low, high, hlead, hlow, hhigh⟩ :=
      leadByte?_three (v := v) (by omega) hthree (by omega)
    have hbits : (v / 4096 * 0x40 + v / 64 % 0x40) * 0x40 + v % 0x40 = v := by omega
    simp only [List.cons_append, List.nil_append]
    rw [decodeFrom_lead hlead (by omega), complete, decodeFrom_next hlow hhigh, complete,
      decodeFrom_continuation, complete, hbits, hc]
    · exact nofun
    · exact nofun
  · obtain ⟨low, high, hlead, hlow, hhigh⟩ := leadByte?_four (v := v) (by omega) (by omega)
    have hbits : ((v / 262144 * 0x40 + v / 4096 % 0x40) * 0x40 + v / 64 % 0x40) * 0x40 +
        v % 0x40 = v := by omega
    simp only [List.cons_append, List.nil_append]
    rw [decodeFrom_lead hlead (by omega), complete, decodeFrom_next hlow hhigh, complete,
      decodeFrom_continuation, complete, decodeFrom_continuation, complete, hbits, hc]
    · exact nofun
    · exact nofun
    · exact nofun

/-- The bytes of a text are read as the text. -/
theorem decodeUtf8_toUTF8 (s : String) : decodeUtf8 s.toUTF8.data.toList = s := by
  have hchars (cs : List Char) : decodeFrom 0 [] (cs.flatMap String.utf8EncodeChar) = cs := by
    induction cs with
    | nil => rfl
    | cons c cs ih => rw [List.flatMap_cons, decodeFrom_utf8EncodeChar, ih]
  have hbytes : s.toUTF8.data.toList = s.toList.flatMap String.utf8EncodeChar := by
    rw [String.toUTF8_eq_toByteArray, ← String.utf8Encode_toList, List.utf8Encode,
      List.data_toByteArray]
  rw [decodeUtf8, hbytes, hchars, String.ofList_toList]

end ApiProxy.Text
