import Runbook.Text.Utf8

/-!
# Text as bytes

The bytes of a text are read as that text again.  The first byte of a character
tells how many bytes follow, and which of them are too small or too great for
the second one.
-/

namespace Runbook.Text

theorem toNat_ofNat_of_lt {number : Nat} (small : number < 256) :
    (UInt8.ofNat number).toNat = number := by
  rw [UInt8.toNat_ofNat', Nat.mod_eq_of_lt small]

/-! ### Reading a character -/

variable {byte : UInt8} {bits missing low high : Nat}

theorem charsFrom_first {unfinished : PartialChar}
    (starts : firstByte byte.toNat = .inr unfinished) (rest : Bytes) :
    charsFrom none (byte :: rest) = charsFrom (some unfinished) rest := by
  simp [charsFrom, readByte, startChar, starts]

theorem charsFrom_more (fits : low ≤ byte.toNat ∧ byte.toNat ≤ high)
    (more : missing ≠ 1) (bits : Nat) (rest : Bytes) :
    charsFrom (some ⟨bits, missing, low, high⟩) (byte :: rest) =
      charsFrom (some
        ⟨64 * bits + (byte.toNat - 0x80), missing - 1, 0x80, 0xBF⟩) rest := by
  simp [charsFrom, readByte, fits, more]

theorem charsFrom_last (fits : low ≤ byte.toNat ∧ byte.toNat ≤ high)
    (bits : Nat) (rest : Bytes) :
    charsFrom (some ⟨bits, 1, low, high⟩) (byte :: rest) =
      some (Char.ofNat (64 * bits + (byte.toNat - 0x80))) ::
        charsFrom none rest := by
  simp [charsFrom, readByte, fits]

/-! ### First bytes -/

variable {number : Nat}

theorem firstByte_three (least : 0x7FF < number) (greatest : number ≤ 0xFFFF)
    (valid : number < 0xD800 ∨ 0xDFFF < number ∧ number < 0x110000) :
    ∃ low high, firstByte (number / 4096 % 16 + 224) =
        .inr ⟨number / 4096, 2, low, high⟩ ∧
      low ≤ number / 64 % 64 + 128 ∧ number / 64 % 64 + 128 ≤ high := by
  unfold firstByte
  rw [if_neg (by omega), if_neg (by omega), if_neg (by omega)]
  by_cases least : number / 4096 = 0
  · rw [if_pos (by omega), least]
    exact ⟨0xA0, 0xBF, rfl, by omega, by omega⟩
  rw [if_neg (by omega)]
  by_cases beforeSurrogates : number / 4096 = 0xD
  · rw [if_pos (by omega), beforeSurrogates]
    exact ⟨0x80, 0x9F, rfl, by omega, by omega⟩
  have bits : number / 4096 % 16 + 224 - 0xE0 = number / 4096 := by omega
  rw [if_neg (by omega), if_pos (by omega), bits]
  exact ⟨0x80, 0xBF, rfl, by omega, by omega⟩

theorem firstByte_four (least : 0xFFFF < number) (valid : number < 0x110000) :
    ∃ low high, firstByte (number / 262144 % 8 + 240) =
        .inr ⟨number / 262144, 3, low, high⟩ ∧
      low ≤ number / 4096 % 64 + 128 ∧ number / 4096 % 64 + 128 ≤ high := by
  unfold firstByte
  rw [if_neg (by omega), if_neg (by omega), if_neg (by omega),
    if_neg (by omega), if_neg (by omega), if_neg (by omega)]
  by_cases least : number / 262144 = 0
  · rw [if_pos (by omega), least]
    exact ⟨0x90, 0xBF, rfl, by omega, by omega⟩
  rw [if_neg (by omega)]
  by_cases greatest : number / 262144 = 4
  · rw [if_neg (by omega), if_pos (by omega), greatest]
    exact ⟨0x80, 0x8F, rfl, by omega, by omega⟩
  have bits : number / 262144 % 8 + 240 - 0xF0 = number / 262144 := by omega
  rw [if_pos (by omega), bits]
  exact ⟨0x80, 0xBF, rfl, by omega, by omega⟩

/-- The bytes of a character are read as that character. -/
theorem charsFrom_utf8EncodeChar (character : Char) (rest : Bytes) :
    charsFrom none (String.utf8EncodeChar character ++ rest) =
      some character :: charsFrom none rest := by
  have valid : character.toNat < 0xD800 ∨
      0xDFFF < character.toNat ∧ character.toNat < 0x110000 := character.valid
  have same : Char.ofNat character.toNat = character :=
    Char.ofNat_toNat character
  have code : character.val.toNat = character.toNat := rfl
  rw [String.utf8EncodeChar, code]
  generalize character.toNat = number at valid same ⊢
  subst same
  split
  · rename_i one
    have read := @toNat_ofNat_of_lt number (by omega)
    simp only [List.cons_append, List.nil_append, charsFrom, readByte,
      startChar, firstByte, read]
    rw [if_pos (by omega)]
    rfl
  split
  · rename_i two
    have first := @toNat_ofNat_of_lt (number / 64 % 32 + 192) (by omega)
    have second := @toNat_ofNat_of_lt (number % 64 + 128) (by omega)
    have bits : number / 64 % 32 + 192 - 0xC0 = number / 64 := by omega
    have starts : firstByte (UInt8.ofNat (number / 64 % 32 + 192)).toNat =
        .inr ⟨number / 64, 1, 0x80, 0xBF⟩ := by
      rw [first, firstByte, if_neg (by omega), if_neg (by omega),
        if_pos (by omega), bits]
    have whole : 64 * (number / 64) + (number % 64 + 128 - 0x80) = number := by
      omega
    simp only [List.cons_append, List.nil_append]
    rw [charsFrom_first starts, charsFrom_last (by omega), second, whole]
  split
  · rename_i three
    have first := @toNat_ofNat_of_lt (number / 4096 % 16 + 224) (by omega)
    have second := @toNat_ofNat_of_lt (number / 64 % 64 + 128) (by omega)
    have third := @toNat_ofNat_of_lt (number % 64 + 128) (by omega)
    obtain ⟨low, high, starts, fits⟩ := firstByte_three (by omega) three valid
    rw [← first] at starts
    rw [← second] at fits
    have whole : 64 * (64 * (number / 4096) +
        (number / 64 % 64 + 128 - 0x80)) + (number % 64 + 128 - 0x80) =
          number := by
      omega
    simp only [List.cons_append, List.nil_append]
    rw [charsFrom_first starts, charsFrom_more fits (by decide),
      charsFrom_last (by omega), second, third, whole]
  · rename_i four
    have first := @toNat_ofNat_of_lt (number / 262144 % 8 + 240) (by omega)
    have second := @toNat_ofNat_of_lt (number / 4096 % 64 + 128) (by omega)
    have third := @toNat_ofNat_of_lt (number / 64 % 64 + 128) (by omega)
    have fourth := @toNat_ofNat_of_lt (number % 64 + 128) (by omega)
    obtain ⟨low, high, starts, fits⟩ :=
      @firstByte_four number (by omega) (by omega)
    rw [← first] at starts
    rw [← second] at fits
    have whole : 64 * (64 * (64 * (number / 262144) +
        (number / 4096 % 64 + 128 - 0x80)) + (number / 64 % 64 + 128 - 0x80)) +
          (number % 64 + 128 - 0x80) = number := by
      omega
    simp only [List.cons_append, List.nil_append]
    rw [charsFrom_first starts, charsFrom_more fits (by decide),
      charsFrom_more (by omega) (by decide), charsFrom_last (by omega), second,
      third, fourth, whole]

theorem charsFrom_toBytes (text : List Char) :
    charsFrom none (text.flatMap String.utf8EncodeChar) = text.map some := by
  induction text with
  | nil => rfl
  | cons character text ih =>
      rw [List.flatMap_cons, charsFrom_utf8EncodeChar, ih, List.map_cons]

/-- The bytes of a text are read as that text. -/
theorem ofBytes?_toBytes (text : String) :
    ofBytes? (toBytes text) = some text := by
  have all : (text.toList.map some).mapM id = some text.toList := by
    induction text.toList with
    | nil => rfl
    | cons character rest ih => simp [ih]
  rw [ofBytes?, toBytes, charsFrom_toBytes, all, Option.map_some,
    String.ofList_toList]

end Runbook.Text
