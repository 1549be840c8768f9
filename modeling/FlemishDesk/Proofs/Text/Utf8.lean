import FlemishDesk.Text.Utf8

/-!
# Reading back encoded text

The symbols of an encoded text are its characters.  The first byte of a character says
how many bytes follow and bounds the second one; the bounds leave out exactly the codes
that would have a shorter encoding, the halves of a pair, and what lies past the last
character.
-/

namespace FlemishDesk
namespace Text
namespace Utf8

/-- A byte after the first one of a character, with the lowest six bits of a number. -/
def tail (n : Nat) : UInt8 :=
  UInt8.ofNat (0x80 + n % 64)

@[simp] theorem toNat_tail (n : Nat) : (tail n).toNat = 0x80 + n % 64 := by
  have small : 0x80 + n % 64 < 256 := by omega
  simp only [tail, UInt8.toNat_ofNat']
  exact Nat.mod_eq_of_lt small

/-! ## First bytes -/

theorem opening_ascii
    (code : Nat)
    (small : code < 0x80) :
    opening (UInt8.ofNat code) = .whole (some (Char.ofNat code)) := by
  have byte : (UInt8.ofNat code).toNat = code := by
    simp only [UInt8.toNat_ofNat']
    exact Nat.mod_eq_of_lt (by omega)
  simp [opening, byte, small]

theorem opening_ofTwo :
    ∀ lead < 32, 2 ≤ lead ->
      opening (UInt8.ofNat (0xC0 + lead)) = .partly ⟨0, lead, 0x80, 0xBF⟩ := by
  decide

theorem opening_ofThree :
    ∀ lead < 16,
      opening (UInt8.ofNat (0xE0 + lead)) =
        .partly ⟨1, lead, if lead = 0 then 0xA0 else 0x80, if lead =
          13 then 0x9F else 0xBF⟩ := by
  decide

theorem opening_ofFour :
    ∀ lead < 5,
      opening (UInt8.ofNat (0xF0 + lead)) =
        .partly ⟨2, lead, if lead = 0 then 0x90 else 0x80, if lead =
          4 then 0x8F else 0xBF⟩ := by
  decide

/-! ## Following bytes -/

/-- The last byte of a character, when it is within its bounds. -/
theorem symbolsAfter_last
    (code low high n : Nat)
    (lowest : low ≤ 0x80 + n % 64)
    (highest : 0x80 + n % 64 ≤ high)
    (rest : List UInt8) :
    symbolsAfter (some ⟨0, code, low, high⟩) (tail n :: rest) =
      some (Char.ofNat (code * 64 + n % 64)) :: symbolsAfter none rest := by
  simp [symbolsAfter, lowest, highest]

/-- A byte that more bytes follow, when it is within its bounds. -/
theorem symbolsAfter_more
    (more code low high n : Nat)
    (lowest : low ≤ 0x80 + n % 64)
    (highest : 0x80 + n % 64 ≤ high)
    (rest : List UInt8) :
    symbolsAfter (some ⟨more + 1, code, low, high⟩) (tail n :: rest) =
      symbolsAfter (some ⟨more, code * 64 + n % 64, 0x80, 0xBF⟩) rest := by
  simp [symbolsAfter, lowest, highest]

/-- A first byte that more bytes follow. -/
theorem symbolsAfter_partly
    {byte : UInt8}
    {pending : Pending}
    (opens : opening byte = .partly pending)
    (rest : List UInt8) :
    symbolsAfter none (byte :: rest) = symbolsAfter (some pending) rest := by
  simp [symbolsAfter, opens]

/-! ## Characters and texts -/

/-- A character is no half of a pair and has at most twenty-one bits. -/
theorem toNat_valid (c : Char) :
    c.toNat < 0xD800 ∨ 0xDFFF < c.toNat ∧ c.toNat < 0x110000 :=
  c.valid

/-- An encoded character is read as itself. -/
theorem symbolsAfter_encodeChar
    (c : Char)
    (rest : List UInt8) :
    symbolsAfter none (encodeChar c ++ rest) = some c :: symbolsAfter none rest := by
  have valid := toNat_valid c
  by_cases one : c.toNat < 0x80
  · have opens := opening_ascii c.toNat one
    simp [encodeChar, one, symbolsAfter, opens]
  by_cases two : c.toNat < 0x800
  · have encoded : encodeChar c = [UInt8.ofNat (0xC0 + c.toNat / 64), tail c.toNat] := by
      simp [encodeChar, one, two, tail]
    have opens := opening_ofTwo (c.toNat / 64) (by omega) (by omega)
    have code : c.toNat / 64 * 64 + c.toNat % 64 = c.toNat := by omega
    rw [encoded, List.cons_append, List.cons_append, List.nil_append,
      symbolsAfter_partly opens, symbolsAfter_last _ _ _ _ (by omega) (by omega), code,
      Char.ofNat_toNat]
  by_cases three : c.toNat < 0x10000
  · have encoded : encodeChar c =
        [UInt8.ofNat (0xE0 + c.toNat / 4096), tail (c.toNat / 64), tail c.toNat] := by
      simp [encodeChar, one, two, three, tail]
    have opens := opening_ofThree (c.toNat / 4096) (by omega)
    have code : (c.toNat / 4096 * 64 + c.toNat / 64 % 64) * 64 + c.toNat % 64 =
        c.toNat := by
      omega
    rw [encoded, List.cons_append, List.cons_append, List.cons_append, List.nil_append,
      symbolsAfter_partly opens,
      symbolsAfter_more _ _ _ _ _ (by split <;> omega) (by split <;> omega),
      symbolsAfter_last _ _ _ _ (by omega) (by omega), code, Char.ofNat_toNat]
  · have encoded : encodeChar c =
        [UInt8.ofNat (0xF0 + c.toNat / 262144), tail (c.toNat / 4096),
          tail (c.toNat / 64), tail c.toNat] := by
      simp [encodeChar, one, two, three, tail]
    have opens := opening_ofFour (c.toNat / 262144) (by omega)
    have code : ((c.toNat / 262144 * 64 + c.toNat / 4096 % 64) * 64 + c.toNat / 64 % 64) *
        64 +
        c.toNat % 64 = c.toNat := by
      omega
    rw [encoded, List.cons_append, List.cons_append, List.cons_append, List.cons_append,
      List.nil_append, symbolsAfter_partly opens,
      symbolsAfter_more _ _ _ _ _ (by split <;> omega) (by split <;> omega),
      symbolsAfter_more _ _ _ _ _ (by omega) (by omega),
      symbolsAfter_last _ _ _ _ (by omega) (by omega), code, Char.ofNat_toNat]

/-- The symbols of an encoded text are its characters. -/
@[simp] theorem symbols_encode (text : List Char) :
    symbols (encode text) = text.map some := by
  induction text with
  | nil => rfl
  | cons c rest inductionHypothesis =>
      rw [symbols] at inductionHypothesis ⊢
      rw [encode_cons, symbolsAfter_encodeChar, inductionHypothesis, List.map_cons]

/-- An encoded text is read as itself. -/
@[simp] theorem bytes_append (first second : String) :
    bytes (first ++ second) = bytes first ++ bytes second := by
  rw [bytes, String.toList_append, encode_append]
  rfl

@[simp] theorem text?_bytes (text : String) :
    text? (bytes text) = some text := by
  simp [text?, bytes]

end Utf8
end Text
end FlemishDesk
