import FlemishDesk.Proofs.Text.Utf8
import FlemishDesk.Text.Percent

/-!
# Percent-encoded texts

An encoded text is made of characters that stand for themselves and of triplets, and it
is decoded to the bytes of the text.  So different texts have different encodings, and a
character that is neither kept nor part of a triplet does not occur in any of them.
-/

namespace FlemishDesk
namespace Text
namespace Percent

/-- The characters that stand for themselves: the ASCII letters and digits and four
marks. -/
def Unreserved (c : Char) : Prop :=
  c.isAlphanum = true ∨ c ∈ ['-', '_', '.', '~']

instance (c : Char) : Decidable (Unreserved c) :=
  inferInstanceAs (Decidable (_ ∨ _))

/-- The digits of triplets. -/
def upperDigits : List Char := "0123456789ABCDEF".toList

/-- A text of characters that stand for themselves and of triplets. -/
inductive Encoded : List Char -> Prop
  | nil : Encoded []
  | kept {c : Char} {rest : List Char} :
      Unreserved c -> Encoded rest -> Encoded (c :: rest)
  | triplet {high low : Char} {rest : List Char} :
      high ∈ upperDigits -> low ∈ upperDigits -> Encoded rest ->
        Encoded ('%' :: high :: low :: rest)

/-! ## Single bytes -/

theorem unreserved_of_isKept
    {byte : UInt8}
    (kept : isKept byte = true) :
    Unreserved (Char.ofNat byte.toNat) := by
  simp only [isKept, Bool.or_eq_true, beq_iff_eq, or_assoc] at kept
  simpa only [Unreserved, List.mem_cons, List.not_mem_nil, or_false] using kept

/-- Every byte that is kept is an ASCII byte and no percent sign. -/
theorem encodeChar_of_isKept
    {byte : UInt8}
    (kept : isKept byte = true) :
    Utf8.encodeChar (Char.ofNat byte.toNat) = [byte] ∧ Char.ofNat byte.toNat ≠ '%' := by
  have all : ∀ code < 256, isKept (UInt8.ofNat code) = true ->
      Utf8.encodeChar (Char.ofNat code) = [UInt8.ofNat code] ∧ Char.ofNat code ≠ '%' := by
    decide +kernel
  have found := all byte.toNat byte.toNat_lt_size
  rw [UInt8.ofNat_toNat] at found
  exact found kept

theorem hexDigit_mem : ∀ n < 16, hexDigit n ∈ upperDigits := by
  decide

theorem hexValue?_hexDigit : ∀ n < 16, hexValue? (hexDigit n) = some n := by
  decide

theorem Encoded.encodeByte_append
    {rest : List Char}
    (encoded : Encoded rest)
    (byte : UInt8) :
    Encoded (encodeByte byte ++ rest) := by
  have bound : byte.toNat < 256 := byte.toNat_lt_size
  unfold encodeByte
  split
  · next kept => exact .kept (unreserved_of_isKept kept) encoded
  · exact .triplet (hexDigit_mem _ (by omega)) (hexDigit_mem _ (by omega)) encoded

theorem decode_cons_of_ne
    {c : Char}
    (plain : c ≠ '%')
    (rest : List Char) :
    decode (c :: rest) = Utf8.encodeChar c ++ decode rest := by
  rw [decode]
  intro _ _ _ percent
  exact absurd percent plain

theorem decode_encodeByte_append
    (byte : UInt8)
    (rest : List Char) :
    decode (encodeByte byte ++ rest) = byte :: decode rest := by
  have bound : byte.toNat < 256 := byte.toNat_lt_size
  unfold encodeByte
  split
  · next kept =>
      obtain ⟨single, plain⟩ := encodeChar_of_isKept kept
      rw [List.singleton_append, decode_cons_of_ne plain, single, List.singleton_append]
  · have sum : byte.toNat / 16 * 16 + byte.toNat % 16 = byte.toNat := by omega
    simp only [List.cons_append, List.nil_append, decode,
      hexValue?_hexDigit (byte.toNat / 16) (by omega),
      hexValue?_hexDigit (byte.toNat % 16) (by omega), sum, UInt8.ofNat_toNat]

/-! ## Whole texts -/

theorem encoded_encode (text : String) : Encoded (encode text).toList := by
  rw [encode, String.toList_ofList]
  induction Utf8.bytes text with
  | nil => exact .nil
  | cons byte others inductionHypothesis =>
      rw [List.flatMap_cons]
      exact inductionHypothesis.encodeByte_append byte

theorem decode_encode (text : String) :
    decode (encode text).toList = Utf8.bytes text := by
  rw [encode, String.toList_ofList]
  induction Utf8.bytes text with
  | nil => rfl
  | cons byte others inductionHypothesis =>
      rw [List.flatMap_cons, decode_encodeByte_append, inductionHypothesis]

theorem encode_injective : Function.Injective encode := by
  intro first second same
  have sameBytes : Utf8.bytes first = Utf8.bytes second := by
    rw [← decode_encode first, same, decode_encode]
  have sameText := congrArg Utf8.text? sameBytes
  rw [Utf8.text?_bytes, Utf8.text?_bytes] at sameText
  exact Option.some.inj sameText

/-- A mark that is neither kept nor part of a triplet. -/
def Reserved (mark : Char) : Prop :=
  ¬ Unreserved mark ∧ mark ∉ '%' :: upperDigits

instance (mark : Char) : Decidable (Reserved mark) :=
  inferInstanceAs (Decidable (_ ∧ _))

theorem Encoded.not_mem_of_reserved
    {text : List Char}
    {mark : Char}
    (encoded : Encoded text)
    (reserved : Reserved mark) :
    mark ∉ text := by
  have notDigit {digit : Char} (isDigit : digit ∈ upperDigits) : mark ≠ digit := by
    rintro rfl
    exact reserved.2 (List.mem_cons_of_mem _ isDigit)
  induction encoded with
  | nil => exact List.not_mem_nil
  | kept unreserved _ inductionHypothesis =>
      refine List.not_mem_cons_of_ne_of_not_mem ?_ inductionHypothesis
      rintro rfl
      exact reserved.1 unreserved
  | triplet high low _ inductionHypothesis =>
      refine List.not_mem_cons_of_ne_of_not_mem (List.ne_of_not_mem_cons reserved.2) ?_
      refine List.not_mem_cons_of_ne_of_not_mem (notDigit high) ?_
      exact List.not_mem_cons_of_ne_of_not_mem (notDigit low) inductionHypothesis

end Percent
end Text
end FlemishDesk
