import FlemishDesk.Proofs.Text.Utf8

/-!
# Valid sequences of bytes

A sequence of bytes is valid when it encodes a text.  The strict reader finds that text
exactly when there is one.  A byte below `0x80` is a character of its own wherever it
stands, so a sequence is valid exactly when the parts on both sides of such a byte are.
-/

namespace FlemishDesk
namespace Text
namespace Utf8

/-- The bytes encode a text. -/
def Valid (content : List UInt8) : Prop :=
  ∃ text, bytes text = content

/-! ## Characters that are read -/

/-- Bytes that finish a character of which some have been read, and the code of the
character. -/
inductive Finishes : Pending -> List UInt8 -> Nat -> Prop
  | last {code low high : Nat} {byte : UInt8} :
      low ≤ byte.toNat -> byte.toNat ≤ high ->
        Finishes ⟨0, code, low, high⟩ [byte] (code * 64 + (byte.toNat - 0x80))
  | more {more code low high result : Nat} {byte : UInt8} {others : List UInt8} :
      low ≤ byte.toNat -> byte.toNat ≤ high ->
        Finishes ⟨more, code * 64 + (byte.toNat - 0x80), 0x80, 0xBF⟩ others result ->
          Finishes ⟨more + 1, code, low, high⟩ (byte :: others) result

theorem Finishes.of_zero
    {code low high result : Nat}
    {others : List UInt8}
    (finishes : Finishes ⟨0, code, low, high⟩ others result) :
    ∃ byte : UInt8, others = [byte] ∧ low ≤ byte.toNat ∧ byte.toNat ≤ high ∧
      result = code * 64 + (byte.toNat - 0x80) := by
  cases finishes with
  | last lowest highest => exact ⟨_, rfl, lowest, highest, rfl⟩

theorem Finishes.of_succ
    {more code low high result : Nat}
    {others : List UInt8}
    (finishes : Finishes ⟨more + 1, code, low, high⟩ others result) :
    ∃ (byte : UInt8) (rest : List UInt8), others = byte :: rest ∧ low ≤ byte.toNat ∧
      byte.toNat ≤ high ∧
        Finishes ⟨more, code * 64 + (byte.toNat - 0x80), 0x80, 0xBF⟩ rest result := by
  cases finishes with
  | more lowest highest further => exact ⟨_, _, rfl, lowest, highest, further⟩

/-- A character that is read next is finished by the bytes in front. -/
theorem exists_finishes
    {pending : Pending}
    {content : List UInt8}
    {c : Char}
    {symbols : List (Option Char)}
    (reads : symbolsAfter (some pending) content = some c :: symbols) :
    ∃ others rest code, content = others ++ rest ∧ Finishes pending others code ∧
      c = Char.ofNat code ∧ symbolsAfter none rest = symbols := by
  induction content generalizing pending with
  | nil => simp [symbolsAfter] at reads
  | cons byte rest inductionHypothesis =>
      obtain ⟨more, code, low, high⟩ := pending
      by_cases within : low ≤ byte.toNat ∧ byte.toNat ≤ high
      · cases more with
        | zero =>
            simp only [symbolsAfter, within.1, within.2, decide_true, Bool.and_self,
              if_true, List.cons.injEq, Option.some.injEq] at reads
            exact ⟨[byte], rest, _, rfl, .last within.1 within.2, reads.1.symm, reads.2⟩
        | succ more =>
            simp only [symbolsAfter, within.1, within.2, decide_true, Bool.and_self,
              if_true]
              at reads
            obtain ⟨others, rest, result, rfl, finishes, same, further⟩ :=
              inductionHypothesis reads
            exact ⟨byte :: others, rest, result, rfl, .more within.1 within.2 finishes,
              same, further⟩
      · have outside :
            ¬ ((decide (low ≤ byte.toNat) && decide (byte.toNat ≤ high)) = true) := by
          simpa only [Bool.and_eq_true, decide_eq_true_eq] using within
        simp only [symbolsAfter, if_neg outside] at reads
        split at reads
        · exact absurd (List.cons.inj reads).1 (Option.some_ne_none c).symm
        · exact absurd (List.cons.inj reads).1 (Option.some_ne_none c).symm

theorem toNat_ofNat_of_valid
    {code : Nat}
    (valid : code.isValidChar) :
    (Char.ofNat code).toNat = code := by
  rw [Char.ofNat, dif_pos valid]
  rfl

theorem ofNat_eq_of_toNat
    (byte : UInt8)
    {n : Nat}
    (same : byte.toNat = n) :
    UInt8.ofNat n = byte := by
  rw [← same, UInt8.ofNat_toNat]

/-- A byte that opens a character of two, three or four bytes. -/
theorem opening_eq_partly
    {first : UInt8}
    {pending : Pending}
    (opens : opening first = .partly pending) :
    (∃ lead < 32, 2 ≤ lead ∧ first.toNat = 0xC0 + lead ∧
        pending = ⟨0, lead, 0x80, 0xBF⟩) ∨
      (∃ lead < 16, first.toNat = 0xE0 + lead ∧
        pending = ⟨1, lead, if lead = 0 then 0xA0 else 0x80,
          if lead = 13 then 0x9F else 0xBF⟩) ∨
      ∃ lead < 5, first.toNat = 0xF0 + lead ∧
        pending = ⟨2, lead, if lead = 0 then 0x90 else 0x80,
          if lead = 4 then 0x8F else 0xBF⟩ := by
  have bound : first.toNat < 256 := first.toNat_lt_size
  have opensAs {code : Nat} {other : Pending} (same : first.toNat = code)
      (known : opening (UInt8.ofNat code) = .partly other) : pending = other := by
    rw [ofNat_eq_of_toNat first same, opens] at known
    exact Opening.partly.inj known
  by_cases two : 0xC2 ≤ first.toNat ∧ first.toNat < 0xE0
  · have same : first.toNat = 0xC0 + (first.toNat - 0xC0) := by omega
    exact .inl ⟨first.toNat - 0xC0, by omega, by omega, same,
      opensAs same (opening_ofTwo _ (by omega) (by omega))⟩
  by_cases three : 0xE0 ≤ first.toNat ∧ first.toNat < 0xF0
  · have same : first.toNat = 0xE0 + (first.toNat - 0xE0) := by omega
    exact .inr (.inl ⟨first.toNat - 0xE0, by omega, same,
      opensAs same (opening_ofThree _ (by omega))⟩)
  by_cases four : 0xF0 ≤ first.toNat ∧ first.toNat < 0xF5
  · have same : first.toNat = 0xF0 + (first.toNat - 0xF0) := by omega
    exact .inr (.inr ⟨first.toNat - 0xF0, by omega, same,
      opensAs same (opening_ofFour _ (by omega))⟩)
  · have whole : ∃ symbol, opening first = .whole symbol := by
      unfold opening
      by_cases ascii : first.toNat < 0x80
      · exact ⟨_, if_pos ascii⟩
      by_cases following : first.toNat < 0xC2
      · exact ⟨none, by simp [ascii, following]⟩
      · exact ⟨none, by grind⟩
    obtain ⟨symbol, whole⟩ := whole
    exact Opening.noConfusion (whole.symm.trans opens)

/-- The bytes of a finished character are its encoding. -/
theorem encodeChar_of_finishes
    {first : UInt8}
    {pending : Pending}
    {others : List UInt8}
    {code : Nat}
    (opens : opening first = .partly pending)
    (finishes : Finishes pending others code) :
    encodeChar (Char.ofNat code) = first :: others := by
  rcases opening_eq_partly opens with
    ⟨lead, small, large, same, rfl⟩ | ⟨lead, small, same, rfl⟩ | ⟨lead, small, same, rfl⟩
  · obtain ⟨second, rfl, low, high, result⟩ := finishes.of_zero
    have valid : code.isValidChar := by left; omega
    simp only [encodeChar, toNat_ofNat_of_valid valid]
    rw [if_neg (by omega), if_pos (by omega), ofNat_eq_of_toNat first (by omega),
      ofNat_eq_of_toNat second (by omega)]
  · obtain ⟨second, _, rfl, low, high, finishes⟩ := finishes.of_succ
    obtain ⟨third, rfl, thirdLow, thirdHigh, result⟩ := finishes.of_zero
    have least : 0x800 ≤ code := by split at low <;> omega
    have valid : code.isValidChar := by
      simp only [Nat.isValidChar]
      split at high <;> split at low <;> omega
    have tailLow : 0x80 ≤ second.toNat := by split at low <;> omega
    have tailHigh : second.toNat ≤ 0xBF := by split at high <;> omega
    simp only [encodeChar, toNat_ofNat_of_valid valid]
    rw [if_neg (by omega), if_neg (by omega), if_pos (by omega),
      ofNat_eq_of_toNat first (by omega), ofNat_eq_of_toNat second (by omega),
      ofNat_eq_of_toNat third (by omega)]
  · obtain ⟨second, _, rfl, low, high, finishes⟩ := finishes.of_succ
    obtain ⟨third, _, rfl, thirdLow, thirdHigh, finishes⟩ := finishes.of_succ
    obtain ⟨fourth, rfl, fourthLow, fourthHigh, result⟩ := finishes.of_zero
    have least : 0x10000 ≤ code := by split at low <;> omega
    have greatest : code < 0x110000 := by split at high <;> omega
    have valid : code.isValidChar := by right; omega
    have tailLow : 0x80 ≤ second.toNat := by split at low <;> omega
    have tailHigh : second.toNat ≤ 0xBF := by split at high <;> omega
    simp only [encodeChar, toNat_ofNat_of_valid valid]
    rw [if_neg (by omega), if_neg (by omega), if_neg (by omega),
      ofNat_eq_of_toNat first (by omega), ofNat_eq_of_toNat second (by omega),
      ofNat_eq_of_toNat third (by omega), ofNat_eq_of_toNat fourth (by omega)]

/-- A byte that is a character is its encoding. -/
theorem encodeChar_of_opening
    {first : UInt8}
    {c : Char}
    (opens : opening first = .whole (some c)) :
    encodeChar c = [first] := by
  have ascii : first.toNat < 0x80 := by
    unfold opening at opens
    grind
  have known := opening_ascii first.toNat ascii
  have valid : first.toNat.isValidChar := by left; omega
  rw [UInt8.ofNat_toNat, opens, Opening.whole.injEq, Option.some.injEq] at known
  rw [known, encodeChar, toNat_ofNat_of_valid valid, if_pos ascii, UInt8.ofNat_toNat]

/-- A character that is read comes from its encoding. -/
theorem exists_encodeChar
    {content : List UInt8}
    {c : Char}
    {symbols : List (Option Char)}
    (reads : symbolsAfter none content = some c :: symbols) :
    ∃ rest, content = encodeChar c ++ rest ∧ symbolsAfter none rest = symbols := by
  cases content with
  | nil => simp [symbolsAfter] at reads
  | cons first rest =>
      cases opens : opening first with
      | whole symbol =>
          simp only [symbolsAfter, opens, List.cons.injEq] at reads
          obtain ⟨rfl, further⟩ := reads
          exact ⟨rest, by rw [encodeChar_of_opening opens, List.singleton_append],
            further⟩
      | partly pending =>
          rw [symbolsAfter_partly opens] at reads
          obtain ⟨others, rest, code, rfl, finishes, rfl, further⟩ :=
            exists_finishes reads
          exact ⟨rest, by rw [encodeChar_of_finishes opens finishes, List.cons_append],
            further⟩

theorem symbolsAfter_some_ne_nil
    (pending : Pending)
    (content : List UInt8) :
    symbolsAfter (some pending) content ≠ [] := by
  induction content generalizing pending with
  | nil => simp [symbolsAfter]
  | cons byte rest inductionHypothesis =>
      simp only [symbolsAfter]
      split
      · split
        · exact List.cons_ne_nil _ _
        · exact inductionHypothesis _
      · split
        · exact List.cons_ne_nil _ _
        · exact List.cons_ne_nil _ _

theorem eq_nil_of_symbols_eq_nil
    {content : List UInt8}
    (nothing : symbolsAfter none content = []) :
    content = [] := by
  cases content with
  | nil => rfl
  | cons first rest =>
      simp only [symbolsAfter] at nothing
      split at nothing
      · exact absurd nothing (List.cons_ne_nil _ _)
      · exact absurd nothing (symbolsAfter_some_ne_nil _ _)

theorem characters?_eq_some_iff
    {symbols : List (Option Char)}
    {text : List Char} :
    characters? symbols = some text <-> symbols = text.map some := by
  constructor
  · intro found
    fun_induction characters? symbols generalizing text with
    | case1 => rw [← Option.some.inj found, List.map_nil]
    | case2 => exact absurd found.symm (Option.some_ne_none text)
    | case3 c rest inductionHypothesis =>
        obtain ⟨others, foundOthers, rfl⟩ := Option.map_eq_some_iff.mp found
        rw [inductionHypothesis foundOthers, List.map_cons]
  · rintro rfl
    exact characters?_map_some text

/-- Bytes that are read as a text are its encoding. -/
theorem encode_of_symbolsAfter
    {content : List UInt8}
    {text : List Char}
    (reads : symbolsAfter none content = text.map some) :
    encode text = content := by
  induction text generalizing content with
  | nil => exact (eq_nil_of_symbols_eq_nil reads).symm
  | cons c others inductionHypothesis =>
      obtain ⟨rest, rfl, further⟩ := exists_encodeChar reads
      rw [encode_cons, inductionHypothesis further]

/-- The strict reader finds exactly the text that the bytes encode. -/
theorem text?_eq_some_iff
    {content : List UInt8}
    {text : String} :
    text? content = some text <-> bytes text = content := by
  constructor
  · intro reads
    obtain ⟨chars, found, rfl⟩ := Option.map_eq_some_iff.mp reads
    rw [bytes, String.toList_ofList]
    exact encode_of_symbolsAfter (characters?_eq_some_iff.mp found)
  · rintro rfl
    exact text?_bytes text

theorem valid_iff_exists_text? (content : List UInt8) :
    Valid content <-> ∃ text, text? content = some text :=
  exists_congr fun _ => text?_eq_some_iff.symm

/-! ## Cutting valid sequences -/

theorem valid_nil : Valid [] :=
  ⟨"", rfl⟩

theorem valid_encode (text : List Char) : Valid (encode text) :=
  ⟨String.ofList text, by rw [bytes, String.toList_ofList]⟩

theorem le_of_mem_encodeChar
    {c : Char}
    (long : 0x80 ≤ c.toNat)
    {byte : UInt8}
    (present : byte ∈ encodeChar c) :
    0x80 ≤ byte.toNat := by
  have valid := toNat_valid c
  have lead {base code : Nat} (low : 0x80 ≤ base) (high : base + code < 256) :
      0x80 ≤ (UInt8.ofNat (base + code)).toNat := by
    rw [UInt8.toNat_ofNat_of_lt' high]
    omega
  have following (n : Nat) : 0x80 ≤ (UInt8.ofNat (0x80 + n % 64)).toNat :=
    lead (Nat.le_refl _) (by omega)
  simp only [encodeChar, if_neg (Nat.not_lt.mpr long)] at present
  split at present
  · simp only [List.mem_cons, List.not_mem_nil, or_false] at present
    rcases present with rfl | rfl
    · exact lead (by decide) (by omega)
    · exact following _
  split at present
  · simp only [List.mem_cons, List.not_mem_nil, or_false] at present
    rcases present with rfl | rfl | rfl
    · exact lead (by decide) (by omega)
    · exact following _
    · exact following _
  · simp only [List.mem_cons, List.not_mem_nil, or_false] at present
    rcases present with rfl | rfl | rfl | rfl
    · exact lead (by decide) (by omega)
    · exact following _
    · exact following _
    · exact following _

/-- A byte below `0x80` in the encoding of a character is all of it. -/
theorem encodeChar_of_mem
    {c : Char}
    {byte : UInt8}
    (ascii : byte.toNat < 0x80)
    (present : byte ∈ encodeChar c) :
    encodeChar c = [byte] := by
  have short : c.toNat < 0x80 := by
    refine Nat.lt_of_not_le ?_
    intro long
    exact absurd (le_of_mem_encodeChar long present) (Nat.not_le.mpr ascii)
  rw [encodeChar, if_pos short] at present ⊢
  rw [List.mem_singleton.mp present]

/-- A byte below `0x80` stands in an encoded text exactly where its character does. -/
theorem mem_encode_iff
    {c : Char}
    (ascii : c.toNat < 0x80)
    (text : List Char) :
    UInt8.ofNat c.toNat ∈ encode text <-> c ∈ text := by
  have single : encodeChar c = [UInt8.ofNat c.toNat] := by rw [encodeChar, if_pos ascii]
  have isCode {code : Nat} (low : code < 0x80) : (UInt8.ofNat code).toNat = code :=
    UInt8.toNat_ofNat_of_lt' (Nat.lt_trans low (by decide))
  rw [encode, List.mem_flatMap]
  constructor
  · rintro ⟨other, present, within⟩
    have same := encodeChar_of_mem (by rwa [isCode ascii]) within
    have short : other.toNat < 0x80 := by
      refine Nat.lt_of_not_le ?_
      intro long
      have high := le_of_mem_encodeChar long within
      rw [isCode ascii] at high
      omega
    rw [encodeChar, if_pos short, List.cons.injEq] at same
    have sameCode := congrArg UInt8.toNat same.1
    rw [isCode short, isCode ascii] at sameCode
    rwa [← Char.toNat_inj.mp sameCode]
  · intro present
    exact ⟨c, present, by rw [single]; exact List.mem_singleton_self _⟩

/-- An encoded text is cut in front of and behind a byte below `0x80` into encoded
texts. -/
theorem exists_encode_of_append_cons
    {byte : UInt8}
    (ascii : byte.toNat < 0x80)
    {text : List Char}
    {before after : List UInt8}
    (encoded : encode text = before ++ byte :: after) :
    ∃ first second, encode first = before ∧ encode second = after := by
  induction text generalizing before with
  | nil =>
      exact absurd encoded.symm
        (List.append_ne_nil_of_right_ne_nil _ (List.cons_ne_nil _ _))
  | cons c others inductionHypothesis =>
      rw [encode_cons, List.append_eq_append_iff] at encoded
      rcases encoded with ⟨between, rfl, further⟩ | ⟨between, within, further⟩
      · obtain ⟨first, second, rfl, rfl⟩ := inductionHypothesis further
        exact ⟨c :: first, second, rfl, rfl⟩
      · cases between with
        | nil =>
            have cut : encode others = [] ++ byte :: after := further.symm
            obtain ⟨_, second, _, rfl⟩ := inductionHypothesis cut
            exact ⟨[c], second, by simpa using within, rfl⟩
        | cons head rest =>
            obtain ⟨rfl, rfl⟩ := List.cons.inj further
            have present : byte ∈ encodeChar c := by simp [within]
            rw [encodeChar_of_mem ascii present] at within
            obtain ⟨rfl, alone⟩ | ⟨-, impossible⟩ :=
              List.append_eq_singleton_iff.mp within.symm
            · obtain ⟨-, rfl⟩ := List.cons.inj alone
              exact ⟨[], others, rfl, rfl⟩
            · exact absurd impossible (List.cons_ne_nil _ _)

/-- The bytes on both sides of a byte below `0x80` are valid exactly when the whole
is. -/
theorem valid_append_cons_iff
    {byte : UInt8}
    (ascii : byte.toNat < 0x80)
    (before after : List UInt8) :
    Valid (before ++ byte :: after) <-> Valid before ∧ Valid after := by
  constructor
  · rintro ⟨text, encoded⟩
    obtain ⟨first, second, rfl, rfl⟩ := exists_encode_of_append_cons ascii encoded
    exact ⟨valid_encode first, valid_encode second⟩
  · rintro ⟨⟨first, rfl⟩, second, rfl⟩
    have opens := opening_ascii byte.toNat ascii
    rw [UInt8.ofNat_toNat] at opens
    refine ⟨first ++ String.ofList [Char.ofNat byte.toNat] ++ second, ?_⟩
    simp [bytes, encodeChar_of_opening opens]

end Utf8
end Text
end FlemishDesk
