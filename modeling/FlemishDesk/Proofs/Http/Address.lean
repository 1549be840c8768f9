import FlemishDesk.Http.Address
import FlemishDesk.Proofs.Number.Numeral
import FlemishDesk.Proofs.Text.Splitting

/-!
# Addresses are read back

The text of an address leaves out zeros and mixes two notations, but no two addresses
share it: the reader of addresses recovers every address from its text.  The place of
the zeros that were left out is the only pair of colons, and what stands on its two
sides says how many they were.
-/

namespace FlemishDesk
namespace Http
namespace Address

/-! ## Bytes and groups -/

theorem byte?_decimal
    {n : Nat}
    (small : n < 256) :
    byte? (Number.decimal n) = some (UInt8.ofNat n) := by
  have short : (Number.decimal n).length ≤ 3 :=
    (Nat.length_toDigits_le_iff (by decide) (by decide)).mpr (by omega)
  unfold byte?
  split
  · next digit others starts =>
      exact absurd (Number.eq_nil_of_decimal_eq_zero_cons starts) (List.cons_ne_nil _ _)
  · rw [if_neg (by omega), Number.digits?_decimal, Option.filter_some,
      if_pos (by simpa using small), Option.map_some]

theorem dotted_eq_joinWith (a b c d : Nat) :
    dotted a b c d = Text.joinWith ['.']
      [Number.decimal a, Number.decimal b, Number.decimal c, Number.decimal d] := by
  simp [dotted]

/-- Four bytes are read back. -/
theorem short?_dotted
    {a b c d : Nat}
    (smallA : a < 256)
    (smallB : b < 256)
    (smallC : c < 256)
    (smallD : d < 256) :
    short? (dotted a b c d) =
      some (UInt8.ofNat a, UInt8.ofNat b, UInt8.ofNat c, UInt8.ofNat d) := by
  have undotted : ∀ piece ∈
      [Number.decimal a, Number.decimal b, Number.decimal c, Number.decimal d],
      '.' ∉ piece := by
    intro piece present
    simp only [List.mem_cons, List.not_mem_nil, or_false] at present
    rcases present with rfl | rfl | rfl | rfl <;>
      exact Number.not_mem_decimal (by decide) _
  rw [short?, dotted_eq_joinWith, Text.splitOn_joinWith (List.cons_ne_nil _ _) undotted]
  simp only [List.map_cons, List.map_nil, byte?_decimal smallA, byte?_decimal smallB,
    byte?_decimal smallC, byte?_decimal smallD]

theorem hexValue?_digitChar :
    ∀ digit < 16, Text.Percent.hexValue? (Nat.digitChar digit) = some digit := by
  decide

theorem isSome_hexValue?_of_mem_toDigits
    {base n : Nat}
    (lower : 1 < base)
    (upper : base ≤ 16)
    {c : Char}
    (present : c ∈ Nat.toDigits base n) :
    (Text.Percent.hexValue? c).isSome = true := by
  have isDigit : ∀ digit < base,
      (Text.Percent.hexValue? (Nat.digitChar digit)).isSome = true := by
    intro digit small
    rw [hexValue?_digitChar digit (Nat.lt_of_lt_of_le small upper), Option.isSome_some]
  induction n using Nat.strongRecOn with
  | ind n inductionHypothesis =>
      rw [Nat.toDigits_eq_if lower] at present
      split at present
      · next small =>
          rw [List.mem_singleton.mp present]
          exact isDigit n small
      · next large =>
          rcases List.mem_append.mp present with front | last
          · exact inductionHypothesis (n / base) (Nat.div_lt_self (by omega) lower) front
          · rw [List.mem_singleton.mp last]
            exact isDigit (n % base) (Nat.mod_lt n (by omega))

theorem mark_not_mem_hex
    {mark : Char}
    (noDigit : Text.Percent.hexValue? mark = none)
    (group : Nat) :
    mark ∉ hex group := by
  intro present
  have isDigit := isSome_hexValue?_of_mem_toDigits (by decide) (by decide) present
  rw [noDigit] at isDigit
  exact Bool.false_ne_true isDigit

theorem foldl_hexValue?_hex (group : Nat) :
    (hex group).foldl (fun value c => do
      let value <- value
      let digit <- Text.Percent.hexValue? c
      return value * 16 + digit) (some 0) = some group := by
  induction group using Nat.strongRecOn with
  | ind group inductionHypothesis =>
      rw [hex, Nat.toDigits_eq_if (by decide)]
      split
      · next single => simp [hexValue?_digitChar group single]
      · have front := inductionHypothesis (group / 16) (by omega)
        rw [hex] at front
        rw [List.foldl_append, front, List.foldl_cons, List.foldl_nil,
          hexValue?_digitChar (group % 16) (Nat.mod_lt _ (by decide))]
        exact congrArg some (Nat.div_add_mod' group 16)

/-- A group is read back. -/
theorem group?_hex
    {group : Nat}
    (small : group < 65536) :
    group? (hex group) = some group := by
  have short : (hex group).length ≤ 4 :=
    (Nat.length_toDigits_le_iff (by decide) (by decide)).mpr (by omega)
  have nonempty : hex group ≠ [] := Nat.toDigits_ne_nil
  rw [group?, if_neg (by simp [nonempty, short])]
  exact foldl_hexValue?_hex group

/-! ## Rows of groups -/

/-- The groups have sixteen bits. -/
def Small (groups : List Nat) : Prop :=
  ∀ group ∈ groups, group < 65536

theorem mapM_group?_hex
    {groups : List Nat}
    (small : Small groups) :
    (groups.map hex).mapM group? = some groups := by
  induction groups with
  | nil => rfl
  | cons group others inductionHypothesis =>
      obtain ⟨first, rest⟩ := List.forall_mem_cons.mp small
      rw [List.map_cons, List.mapM_cons, group?_hex first, inductionHypothesis rest]
      rfl

theorem splitOn_groupsText
    {groups : List Nat}
    (nonempty : groups ≠ []) :
    Text.splitOn [':'] (groupsText groups) = groups.map hex := by
  refine Text.splitOn_joinWith (by simpa using nonempty) fun piece present => ?_
  obtain ⟨group, _, rfl⟩ := List.mem_map.mp present
  exact mark_not_mem_hex (by decide) group

/-- A group is not taken for a short address. -/
theorem short?_hex (group : Nat) : short? (hex group) = none := by
  rw [short?, Text.splitOn_of_not_mem (mark_not_mem_hex (by decide) group),
    List.map_singleton]
  cases byte? (hex group) <;> rfl

theorem groupsText_ne_nil
    {groups : List Nat}
    (nonempty : groups ≠ []) :
    groupsText groups ≠ [] := by
  cases groups with
  | nil => exact absurd rfl nonempty
  | cons group others =>
      have digits : hex group ≠ [] := Nat.toDigits_ne_nil
      cases others <;> simp [groupsText, digits]

/-- Groups are read back. -/
theorem groups?_groupsText
    {groups : List Nat}
    (small : Small groups) :
    groups? (groupsText groups) = some groups := by
  by_cases empty : groups = []
  · rw [empty]
    rfl
  · have last : short? ((groups.map hex).getLast?.getD []) = none := by
      rw [List.getLast?_map, List.getLast?_eq_some_getLast empty]
      exact short?_hex _
    have nonempty : ¬ (groupsText groups).isEmpty = true := by
      simpa using groupsText_ne_nil empty
    rw [groups?, if_neg nonempty]
    dsimp only
    rw [splitOn_groupsText empty, last]
    exact mapM_group?_hex small

theorem colon_not_mem_dotted (a b c d : Nat) : ':' ∉ dotted a b c d := by
  simp [dotted, Number.not_mem_decimal]

/-- Groups in front of a short address, which stands for two groups. -/
theorem groups?_append_dotted
    {groups : List Nat}
    (small : Small groups)
    {a b c d : Nat}
    (smallA : a < 256)
    (smallB : b < 256)
    (smallC : c < 256)
    (smallD : d < 256) :
    groups? (Text.joinWith [':'] (groups.map hex ++ [dotted a b c d])) =
      some (groups ++ [a * 256 + b, c * 256 + d]) := by
  have pieces :
      Text.splitOn [':'] (Text.joinWith [':'] (groups.map hex ++ [dotted a b c d])) =
      groups.map hex ++ [dotted a b c d] := by
    refine Text.splitOn_joinWith (by simp) fun piece present => ?_
    rcases List.mem_append.mp present with isGroup | isShort
    · obtain ⟨group, _, rfl⟩ := List.mem_map.mp isGroup
      exact mark_not_mem_hex (by decide) group
    · rw [List.mem_singleton.mp isShort]
      exact colon_not_mem_dotted a b c d
  have nonempty :
      ¬ (Text.joinWith [':'] (groups.map hex ++ [dotted a b c d])).isEmpty = true := by
    intro empty
    rw [List.isEmpty_iff.mp empty, Text.splitOn_of_not_mem List.not_mem_nil] at pieces
    have last := congrArg List.getLast? pieces
    rw [List.getLast?_singleton, List.getLast?_concat] at last
    simp [dotted] at last
  rw [groups?, if_neg nonempty]
  dsimp only
  rw [pieces, List.getLast?_concat, Option.getD_some,
    short?_dotted smallA smallB smallC smallD, List.dropLast_concat,
    mapM_group?_hex small]
  dsimp only
  rw [UInt8.toNat_ofNat_of_lt' smallA, UInt8.toNat_ofNat_of_lt' smallB,
    UInt8.toNat_ofNat_of_lt' smallC, UInt8.toNat_ofNat_of_lt' smallD]
  rfl

/-! ## Zeros that are left out -/

theorem eq_replicate_append_dropWhile (groups : List Nat) :
    groups = List.replicate (leadingZeros groups) 0 ++ groups.dropWhile (· == 0) := by
  have zeros : groups.takeWhile (· == 0) = List.replicate (leadingZeros groups) 0 := by
    rw [List.eq_replicate_iff]
    refine ⟨rfl, fun group present => ?_⟩
    simpa using List.all_eq_true.mp List.all_takeWhile group present
  rw [← zeros, List.takeWhile_append_dropWhile]

/-- The run that is found consists of zeros and stands where it was found. -/
theorem exists_of_longestZeros
    (position : Nat)
    (groups : List Nat) :
    ∃ before after,
      groups = before ++ List.replicate (longestZeros position groups).2 0 ++ after ∧
      (longestZeros position groups).1 = position + before.length := by
  induction groups generalizing position with
  | nil => exact ⟨[], [], rfl, rfl⟩
  | cons group others inductionHypothesis =>
      rw [longestZeros]
      split
      · exact ⟨[], _, eq_replicate_append_dropWhile (group :: others), rfl⟩
      · obtain ⟨before, after, split, start⟩ := inductionHypothesis (position + 1)
        refine ⟨group :: before, after, ?_, ?_⟩
        · rw [List.cons_append, List.cons_append, ← split]
        · rw [start, List.length_cons]
          omega

/-! ## Long addresses -/

theorem toList_doubleColon : "::".toList = [':', ':'] := by
  decide

/-- No two colons stand next to each other between groups, nor at their end. -/
theorem not_infix_doubleColon (groups : List Nat) :
    ¬ [':', ':'] <:+: groupsText groups ++ [':'] := by
  refine Text.not_infix_pair_joinWith fun piece present => ?_
  obtain ⟨group, _, rfl⟩ := List.mem_map.mp present
  exact ⟨Nat.toDigits_ne_nil, mark_not_mem_hex (by decide) group⟩

/-- What stands on the two sides of a pair of colons says how many zeros were left
out. -/
theorem long?_of_leftmost
    {before after : List Char}
    {front back : List Nat}
    {count : Nat}
    (leftmost : Text.Leftmost [':', ':'] before after)
    (readFront : groups? before = some front)
    (readBack : groups? after = some back)
    (leftOut : 0 < count)
    (total : front.length + count + back.length = 8) :
    long? (before ++ [':', ':'] ++ after) =
      ofGroups? (front ++ List.replicate count 0 ++ back) := by
  have missing : 8 - front.length - back.length = count := by omega
  rw [long?, toList_doubleColon, Text.cut?_of_leftmost leftmost]
  simp only [readFront, readBack, Option.bind_eq_bind, Option.bind_some, missing]
  rw [if_pos (by omega)]

/-- Without a pair of colons every group is written. -/
theorem long?_groupsText
    {groups : List Nat}
    (small : Small groups) :
    long? (groupsText groups) = ofGroups? groups := by
  have uncut : Text.cut? [':', ':'] (groupsText groups) = none :=
    Text.cut?_eq_none_of_not_infix fun occurs =>
      not_infix_doubleColon groups (occurs.trans (List.prefix_append _ _).isInfix)
  rw [long?, toList_doubleColon, uncut, groups?_groupsText small, Option.bind_some]

/-- An embedded short address is read back. -/
theorem long?_embedded
    {high low : Nat}
    (smallHigh : high < 65536)
    (smallLow : low < 65536) :
    long? ("::ffff:".toList ++ dotted (high / 256) (high % 256) (low / 256) (low % 256)) =
      ofGroups? [0, 0, 0, 0, 0, 0xFFFF, high, low] := by
  have spelled : "::ffff:".toList = [] ++ [':', ':'] ++ (hex 0xFFFF ++ [':']) := by decide
  have back : groups? (Text.joinWith [':'] ([0xFFFF].map hex ++
      [dotted (high / 256) (high % 256) (low / 256) (low % 256)])) =
        some ([0xFFFF] ++ [high / 256 * 256 + high % 256, low / 256 * 256 + low % 256]) :=
    groups?_append_dotted (by simp [Small]) (by omega) (by omega) (by omega) (by omega)
  rw [Nat.div_add_mod', Nat.div_add_mod'] at back
  rw [spelled, List.append_assoc]
  exact long?_of_leftmost (fun _ _ _ => Nat.zero_le _)
    (show groups? [] = some [] from rfl) back
    (show 0 < 5 by decide) rfl

/-- The groups of a long address are read back. -/
theorem long?_longText
    {groups : List Nat}
    (small : Small groups)
    (eight : groups.length = 8) :
    long? (longText groups) = ofGroups? groups := by
  unfold longText
  split
  · next high low =>
      exact long?_embedded (small high (by simp)) (small low (by simp))
  · obtain ⟨before, after, zeros, start⟩ := exists_of_longestZeros 0 groups
    rw [Nat.zero_add] at start
    generalize longestZeros 0 groups = run at zeros start ⊢
    obtain ⟨position, count⟩ := run
    dsimp only at zeros start ⊢
    split
    · next leftOut =>
        have smallBefore : Small before := fun group present =>
          small group (by simp [zeros, present])
        have smallAfter : Small after := fun group present =>
          small group (by simp [zeros, present])
        have total : before.length + count + after.length = 8 := by
          rw [← eight, zeros]
          simp [Nat.add_assoc]
        have front : groups.take position = before := by
          rw [zeros, start, List.append_assoc, List.take_left]
        have back : groups.drop (position + count) = after := by
          rw [zeros]
          exact List.drop_left' (by simp [start])
        rw [front, back, toList_doubleColon,
          long?_of_leftmost (Text.leftmost_pair (not_infix_doubleColon before) _)
            (groups?_groupsText smallBefore) (groups?_groupsText smallAfter) (by omega)
            total,
          ← zeros]
    · exact long?_groupsText small

theorem ofGroups?_map_toNat (groups : Vector UInt16 8) :
    ofGroups? (groups.toList.map UInt16.toNat) = some (.long groups) := by
  have same : (groups.toList.map UInt16.toNat).map UInt16.ofNat = groups.toList := by
    simp [Function.comp_def]
  rw [ofGroups?, dif_pos (by simp)]
  congr 2
  apply Vector.toList_inj.mp
  simpa using same

/-- The text of an address is read back. -/
theorem long?_toList_text (groups : Vector UInt16 8) :
    long? (text (.long groups)).toList = some (.long groups) := by
  have small : Small (groups.toList.map UInt16.toNat) := by
    intro group present
    obtain ⟨word, _, rfl⟩ := List.mem_map.mp present
    exact word.toNat_lt
  rw [text, String.toList_ofList, long?_longText small (by simp), ofGroups?_map_toNat]

/-! ## Addresses of either kind -/

/-- A short address is not taken for a long one. -/
theorem long?_dotted
    {a b c d : Nat}
    (smallA : a < 256)
    (smallB : b < 256)
    (smallC : c < 256)
    (smallD : d < 256) :
    long? (dotted a b c d) = none := by
  have uncut : Text.cut? [':', ':'] (dotted a b c d) = none :=
    Text.cut?_eq_none_of_not_infix fun occurs =>
      colon_not_mem_dotted a b c d (occurs.subset List.mem_cons_self)
  have two : groups? (Text.joinWith [':'] ([].map hex ++ [dotted a b c d])) =
      some ([] ++ [a * 256 + b, c * 256 + d]) :=
    groups?_append_dotted (by simp [Small]) smallA smallB smallC smallD
  have read : groups? (dotted a b c d) = some [a * 256 + b, c * 256 + d] := two
  rw [long?, toList_doubleColon, uncut, read]
  rfl

/-- Read an address of either kind. -/
def ofText? (text : String) : Option Address :=
  match long? text.toList with
  | some address => some address
  | none => (short? text.toList).map fun (a, b, c, d) => .short a b c d

/-- The text of an address is read back. -/
theorem ofText?_text (address : Address) : ofText? address.text = some address := by
  cases address with
  | short a b c d =>
      rw [ofText?, text, String.toList_ofList,
        long?_dotted a.toNat_lt b.toNat_lt c.toNat_lt d.toNat_lt,
        short?_dotted a.toNat_lt b.toNat_lt c.toNat_lt d.toNat_lt]
      simp
  | long groups => rw [ofText?, long?_toList_text]

/-- No two addresses share a text. -/
theorem text_injective : Function.Injective text := by
  intro one other same
  have read := ofText?_text one
  rw [same, ofText?_text other] at read
  exact (Option.some.inj read).symm

/-- The characters of which the texts of addresses consist. -/
def isWritten (c : Char) : Bool :=
  (Text.Percent.hexValue? c).isSome || c == '.' || c == ':'

theorem isWritten_of_mem_dotted
    {a b c d : Nat}
    {character : Char}
    (present : character ∈ dotted a b c d) :
    isWritten character = true := by
  rw [dotted_eq_joinWith] at present
  rcases Text.mem_joinWith present with dot | ⟨piece, member, inPiece⟩
  · simp [isWritten, List.mem_singleton.mp dot]
  · have digits : ∃ n, piece = Nat.toDigits 10 n := by
      simp only [List.mem_cons, List.not_mem_nil, or_false] at member
      rcases member with rfl | rfl | rfl | rfl <;> exact ⟨_, rfl⟩
    obtain ⟨n, rfl⟩ := digits
    simp [isWritten, isSome_hexValue?_of_mem_toDigits (by decide) (by decide) inPiece]

theorem isWritten_of_mem_groupsText
    {groups : List Nat}
    {c : Char}
    (present : c ∈ groupsText groups) :
    isWritten c = true := by
  rcases Text.mem_joinWith present with colon | ⟨piece, member, inPiece⟩
  · simp [isWritten, List.mem_singleton.mp colon]
  · obtain ⟨group, _, rfl⟩ := List.mem_map.mp member
    simp [isWritten, isSome_hexValue?_of_mem_toDigits (by decide) (by decide) inPiece]

theorem isWritten_of_mem_longText
    {groups : List Nat}
    {c : Char}
    (present : c ∈ longText groups) :
    isWritten c = true := by
  unfold longText at present
  split at present
  · have front : "::ffff:".toList.all isWritten = true := by decide
    rcases List.mem_append.mp present with inFront | inBytes
    · exact List.all_eq_true.mp front c inFront
    · exact isWritten_of_mem_dotted inBytes
  · dsimp only at present
    split at present
    · have pair : "::".toList.all isWritten = true := by decide
      rw [List.mem_append, List.mem_append] at present
      rcases present with (before | inPair) | after
      · exact isWritten_of_mem_groupsText before
      · exact List.all_eq_true.mp pair c inPair
      · exact isWritten_of_mem_groupsText after
    · exact isWritten_of_mem_groupsText present

/-- The text of an address consists of hexadecimal digits, dots and colons. -/
theorem isWritten_of_mem_text
    {address : Address}
    {c : Char}
    (present : c ∈ address.text.toList) :
    isWritten c = true := by
  cases address with
  | short =>
      exact isWritten_of_mem_dotted (by rwa [text, String.toList_ofList] at present)
  | long =>
      exact isWritten_of_mem_longText (by rwa [text, String.toList_ofList] at present)

end Address

end Http
end FlemishDesk
