import FlemishDesk.Admission.Client
import FlemishDesk.Proofs.Http.Socket
import FlemishDesk.Proofs.Text.Trim

/-!
# The source of a client key

The key of a client has exactly one source: the forwarded addresses, else the reported
one, else the connection, else nothing.  A field is a source only by its first value,
and only when that value is printable and not blank.  Whatever does not belong to the
source has no influence on the key, and requests whose sources say the same share it.
Connections are told apart by their addresses: no two addresses have the same text, and
none of them is the key of those who are not known.
-/

namespace FlemishDesk

namespace Http
namespace Headers

/-! ## Values of fields -/

/-- The value is that of the first field with the name, in letters of either case. -/
def HoldsFirst (headers : Headers) (name value : String) : Prop :=
  ∃ before field after,
    headers = before ++ (field, value) :: after ∧
    key field = key name ∧
    ∀ other ∈ before, key other.1 ≠ key name

/-- A value is usable when it consists of tabs and printable ASCII characters and not of
tabs and spaces alone. -/
structure Usable (value : String) : Prop where
  printable : ∀ c ∈ value.toList, c = '\t' ∨ (' ' ≤ c ∧ c ≤ '~')
  notBlank : ∃ c ∈ value.toList, c ≠ ' ' ∧ c ≠ '\t'

/-- The first value of a name is usable. -/
structure Offers (headers : Headers) (name value : String) : Prop where
  first : HoldsFirst headers name value
  usable : Usable value

theorem first?_eq_some_iff
    {headers : Headers}
    {name value : String} :
    headers.first? name = some value <-> HoldsFirst headers name value := by
  simp only [first?, Option.map_eq_some_iff, List.find?_eq_some_iff_append, HoldsFirst]
  constructor
  · rintro ⟨⟨field, _⟩, ⟨same, before, after, split, others⟩, rfl⟩
    exact ⟨before, field, after, split, by simpa using same, by simpa using others⟩
  · rintro ⟨before, field, after, split, same, others⟩
    exact ⟨(field, value),
      ⟨by simpa using same, before, after, split, by simpa using others⟩, rfl⟩

theorem isBlank_iff_of_printable
    {c : Char}
    (printable : c = '\t' ∨ (' ' ≤ c ∧ c ≤ '~')) :
    Text.isBlank c = true <-> c = ' ' ∨ c = '\t' := by
  have codes : c.toNat = 9 ∨ (32 ≤ c.toNat ∧ c.toNat ≤ 126) := by
    rcases printable with rfl | ⟨low, high⟩
    · exact .inl rfl
    · exact .inr ⟨UInt32.le_iff_toNat_le.mp low, UInt32.le_iff_toNat_le.mp high⟩
  have space : c = ' ' <-> c.toNat = 32 := Char.toNat_inj.symm
  have tab : c = '\t' <-> c.toNat = 9 := Char.toNat_inj.symm
  -- The tab and the space begin the first two ranges; the other ranges lie outside the
  -- printable characters.
  simp only [space, tab, Text.isBlank, Text.inRanges, Text.blankRanges, List.any_cons,
    List.any_nil, Bool.or_eq_true, Bool.and_eq_true, decide_eq_true_eq,
      Bool.false_eq_true,
    or_false]
  omega

theorem isReadable_iff
    {c : Char} :
    isReadable c = true <-> c = '\t' ∨ (' ' ≤ c ∧ c ≤ '~') := by
  simp [isReadable]

/-- A usable value is one that is readable and that trimming does not empty. -/
theorem usable_iff
    {value : String} :
    Usable value <->
      value.toList.all isReadable = true ∧ (!(Text.trimmed value).isEmpty) = true := by
  have emptied : (Text.trimmed value).isEmpty = true <->
      ∀ c ∈ value.toList, Text.isBlank c = true := by
    rw [String.isEmpty_iff, Text.trimmed, String.ofList_eq_empty_iff,
      Text.trim_eq_nil_iff]
  rw [Bool.not_eq_true', ← Bool.not_eq_true, emptied, List.all_eq_true]
  constructor
  · rintro ⟨printable, c, present, notSpace, notTab⟩
    refine ⟨fun d inside => isReadable_iff.mpr (printable d inside), fun blank => ?_⟩
    rcases (isBlank_iff_of_printable (printable c present)).mp
      (blank c present) with rfl | rfl
    · exact notSpace rfl
    · exact notTab rfl
  · rintro ⟨readable, notEmptied⟩
    have printable : ∀ c ∈ value.toList, c = '\t' ∨ (' ' ≤ c ∧ c ≤ '~') :=
      fun c present =>
      isReadable_iff.mp (readable c present)
    push Not at notEmptied
    obtain ⟨c, present, notBlank⟩ := notEmptied
    rw [Ne, isBlank_iff_of_printable (printable c present), not_or] at notBlank
    exact ⟨printable, c, present, notBlank⟩

/-- The first value of a name, if it is usable. -/
def offered? (headers : Headers) (name : String) : Option String :=
  (headers.readable? name).filter fun value => !(Text.trimmed value).isEmpty

theorem filled?_eq_map_offered? (headers : Headers) (name : String) :
    headers.filled? name = (headers.offered? name).map Text.trimmed := by
  rw [filled?, offered?, Option.filter_map, Function.comp_def]

theorem offered?_eq_some_iff
    {headers : Headers}
    {name value : String} :
    headers.offered? name = some value <-> Offers headers name value := by
  rw [offered?, readable?, Option.filter_eq_some_iff, Option.filter_eq_some_iff,
    first?_eq_some_iff, and_assoc, ← usable_iff]
  exact ⟨fun ⟨first, usable⟩ => ⟨first, usable⟩, fun ⟨first, usable⟩ => ⟨first, usable⟩⟩

theorem offered?_eq_none_iff
    {headers : Headers}
    {name : String} :
    headers.offered? name = none <-> ∀ value, ¬ Offers headers name value := by
  simp only [Option.eq_none_iff_forall_ne_some, ne_eq, offered?_eq_some_iff]

end Headers
end Http

namespace Admission

/-! ## Sources -/

/-- Where the key of a client comes from. -/
inductive Source where
  /-- The addresses that a proxy forwarded. -/
  | forwarded (value : String)
  /-- The address that a proxy reported. -/
  | reported (value : String)
  /-- The address of the connection. -/
  | connection (address : Http.Address)
  /-- Nothing is known. -/
  | nothing

/-- No field says where the request comes from. -/
def Direct (headers : Http.Headers) : Prop :=
  (∀ value, ¬ headers.Offers "x-forwarded-for" value) ∧
    ∀ value, ¬ headers.Offers "x-real-ip" value

/-- The source decides on the key of a request: it is there, and no source before it
is. -/
def Decides (headers : Http.Headers) (peer : Option Http.Address) : Source -> Prop
  | .forwarded value => headers.Offers "x-forwarded-for" value
  | .reported value =>
      (∀ other, ¬ headers.Offers "x-forwarded-for" other) ∧
        headers.Offers "x-real-ip" value
  | .connection address => Direct headers ∧ peer = some address
  | .nothing => Direct headers ∧ peer = none

/-- The entry is what stands before the first comma, without the blanks around it. -/
def FirstEntry (value entry : List Char) : Prop :=
  ∃ part rest, value = part ++ rest ∧ ',' ∉ part ∧ (∀ c ∈ rest.head?, c = ',') ∧
    Text.Trims part entry

/-- What a source says the key is. -/
def Source.Names : Source -> String -> Prop
  | .forwarded value, key => FirstEntry value.toList key.toList
  | .reported value, key => Text.Trims value.toList key.toList
  | .connection address, key => address.text = key
  | .nothing, key => "unknown" = key

/-- The source that decides, as it is looked for. -/
def source (headers : Http.Headers) (peer : Option Http.Address) : Source :=
  match headers.offered? "x-forwarded-for", headers.offered? "x-real-ip", peer with
  | some value, _, _ => .forwarded value
  | none, some value, _ => .reported value
  | none, none, some address => .connection address
  | none, none, none => .nothing

theorem direct_iff
    {headers : Http.Headers} :
    Direct headers <->
      headers.offered? "x-forwarded-for" = none ∧
        headers.offered? "x-real-ip" = none := by
  rw [Direct, Http.Headers.offered?_eq_none_iff, Http.Headers.offered?_eq_none_iff]

/-- Exactly one source decides, the one that is looked for. -/
theorem decides_iff
    {headers : Http.Headers}
    {peer : Option Http.Address}
    {candidate : Source} :
    Decides headers peer candidate <-> source headers peer = candidate := by
  -- Which of the fields offers a value, and whether the peer is known, settles every
  -- case.
  cases candidate <;>
    simp only [Decides, direct_iff, source, ← Http.Headers.offered?_eq_some_iff] <;>
    cases headers.offered? "x-forwarded-for" <;>
    cases headers.offered? "x-real-ip" <;>
    cases peer <;>
    simp

/-! ## Keys -/

/-- The key that a source gives. -/
def Source.key : Source -> String
  | .forwarded value => Text.trimmed (beforeComma value)
  | .reported value => Text.trimmed value
  | .connection address => address.text
  | .nothing => unknownClient

/-- A text is split at its first comma in one way. -/
theorem takeWhile_eq_of_comma
    {part rest : List Char}
    (noComma : ',' ∉ part)
    (stops : ∀ c ∈ rest.head?, c = ',') :
    (part ++ rest).takeWhile (· != ',') = part := by
  rw [List.takeWhile_append_of_pos fun c present => by
    simpa using ne_of_mem_of_not_mem present noComma]
  cases rest with
  | nil => simp
  | cons c rest => simp [stops c rfl]

theorem firstEntry_iff
    {value entry : List Char} :
    FirstEntry value entry <-> Text.trim (value.takeWhile (· != ',')) = entry := by
  constructor
  · rintro ⟨part, rest, rfl, noComma, stops, trims⟩
    rw [takeWhile_eq_of_comma noComma stops, trims.trim_eq]
  · rintro rfl
    refine ⟨value.takeWhile (· != ','), value.dropWhile (· != ','),
      List.takeWhile_append_dropWhile.symm, fun present => ?_, fun c isHead => ?_,
      Text.trims_trim _⟩
    · simpa using List.all_eq_true.mp List.all_takeWhile _ present
    · have stops := List.head?_dropWhile_not (· != ',') value
      rw [isHead] at stops
      simpa using stops

/-- Trimming a value before its first entry is cut off does not change the entry. -/
theorem trimmed_beforeComma_trimmed (value : String) :
    Text.trimmed (beforeComma (Text.trimmed value)) =
      Text.trimmed (beforeComma value) := by
  have commaIsNoBlank : ∀ c, Text.isBlank c = true -> (c != ',') = true := by
    intro c blank
    rw [bne_iff_ne]
    rintro rfl
    exact absurd blank (by decide)
  simp only [Text.trimmed, beforeComma, String.toList_ofList,
    Text.trim_takeWhile_trim commaIsNoBlank]

theorem clientKey_eq_key_source
    (headers : Http.Headers)
    (peer : Option Http.Address) :
    clientKey headers peer = (source headers peer).key := by
  unfold clientKey source
  rw [Http.Headers.filled?_eq_map_offered?, Http.Headers.filled?_eq_map_offered?]
  cases headers.offered? "x-forwarded-for" with
  | some value => exact trimmed_beforeComma_trimmed value
  | none =>
      cases headers.offered? "x-real-ip" with
      | some value => rfl
      | none => cases peer <;> rfl

/-- A source names one key. -/
theorem Source.names_iff
    {source : Source}
    {key : String} :
    source.Names key <-> source.key = key := by
  cases source with
  | forwarded value =>
      rw [Names, firstEntry_iff, Source.key, Text.trimmed, beforeComma,
        String.toList_ofList, ← String.toList_inj, String.toList_ofList]
  | reported value =>
      rw [Names, Text.trims_iff, Source.key, Text.trimmed, ← String.toList_inj,
        String.toList_ofList]
  | connection address => rfl
  | nothing => rfl

theorem clientKey_of_direct
    {headers : Http.Headers}
    (direct : Direct headers)
    (address : Http.Address) :
    clientKey headers (some address) = address.text := by
  have decided : source headers (some address) = .connection address :=
    decides_iff.mp ⟨direct, rfl⟩
  rw [clientKey_eq_key_source, decided, Source.key]

/-- No address has the key of those who are not known. -/
theorem text_ne_unknown (address : Http.Address) : address.text ≠ "unknown" := by
  intro same
  have present : 'u' ∈ address.text.toList := by
    rw [same]
    decide
  exact absurd (Http.Address.isWritten_of_mem_text present) (by decide)

/-- Every request has one source, which alone decides on its key: requests have the same
key when their sources name the same one, whatever else they hold.  Connections of which
no field says anything have the same key when their addresses are the same, whatever
their ports, and none of them is taken for one that is not known. -/
theorem clientKey_comes_from_one_source
    (one other : Http.Headers)
    (here there : Option Http.Address) :
    (∃! source, Decides one here source) ∧
      (∀ source, Decides one here source ->
        (∀ key, clientKey one here = key <-> source.Names key) ∧
        ∀ second, Decides other there second ->
          (clientKey one here = clientKey other there <->
            ∃ key, source.Names key ∧ second.Names key)) ∧
      ∀ near far : Http.Socket,
        Http.Address.ofSocket? near.text = some near.address ∧
        (Direct one ->
          clientKey one (Http.Address.ofSocket? near.text) ≠ "unknown" ∧
          (Direct other ->
            (clientKey one (Http.Address.ofSocket? near.text) =
                clientKey other (Http.Address.ofSocket? far.text) <->
              near.address = far.address))) := by
  refine ⟨⟨source one here, decides_iff.mpr rfl,
    fun _ decides => (decides_iff.mp decides).symm⟩, ?_, ?_⟩
  · intro first decides
    obtain rfl := decides_iff.mp decides
    refine ⟨fun key => by rw [Source.names_iff, clientKey_eq_key_source], ?_⟩
    intro second alsoDecides
    obtain rfl := decides_iff.mp alsoDecides
    simp only [Source.names_iff, clientKey_eq_key_source, exists_eq_left']
    exact eq_comm
  · intro near far
    refine ⟨near.ofSocket?_text, fun direct => ?_⟩
    rw [near.ofSocket?_text, far.ofSocket?_text, clientKey_of_direct direct]
    refine ⟨text_ne_unknown near.address, fun alsoDirect => ?_⟩
    rw [clientKey_of_direct alsoDirect, Http.Address.text_injective.eq_iff]

theorem clientKey_comes_from_one_source_of_two :
    Decides [("X-Forwarded-For", " 10.0.0.1\t, 10.0.0.2"),
      ("x-forwarded-for", "10.0.0.3")]
        (some (.short 10 0 0 4)) (.forwarded " 10.0.0.1\t, 10.0.0.2") ∧
      Decides [("x-real-ip", " 10.0.0.1"), ("x-forwarded-for", "10.0.0.é")]
        none (.reported " 10.0.0.1") ∧
      clientKey [("X-Forwarded-For", " 10.0.0.1\t, 10.0.0.2"),
        ("x-forwarded-for", "10.0.0.3")]
          (some (.short 10 0 0 4)) =
        clientKey [("x-real-ip", " 10.0.0.1"), ("x-forwarded-for", "10.0.0.é")] none ∧
      Direct [("x-forwarded-for", " \t")] ∧
      Direct [] ∧
      clientKey [("x-forwarded-for", " \t")]
          (Http.Address.ofSocket? (Http.Socket.short 1 2 3 4 80).text) ≠
        clientKey [] (Http.Address.ofSocket?
          (Http.Socket.long #v[0, 0, 0, 0, 0, 0xffff, 0x102, 0x304] 80 0).text) := by
  have forwarded : Decides
      [("X-Forwarded-For", " 10.0.0.1\t, 10.0.0.2"), ("x-forwarded-for", "10.0.0.3")]
      (some (.short 10 0 0 4)) (.forwarded " 10.0.0.1\t, 10.0.0.2") := decides_iff.mpr rfl
  have reported : Decides [("x-real-ip", " 10.0.0.1"), ("x-forwarded-for", "10.0.0.é")]
      none (.reported " 10.0.0.1") := decides_iff.mpr rfl
  have blank : Direct [("x-forwarded-for", " \t")] := direct_iff.mpr ⟨rfl, rfl⟩
  have empty : Direct [] := direct_iff.mpr ⟨rfl, rfl⟩
  refine ⟨forwarded, reported, ?_, blank, empty, ?_⟩
  · refine (((clientKey_comes_from_one_source _ _ _ _).2.1 _ forwarded).2 _ reported).mpr
      ?_
    exact ⟨"10.0.0.1", Source.names_iff.mpr rfl, Source.names_iff.mpr rfl⟩
  · rw [Ne, (((clientKey_comes_from_one_source _ _ none none).2.2 _ _).2 blank).2 empty]
    exact Http.Address.noConfusion

end Admission
end FlemishDesk
