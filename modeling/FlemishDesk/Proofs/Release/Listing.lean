import FlemishDesk.Proofs.Text.Percent
import FlemishDesk.Release.Feed
import Mathlib.Data.List.Basic

/-!
# The address of a listing

The address of a listing is that of the feed, without the slashes at its end, and then a
path with one segment for the owner and one for the repository.  Both names are
percent-encoded, so that they stay inside their segments and can be read back from the
address.
-/

namespace FlemishDesk
namespace Release
namespace Feed

open Text (Utf8.bytes Percent.encode Percent.decode Percent.Encoded Percent.Reserved)

/-- The root is the address without the slashes at its end. -/
structure IsRoot (root address : String) : Prop where
  slashes : ∃ count, address.toList = root.toList ++ List.replicate count '/'
  bare : root.toList.getLast? ≠ some '/'

theorem isRoot_dropTrailing (address : String) :
    IsRoot (Text.dropTrailing '/' address) address where
  slashes := by
    let dropped := address.toList.reverse.takeWhile (· == '/')
    have onlySlashes : dropped = List.replicate dropped.length '/' := by
      refine List.eq_replicate_iff.mpr ⟨rfl, ?_⟩
      intro c present
      exact beq_iff_eq.mp (List.all_eq_true.mp List.all_takeWhile c present)
    refine ⟨dropped.length, ?_⟩
    rw [Text.dropTrailing, String.toList_ofList, ← List.reverse_replicate, ← onlySlashes,
      ← List.reverse_append, List.takeWhile_append_dropWhile, List.reverse_reverse]
  bare := by
    rw [Text.dropTrailing, String.toList_ofList, List.getLast?_reverse]
    intro slash
    have other := List.head?_dropWhile_not (· == '/') address.toList.reverse
    rw [slash] at other
    exact absurd other (by decide)

/-! ## Names inside the path -/

theorem not_mem_encode
    {mark : Char}
    (reserved : Percent.Reserved mark)
    (name : String) :
    mark ∉ (Percent.encode name).toList :=
  (Text.Percent.encoded_encode name).not_mem_of_reserved reserved

/-- The two names stand between fixed parts, with a slash between them. -/
theorem toList_listingUrl
    (feed : Feed)
    (owner repository : String) :
    (feed.listingUrl owner repository).toList =
      feed.baseUrl.toList ++ "/repos/".toList ++
        ((Percent.encode owner).toList ++ '/' :: (Percent.encode repository).toList) ++
        "/releases?per_page=10&page=1".toList := by
  have slash : "/".toList = ['/'] := rfl
  unfold listingUrl
  simp only [String.toList_append, slash, List.append_assoc, List.cons_append,
    List.nil_append]

/-- A reserved mark occurs in the address as often as in the root and the fixed
parts. -/
theorem count_listingUrl
    {mark : Char}
    (reserved : Percent.Reserved mark)
    (feed : Feed)
    (owner repository : String) :
    (feed.listingUrl owner repository).toList.count mark =
      feed.baseUrl.toList.count mark + ("/repos/".toList.count mark + ['/'].count mark +
        "/releases?per_page=10&page=1".toList.count mark) := by
  have owned := List.count_eq_zero_of_not_mem (not_mem_encode reserved owner)
  have named := List.count_eq_zero_of_not_mem (not_mem_encode reserved repository)
  rw [toList_listingUrl, List.append_cons, List.count_append, List.count_append,
    List.count_append, List.count_append, List.count_append, owned, named]
  omega

/-- Two addresses of one feed are the same only when both names are. -/
theorem listingUrl_eq_iff
    (feed : Feed)
    (owner repository otherOwner otherRepository : String) :
    feed.listingUrl owner repository = feed.listingUrl otherOwner otherRepository <->
      owner = otherOwner ∧ repository = otherRepository := by
  have slash : Percent.Reserved '/' := by decide
  constructor
  · intro same
    have sameChars := congrArg String.toList same
    rw [toList_listingUrl, toList_listingUrl] at sameChars
    have between := List.append_cancel_left (List.append_cancel_right sameChars)
    -- neither name holds a slash, so the one between them is the same in both
    obtain ⟨sameOwner, -, sameRepository⟩ := (List.append_cons_inj_of_notMem
      (not_mem_encode slash owner) (not_mem_encode slash repository)).mp between
    exact ⟨Text.Percent.encode_injective (String.toList_inj.mp sameOwner),
      Text.Percent.encode_injective (String.toList_inj.mp sameRepository)⟩
  · rintro ⟨rfl, rfl⟩
    rfl

/-- The address of a listing is its root and a path in which both names are encoded.  It
tells the names apart, and the names add no slash, question mark or number sign to
it. -/
theorem listingUrl_names_one_repository
    (base token : String) :
    ∃ root, IsRoot root base ∧
      (∀ owner repository,
        (make base token).listingUrl owner repository =
          root ++ "/repos/" ++ Percent.encode owner ++ "/" ++ Percent.encode repository ++
            "/releases?per_page=10&page=1") ∧
      (∀ name,
        Percent.Encoded (Percent.encode name).toList ∧
          Percent.decode (Percent.encode name).toList = Utf8.bytes name) ∧
      (∀ owner repository otherOwner otherRepository,
        (make base token).listingUrl owner repository =
            (make base token).listingUrl otherOwner otherRepository <->
          owner = otherOwner ∧ repository = otherRepository) ∧
      ∀ owner repository,
        ((make base token).listingUrl owner repository).toList.count '/' =
            root.toList.count '/' + 4 ∧
          ((make base token).listingUrl owner repository).toList.count '?' =
            root.toList.count '?' + 1 ∧
          ((make base token).listingUrl owner repository).toList.count '#' =
            root.toList.count '#' := by
  refine ⟨(make base token).baseUrl, isRoot_dropTrailing base, ?_, ?_,
    listingUrl_eq_iff _, ?_⟩
  · intro owner repository
    unfold listingUrl
    rfl
  · intro name
    exact ⟨Text.Percent.encoded_encode name, Text.Percent.decode_encode name⟩
  · intro owner repository
    have slashes : "/repos/".toList.count '/' + ['/'].count '/' +
        "/releases?per_page=10&page=1".toList.count '/' = 4 := by decide
    have questions : "/repos/".toList.count '?' + ['/'].count '?' +
        "/releases?per_page=10&page=1".toList.count '?' = 1 := by decide
    have numbers : "/repos/".toList.count '#' + ['/'].count '#' +
        "/releases?per_page=10&page=1".toList.count '#' = 0 := by decide
    refine ⟨?_, ?_, ?_⟩
    · rw [count_listingUrl (by decide), slashes]
    · rw [count_listingUrl (by decide), questions]
    · rw [count_listingUrl (by decide), numbers, Nat.add_zero]

end Feed
end Release
end FlemishDesk
