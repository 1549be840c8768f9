import FlemishDesk.Proofs.Number.Digits
import FlemishDesk.Proofs.Watch.Reloading

/-!
# Identifiers through the file

Identifiers are compared by their texts.  A number has one decimal text, and no two
numbers share it, so that the comparison tells numbers apart and takes a text for a
number only in its plain form: neither a sign nor a zero in front is overlooked.  The
file writes a number as a number and a text as a text, whatever digits the text holds,
and a memory that is loaded again has the very identifier that was saved.  So what was
announced is recognised after a restart.
-/

namespace FlemishDesk
namespace Release
namespace Id

/-- Two identifiers are the same when they show the same text. -/
theorem sameAs_iff
    {a b : Id} :
    a.sameAs b = true <-> a.shown = b.shown :=
  beq_iff_eq

theorem sameAs_equivalence : Equivalence fun a b : Id => a.sameAs b = true where
  refl _ := sameAs_iff.mpr rfl
  symm same := sameAs_iff.mpr (sameAs_iff.mp same).symm
  trans first second :=
    sameAs_iff.mpr ((sameAs_iff.mp first).trans (sameAs_iff.mp second))

/-- No two numbers share a text. -/
theorem sameAs_number_number_iff (n m : UInt64) :
    (number n).sameAs (.number m) = true <-> n = m := by
  rw [sameAs_iff, shown, shown, Number.natText, Number.natText, String.ofList_inj]
  constructor
  · exact fun same => UInt64.toNat_inj.mp (Number.decimal_injective same)
  · rintro rfl
    rfl

/-- A text identifies the release of a number when it is the decimal text of the
number. -/
theorem sameAs_number_text_iff (n : UInt64) (value : String) :
    (number n).sameAs (.text value) = true <->
      Number.IsDecimalOf n.toNat value.toList := by
  rw [sameAs_iff, Number.isDecimalOf_iff, shown, shown, Number.natText,
    ← String.toList_inj, String.toList_ofList, eq_comm]

end Id
end Release

namespace Watch
namespace Store

/-- Where file operations succeed, a memory that was saved is loaded again with the same
identifier, whatever channel it was saved for. -/
theorem load_of_saved
    {store : Store}
    {stamp next : Stamp}
    {disk : Storage.Disk}
    (writable : store.Writable stamp disk)
    (memory : Memory) :
    ∃ saved, store.save stamp memory disk = (.ok (), saved) ∧
      (store.Writable next saved ->
        ∃ loaded, store.load next saved =
          (.ok { memory with channelId := store.channelId }, loaded)) := by
  obtain ⟨saved, success⟩ := save_of_writable writable memory
  refine ⟨saved, success, fun writableAgain => ?_⟩
  obtain ⟨loaded, loading, _⟩ := load_of_writable writableAgain
  rw [kept_eq_of_read (read_of_save success)] at loading
  exact ⟨loaded, loading⟩

/-- Sameness of identifiers is an equivalence.  Numbers are the same when they are
equal, texts are the same when they are equal, and a number and a text are the same when
the text is the decimal text of the number.  Where file operations succeed, an
identifier that is saved and loaded again is the same as the same identifiers as before,
on either side, and it is blank if it was. -/
theorem sameAs_survives_reloading :
    (Equivalence fun a b : Release.Id => a.sameAs b = true) ∧
    (∀ n m : UInt64, Release.Id.sameAs (.number n) (.number m) = true <-> n = m) ∧
    (∀ one other : String, Release.Id.sameAs (.text one) (.text other) = true <->
      one = other) ∧
    (∀ (n : UInt64) (text : String),
      Release.Id.sameAs (.number n) (.text text) = true <->
        Number.IsDecimalOf n.toNat text.toList) ∧
    ∀ (store : Store) (stamp next : Stamp) (disk : Storage.Disk) (memory : Memory)
        (id : Release.Id),
      memory.lastReleaseId = some id ->
      store.Writable stamp disk ->
      ∃ saved, store.save stamp memory disk = (.ok (), saved) ∧
        (store.Writable next saved ->
          ∃ restored loaded back,
            store.load next saved = (.ok restored, loaded) ∧
            restored.lastReleaseId = some back ∧
            back.isBlank = id.isBlank ∧
            ∀ other : Release.Id,
              back.sameAs other = id.sameAs other ∧
                other.sameAs back = other.sameAs id) := by
  refine ⟨Release.Id.sameAs_equivalence, Release.Id.sameAs_number_number_iff,
    fun one other => Release.Id.sameAs_iff, Release.Id.sameAs_number_text_iff, ?_⟩
  intro store stamp next disk memory id remembered writable
  obtain ⟨saved, success, loads⟩ := load_of_saved writable memory
  refine ⟨saved, success, fun writableAgain => ?_⟩
  obtain ⟨loaded, loading⟩ := loads writableAgain
  exact ⟨_, loaded, id, loading, remembered, rfl, fun other => ⟨rfl, rfl⟩⟩

/-- The greatest number and a text with zeros in front, each saved over a broken
file. -/
theorem sameAs_survives_reloading_greatest :
    let store : Store := ⟨.ofText "d/state.json", "42", true, []⟩
    let disk : Storage.Disk :=
      [(.ofTexts ["d"], .directory), (.ofTexts ["d", "state.json"], .file [0x7B, 0xFF])]
    let greatest : Release.Id := .number 18446744073709551615
    let zeros : Release.Id := .text "007"
    store.Writable ⟨1, 8⟩ disk ∧
    (∃ saved restored loaded back,
      store.save ⟨1, 8⟩ ⟨some greatest, "42", false⟩ disk = (.ok (), saved) ∧
      store.load ⟨1, 9⟩ saved = (.ok restored, loaded) ∧
      restored.lastReleaseId = some back ∧
      back.sameAs (.text "18446744073709551615") = true) ∧
    ∃ saved restored loaded back,
      store.save ⟨1, 8⟩ ⟨some zeros, "41", true⟩ disk = (.ok (), saved) ∧
      store.load ⟨1, 9⟩ saved = (.ok restored, loaded) ∧
      restored.lastReleaseId = some back ∧
      Release.Id.sameAs (.number 7) back = false := by
  intro store disk greatest zeros
  have writable : store.Writable ⟨1, 8⟩ disk := by
    apply writable_of_save ⟨some greatest, "42", false⟩
    decide +kernel
  have survives := sameAs_survives_reloading.2.2.2.2 store ⟨1, 8⟩ ⟨1, 9⟩ disk
  have writableAgain (memory : Memory) (saved : Storage.Disk)
      (success : store.save ⟨1, 8⟩ memory disk = (.ok (), saved))
      (again : (store.save ⟨1, 9⟩ memory (store.save ⟨1, 8⟩ memory disk).2).1 = .ok ()) :
      store.Writable ⟨1, 9⟩ saved := by
    rw [success] at again
    exact writable_of_save memory again
  refine ⟨writable, ?_, ?_⟩
  · obtain ⟨saved, success, loads⟩ :=
      survives ⟨some greatest, "42", false⟩ greatest rfl writable
    obtain ⟨restored, loaded, back, loading, remembered, _, same⟩ :=
      loads (writableAgain _ saved success (by decide +kernel))
    exact ⟨saved, restored, loaded, back, success, loading, remembered,
      (same (.text "18446744073709551615")).1.trans (by decide +kernel)⟩
  · obtain ⟨saved, success, loads⟩ := survives ⟨some zeros, "41", true⟩ zeros rfl writable
    obtain ⟨restored, loaded, back, loading, remembered, _, same⟩ :=
      loads (writableAgain _ saved success (by decide +kernel))
    exact ⟨saved, restored, loaded, back, success, loading, remembered,
      (same (.number 7)).2.trans (by decide +kernel)⟩

end Store
end Watch
end FlemishDesk
