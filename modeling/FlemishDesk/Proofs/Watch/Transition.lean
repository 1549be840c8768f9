import FlemishDesk.Proofs.Watch.Guard
import FlemishDesk.Proofs.Watch.Saving

/-!
# Transitions of operations

A step of an operation is one of a few transitions.  What each transition does to the
flag, to the memory and to the file follows from the phase in which the operation is:
the operation that holds the memory has made something of the shared one, and by the
time it gives the memory back the change is on the disk.
-/

namespace FlemishDesk
namespace Watch

/-- The release that an outcome leaves remembered. -/
def CheckOutcome.noted? : CheckOutcome -> Option Release.Id
  | .initialized id => some id
  | .posted id => some id
  | _ => none

namespace Memory

/-- Remember a release, if there is one. -/
def note (memory : Memory) (id : Option Release.Id) : Memory :=
  { memory with lastReleaseId := id.or memory.lastReleaseId }

/-- Switch the mention of everyone. -/
def switch (memory : Memory) : Memory :=
  { memory with mentionEveryone := !memory.mentionEveryone }

end Memory

/-! ## Views of an operation -/

namespace Operation

/-- A check that has set the flag and not cleared it yet. -/
def isChecking : Operation -> Bool
  | .check _ .starting => false
  | .check _ (.ended _) => false
  | .check _ _ => true
  | _ => false

/-- The operation holds the memory. -/
def holds : Operation -> Bool
  | .check _ (.deciding _) => true
  | .check _ (.posting _ _) => true
  | .check _ (.recording _ _) => true
  | .check _ (.saving _) => true
  | .check _ (.unlocking _) => true
  | .toggle .flipping => true
  | .toggle .saving => true
  | .toggle (.unlocking _) => true
  | .announce _ .reading => true
  | .announce _ (.unlocking _) => true
  | _ => false

/-- The operation is about to save the memory. -/
def isSaving : Operation -> Bool
  | .check _ (.saving _) => true
  | .toggle .saving => true
  | _ => false

/-- The release that a check settles by giving the memory back. -/
def settling? : Operation -> Option Release.Id
  | .check _ (.unlocking (.ok outcome)) => outcome.noted?
  | _ => none

/-- The release with which a check ends by clearing the flag. -/
def ending? : Operation -> Option Release.Id
  | .check _ (.clearing (.ok outcome)) => outcome.noted?
  | _ => none

/-- A switch that is about to give the memory back. -/
def isSwitching : Operation -> Bool
  | .toggle (.unlocking _) => true
  | _ => false

/-- A switch that has ended. -/
def isSwitched : Operation -> Bool
  | .toggle (.ended _) => true
  | _ => false

/-- What an operation has made of the memory since it took it. -/
def applied : Operation -> Memory -> Memory
  | .check _ (.saving outcome), memory => memory.note outcome.noted?
  | .check _ (.unlocking (.ok outcome)), memory => memory.note outcome.noted?
  | .toggle .saving, memory => memory.switch
  | .toggle (.unlocking _), memory => memory.switch
  | _, memory => memory

/-- A check notes the release that its outcome tells, and it has saved the memory when
it comes to give it back. -/
def Sound : Operation -> Prop
  | .check _ (.recording id outcome) => outcome.noted? = some id
  | .check _ (.unlocking (.error _)) => False
  | _ => True

end Operation

/-! ## What one step does -/

/-- An operation that has ended, or that waits for the memory. -/
def Operation.mayStay : Operation -> Bool
  | .check _ (.locking _) => true
  | .check _ (.ended _) => true
  | .toggle .locking => true
  | .toggle (.ended _) => true
  | .announce _ .locking => true
  | .announce _ (.ended _) => true
  | _ => false

/-- What a step of the operation with a number can do. -/
inductive Transition {σ : Type} (setup : Setup σ) (tag : Nat) :
    Operation -> World σ -> Operation -> World σ -> Prop where
  | stay {operation world} (still : operation.mayStay = true) :
      Transition setup tag operation world operation world
  | refuse {force world} (busy : world.busy = true) :
      Transition setup tag (.check force .starting) world
        (.check force (.ended (.ok .busy))) world
  | raise {force world} (free : world.busy = false) :
      Transition setup tag (.check force .starting) world
        (.check force .fetching) { world with busy := true }
  | fetch {force world} {result} {outside} :
      Transition setup tag (.check force .fetching) world
        (.check force (afterFetch setup.target result)) { world with outside := outside }
  | takeForCheck {force latest world} (free : world.holder = none) :
      Transition setup tag (.check force (.locking latest)) world
        (.check force (.deciding latest)) { world with holder := some tag }
  | decide {force latest world} :
      Transition setup tag (.check force (.deciding latest)) world
        (.check force (settle setup.target force world.memory latest)) world
  | deliver {force latest post world outside} :
      Transition setup tag (.check force (.posting latest post)) world
        (.check force (.recording latest.id (.posted latest.id))) { world with outside :=
          outside }
  | deliverInVain {force latest post world outside} :
      Transition setup tag (.check force (.posting latest post)) world
        (.check force (.unlocking (.ok (.postFailed latest.id)))) { world with outside :=
          outside }
  | record {force id outcome world} :
      Transition setup tag (.check force (.recording id outcome)) world
        (.check force (.saving outcome))
        { world with memory := { world.memory with lastReleaseId := some id } }
  | saveForCheck {force outcome world disk}
      (success : setup.store.save setup.stamp world.memory world.disk = (.ok (), disk)) :
      Transition setup tag (.check force (.saving outcome)) world
        (.check force (.unlocking (.ok outcome))) { world with disk := disk }
  | saveForCheckInVain {force outcome world error disk}
      (failure : setup.store.save setup.stamp world.memory world.disk =
        (.error error, disk)) :
      Transition setup tag (.check force (.saving outcome)) world
        (.check force (.unlocking (.error (.store error)))) { world with disk := disk }
  | giveBackForCheck {force result world} :
      Transition setup tag (.check force (.unlocking result)) world
        (.check force (.clearing result)) { world with holder := none }
  | clear {force result world} :
      Transition setup tag (.check force (.clearing result)) world
        (.check force (.ended result)) { world with busy := false }
  | takeForToggle {world} (free : world.holder = none) :
      Transition setup tag (.toggle .locking) world
        (.toggle .flipping) { world with holder := some tag }
  | flip {world} :
      Transition setup tag (.toggle .flipping) world
        (.toggle .saving) { world with memory := world.memory.switch }
  | saveForToggle {world disk}
      (success : setup.store.save setup.stamp world.memory world.disk = (.ok (), disk)) :
      Transition setup tag (.toggle .saving) world
        (.toggle (.unlocking (.ok world.memory.mentionEveryone))) { world with disk :=
          disk }
  | saveForToggleInVain {world error disk}
      (failure : setup.store.save setup.stamp world.memory world.disk =
        (.error error, disk)) :
      Transition setup tag (.toggle .saving) world
        (.toggle (.unlocking (.error error))) { world with disk := disk }
  | giveBackForToggle {result world} :
      Transition setup tag (.toggle (.unlocking result)) world
        (.toggle (.ended result)) { world with holder := none }
  | takeForAnnounce {text world} (free : world.holder = none) :
      Transition setup tag (.announce text .locking) world
        (.announce text .reading) { world with holder := some tag }
  | look {text world} :
      Transition setup tag (.announce text .reading) world
        (.announce text (.unlocking world.memory.mentionEveryone)) world
  | giveBackForAnnounce {text mention world} :
      Transition setup tag (.announce text (.unlocking mention)) world
        (.announce text (.posting (manualPost mention text))) { world with holder :=
          none }
  | announce {text post result world outside} :
      Transition setup tag (.announce text (.posting post)) world
        (.announce text (.ended result)) { world with outside := outside }

section Steps

variable {σ : Type} {setup : Setup σ} {tag : Nat} {operation next : Operation}
  {world changed : World σ}

attribute [local irreducible] Store.save

theorem take?_eq_some_iff :
    world.take? tag = some changed <->
      world.holder = none ∧ changed = { world with holder := some tag } := by
  unfold World.take?
  cases world.holder with
  | none => simp [eq_comm]
  | some other => simp

theorem post_eq (setup : Setup σ) (post : Announcement.Post) (world : World σ) :
    world.post setup post =
      ((setup.ports.post post world.outside).1,
        { world with outside := (setup.ports.post post world.outside).2 }) :=
  rfl

theorem checkStep_transition (force : Bool) (phase : CheckPhase) :
    Transition setup tag (.check force phase) world
      (.check force (checkStep setup tag force phase world).1)
      (checkStep setup tag force phase world).2 := by
  unfold checkStep
  cases phase with
  | starting =>
      dsimp only
      split
      · exact .refuse ‹_›
      · exact .raise (Bool.eq_false_iff.mpr ‹_›)
  | fetching => exact .fetch
  | locking latest =>
      dsimp only
      split
      · obtain ⟨free, rfl⟩ := take?_eq_some_iff.mp ‹_›
        exact .takeForCheck free
      · exact .stay rfl
  | deciding latest => exact .decide
  | posting latest post =>
      dsimp only
      rw [post_eq]
      cases setup.ports.post post world.outside with
      | mk result outside =>
          cases result with
          | ok _ => exact .deliver
          | error _ => exact .deliverInVain
  | recording id outcome => exact .record
  | saving outcome =>
      unfold World.save
      dsimp only
      cases saved : setup.store.save setup.stamp world.memory world.disk with
      | mk result disk =>
          cases result with
          | ok _ => exact .saveForCheck saved
          | error _ => exact .saveForCheckInVain saved
  | unlocking result => exact .giveBackForCheck
  | clearing result => exact .clear
  | ended result => exact .stay rfl

theorem toggleStep_transition (phase : TogglePhase) :
    Transition setup tag (.toggle phase) world
      (.toggle (toggleStep setup tag phase world).1)
        (toggleStep setup tag phase world).2 := by
  unfold toggleStep
  cases phase with
  | locking =>
      dsimp only
      split
      · obtain ⟨free, rfl⟩ := take?_eq_some_iff.mp ‹_›
        exact .takeForToggle free
      · exact .stay rfl
  | flipping => exact .flip
  | saving =>
      unfold World.save
      dsimp only
      cases saved : setup.store.save setup.stamp world.memory world.disk with
      | mk result disk =>
          cases result with
          | ok _ => exact .saveForToggle saved
          | error _ => exact .saveForToggleInVain saved
  | unlocking result => exact .giveBackForToggle
  | ended result => exact .stay rfl

theorem announceStep_transition (text : String) (phase : AnnouncePhase) :
    Transition setup tag (.announce text phase) world
      (.announce text (announceStep setup tag text phase world).1)
      (announceStep setup tag text phase world).2 := by
  unfold announceStep
  cases phase with
  | locking =>
      dsimp only
      split
      · obtain ⟨free, rfl⟩ := take?_eq_some_iff.mp ‹_›
        exact .takeForAnnounce free
      · exact .stay rfl
  | reading => exact .look
  | unlocking mention => exact .giveBackForAnnounce
  | posting post => exact .announce
  | ended result => exact .stay rfl

/-- A check that finds the flag set ends at once. -/
theorem step_of_busy (force : Bool) (busy : world.busy = true) :
    step setup tag (.check force .starting) world =
      (.check force (.ended (.ok .busy)), world) := by
  unfold step checkStep
  simp only [busy, if_true]

/-- Every step is a transition. -/
theorem step_transition
    (setup : Setup σ)
    (tag : Nat)
    (operation : Operation)
    (world : World σ) :
    Transition setup tag operation world
      (step setup tag operation world).1 (step setup tag operation world).2 := by
  cases operation with
  | check force phase => exact checkStep_transition force phase
  | toggle phase => exact toggleStep_transition phase
  | announce text phase => exact announceStep_transition text phase

/-- A check that has asked for the listing is under way, does not hold the memory, and
has no release to end with. -/
theorem afterFetch_views (force : Bool) (target : Target)
    (result : Except Release.Feed.Error (List Release)) :
    (Operation.check force (afterFetch target result)).isChecking = true ∧
      (Operation.check force (afterFetch target result)).holds = false ∧
      (Operation.check force (afterFetch target result)).ending? = none := by
  unfold afterFetch
  split
  · exact ⟨rfl, rfl, rfl⟩
  · split <;> exact ⟨rfl, rfl, rfl⟩

/-- A check that has decided holds the memory, which it has not changed. -/
theorem settle_views (target : Target) (force : Bool) (memory shared : Memory)
    (latest : Release) :
    (Operation.check force (settle target force memory latest)).isChecking = true ∧
      (Operation.check force (settle target force memory latest)).holds = true ∧
      (Operation.check force (settle target force memory latest)).ending? = none ∧
      (Operation.check force (settle target force memory latest)).isSaving = false ∧
      (Operation.check force (settle target force memory latest)).Sound ∧
      (Operation.check force (settle target force memory latest)).applied shared =
        shared := by
  unfold settle
  split
  · exact ⟨rfl, rfl, rfl, rfl, rfl, rfl⟩
  · split <;> exact ⟨rfl, rfl, rfl, rfl, trivial, rfl⟩

namespace Transition

/-- The memory is taken when nobody holds it and given back by the operation that holds
it. -/
theorem holder (transition : Transition setup tag operation world next changed) :
    Handover tag operation.holds next.holds world.holder changed.holder := by
  cases transition with
  | fetch => exact .inl ⟨(afterFetch_views _ _ _).2.1, rfl⟩
  | decide => exact .inl ⟨(settle_views _ _ _ world.memory _).2.1, rfl⟩
  | takeForCheck free => exact .inr (.inl ⟨rfl, rfl, free, rfl⟩)
  | takeForToggle free => exact .inr (.inl ⟨rfl, rfl, free, rfl⟩)
  | takeForAnnounce free => exact .inr (.inl ⟨rfl, rfl, free, rfl⟩)
  | giveBackForCheck => exact .inr (.inr ⟨rfl, rfl, rfl⟩)
  | giveBackForToggle => exact .inr (.inr ⟨rfl, rfl, rfl⟩)
  | giveBackForAnnounce => exact .inr (.inr ⟨rfl, rfl, rfl⟩)
  | _ => exact .inl ⟨rfl, rfl⟩

/-- The flag is set when it is clear and cleared by the check that has set it. -/
theorem flag
    (transition : Transition setup tag operation world next changed)
    {checker : Option Nat}
    (flagged : world.busy = checker.isSome) :
    ∃ follower, changed.busy = follower.isSome ∧
      Handover tag operation.isChecking next.isChecking checker follower := by
  cases transition with
  | fetch => exact ⟨checker, flagged, .inl ⟨(afterFetch_views _ _ _).1, rfl⟩⟩
  | decide => exact ⟨checker, flagged, .inl ⟨(settle_views _ _ _ world.memory _).1, rfl⟩⟩
  | raise free =>
      have clear : checker = none := by
        rw [free] at flagged
        exact Option.isNone_iff_eq_none.mp (by simpa using flagged.symm)
      exact ⟨some tag, rfl, .inr (.inl ⟨rfl, rfl, clear, rfl⟩)⟩
  | clear => exact ⟨none, rfl, .inr (.inr ⟨rfl, rfl, rfl⟩)⟩
  | _ => exact ⟨checker, flagged, .inl ⟨rfl, rfl⟩⟩

/-- A check ends with the release that it has settled. -/
theorem ending? (transition : Transition setup tag operation world next changed) :
    next.ending? = operation.settling? := by
  cases transition with
  | stay still => unfold Operation.mayStay at still; split at still <;> trivial
  | fetch => exact (afterFetch_views _ _ _).2.2
  | decide => exact (settle_views _ _ _ world.memory _).2.2.1
  | @giveBackForCheck force result world => cases result <;> rfl
  | _ => rfl

/-- A switch has ended when it has given the memory back. -/
theorem isSwitched (transition : Transition setup tag operation world next changed) :
    next.isSwitched = (operation.isSwitched || operation.isSwitching) := by
  cases transition with
  | stay still => unfold Operation.mayStay at still; split at still <;> trivial
  | _ => rfl

end Transition

/-! ## The memory and its file -/

/-- What the shared memory becomes when an operation takes its next step: the change of
an operation that gives the memory back is there for all to see. -/
def Operation.published (operation : Operation) (shared : Memory) : Memory :=
  if operation.isSwitching then (shared.note operation.settling?).switch
  else shared.note operation.settling?

/-- The memory is what an operation has made of the shared one.  Unless the operation is
about to save it, the file holds its text. -/
structure Coherent (store : Store) (shared : Memory) (operation : Operation)
    (world : World σ) : Prop where
  sound : operation.Sound
  ofChannel : shared.channelId = store.channelId
  memory : world.memory = operation.applied shared
  stored : operation.isSaving = false ->
    world.disk.read store.workingDirectory store.path =
      .ok (Text.Utf8.bytes world.memory.fileText)

/-- An operation that is not a check under way has no release to settle or to end
with. -/
theorem views_of_not_isChecking (other : operation.isChecking = false) :
    operation.settling? = none ∧ operation.ending? = none := by
  cases operation with
  | check force phase =>
      cases phase with
      | starting | ended _ => exact ⟨rfl, rfl⟩
      | fetching | locking _ | deciding _ | posting _ _ | recording _ _ | saving _
      | unlocking _ | clearing _ => nomatch other
  | toggle phase => exact ⟨rfl, rfl⟩
  | announce text phase => exact ⟨rfl, rfl⟩

/-- An operation that does not hold the memory has done nothing to it. -/
theorem views_of_not_holds (other : operation.holds = false) :
    operation.Sound ∧ operation.isSaving = false ∧
      ∀ shared, operation.applied shared = shared ∧
        operation.published shared = shared := by
  cases operation with
  | check force phase =>
      cases phase with
      | starting | fetching | locking _ | clearing _ | ended _ =>
          exact ⟨trivial, rfl, fun _ => ⟨rfl, rfl⟩⟩
      | deciding _ | posting _ _ | recording _ _ | saving _ | unlocking _ => nomatch other
  | toggle phase =>
      cases phase with
      | locking | ended _ => exact ⟨trivial, rfl, fun _ => ⟨rfl, rfl⟩⟩
      | flipping | saving | unlocking _ => nomatch other
  | announce text phase =>
      cases phase with
      | locking | posting _ | ended _ => exact ⟨trivial, rfl, fun _ => ⟨rfl, rfl⟩⟩
      | reading | unlocking _ => nomatch other

namespace Transition

/-- A step keeps the memory coherent, provided that what it saves is saved. -/
theorem coherent
    (transition : Transition setup tag operation world next changed)
    {shared : Memory}
    (coherent : Coherent setup.store shared operation world)
    (saved : operation.isSaving = true -> (world.save setup).1.isOk = true) :
    Coherent setup.store (operation.published shared) next changed := by
  obtain ⟨sound, ofChannel, memory, stored⟩ := coherent
  cases transition with
  | stay still =>
      have other : operation.holds = false := by
        unfold Operation.mayStay at still
        split at still <;> trivial
      rw [((views_of_not_holds other).2.2 shared).2]
      exact ⟨sound, ofChannel, memory, stored⟩
  | fetch =>
      obtain ⟨sound, _, unchanged⟩ := views_of_not_holds (afterFetch_views _ _ _).2.1
      refine ⟨sound, ofChannel, ?_, fun _ => stored rfl⟩
      rw [(unchanged _).1]
      exact memory
  | decide =>
      obtain ⟨_, _, _, _, sound, unchanged⟩ :=
        settle_views setup.target _ world.memory shared _
      exact ⟨sound, ofChannel, memory.trans unchanged.symm, fun _ => stored rfl⟩
  | record =>
      refine ⟨trivial, ofChannel, ?_, nofun⟩
      have noted : CheckOutcome.noted? _ = some _ := sound
      simp only [Operation.applied, noted]
      rw [memory]
      rfl
  | saveForCheck success =>
      exact ⟨trivial, ofChannel, memory, fun _ => Store.read_of_save success⟩
  | saveForCheckInVain failure =>
      have failed := saved rfl
      unfold World.save at failed
      rw [failure] at failed
      nomatch failed
  | @giveBackForCheck force result _ =>
      cases result with
      | error error => exact sound.elim
      | ok outcome => exact ⟨trivial, ofChannel, memory, fun _ => stored rfl⟩
  | flip => exact ⟨trivial, ofChannel, congrArg Memory.switch memory, nofun⟩
  | saveForToggle success =>
      exact ⟨trivial, ofChannel, memory, fun _ => Store.read_of_save success⟩
  | saveForToggleInVain failure =>
      have failed := saved rfl
      unfold World.save at failed
      rw [failure] at failed
      nomatch failed
  | deliver => exact ⟨rfl, ofChannel, memory, fun _ => stored rfl⟩
  | _ => exact ⟨trivial, ofChannel, memory, fun _ => stored rfl⟩

/-- A step of an operation that does not hold the memory leaves the memory and the disk
alone. -/
theorem frame
    (transition : Transition setup tag operation world next changed)
    (other : operation.holds = false) :
    changed.memory = world.memory ∧ changed.disk = world.disk := by
  cases transition with
  | record | saveForCheck _ | saveForCheckInVain _ | flip | saveForToggle _
  | saveForToggleInVain _ => nomatch other
  | _ => exact ⟨rfl, rfl⟩

end Transition

/-- What one operation has done to the memory holds for the others when none of them
holds it. -/
theorem Coherent.of_not_holds
    {store : Store}
    {shared : Memory}
    {other : Operation}
    (coherent : Coherent store shared operation world)
    (notHolding : operation.holds = false)
    (otherNotHolding : other.holds = false) :
    Coherent store shared other world := by
  obtain ⟨_, notSaving, unchanged⟩ := views_of_not_holds notHolding
  obtain ⟨sound, _, otherUnchanged⟩ := views_of_not_holds otherNotHolding
  refine ⟨sound, coherent.ofChannel, ?_, fun _ => coherent.stored notSaving⟩
  rw [(otherUnchanged shared).1, coherent.memory, (unchanged shared).1]

theorem Coherent.of_frame
    {store : Store}
    {shared : Memory}
    (coherent : Coherent store shared operation world)
    (memory : changed.memory = world.memory)
    (disk : changed.disk = world.disk) :
    Coherent store shared operation changed := by
  refine ⟨coherent.sound, coherent.ofChannel, ?_, ?_⟩
  · rw [memory]
    exact coherent.memory
  · intro notSaving
    rw [memory, disk]
    exact coherent.stored notSaving

end Steps

end Watch
end FlemishDesk
