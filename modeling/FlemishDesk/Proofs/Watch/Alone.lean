import FlemishDesk.Proofs.Watch.Transition
import FlemishDesk.Watch.Watcher

/-!
# Operations that run alone

An operation that begins when no other is under way goes through all of its phases
without waiting, and gives back the memory and the flag.  So it is one change to the
memory, the disk and the outside.  How a check ends is decided by the listing, by the
memory, by the answer to its post and by the disk, in this order.
-/

namespace FlemishDesk
namespace Watch

/-- A world in which no operation is under way. -/
def World.atRest {σ : Type} (memory : Memory) (disk : Storage.Disk) (outside : σ) :
    World σ :=
  ⟨memory, none, false, disk, outside⟩

/-- How a check ends that has an outcome to record, by whether the memory was saved. -/
def recorded (outcome : CheckOutcome) :
    Except Store.Error Unit -> Except CheckError CheckOutcome
  | .ok _ => .ok outcome
  | .error error => .error (.store error)

section Alone

variable {σ : Type} {setup : Setup σ} {tag count : Nat} {force : Bool} {memory : Memory}
  {disk saved : Storage.Disk} {outside : σ} {world : World σ}

attribute [local irreducible] Store.save

/-! ## The phases of a check -/

theorem steps_succ (operation : Operation) :
    steps setup tag (count + 1) operation world =
      steps setup tag count (step setup tag operation world).1
        (step setup tag operation world).2 :=
  rfl

theorem steps_ended (result : Except CheckError CheckOutcome) :
    steps setup tag count (.check force (.ended result)) world =
      (.check force (.ended result), world) := by
  induction count with
  | zero => rfl
  | succ count inductionHypothesis => exact inductionHypothesis

theorem steps_clearing (result : Except CheckError CheckOutcome) :
    steps setup tag (count + 1) (.check force (.clearing result)) world =
      (.check force (.ended result), { world with busy := false }) :=
  steps_ended result

theorem steps_unlocking (result : Except CheckError CheckOutcome) :
    steps setup tag (count + 2) (.check force (.unlocking result)) world =
      (.check force (.ended result), { world with holder := none, busy := false }) :=
  steps_clearing result

/-- A check that has a release to record saves the memory and ends. -/
theorem steps_recording
    {id : Release.Id}
    (outcome : CheckOutcome)
    {result : Except Store.Error Unit}
    (saving : setup.store.save setup.stamp (world.memory.note (some id)) world.disk =
      (result, saved)) :
    steps setup tag (count + 4) (.check force (.recording id outcome)) world =
      (.check force (.ended (recorded outcome result)),
        .atRest (world.memory.note (some id)) saved world.outside) := by
  have noted : { world.memory with lastReleaseId := some id } =
      world.memory.note (some id) := rfl
  rw [steps_succ, steps_succ]
  unfold step checkStep World.save
  dsimp only
  rw [noted, saving]
  cases result with
  | ok _ => exact steps_unlocking (.ok outcome)
  | error error => exact steps_unlocking (.error (.store error))

theorem steps_posting_of_ok
    {latest : Release}
    {post : Announcement.Post}
    (delivered : setup.ports.post post world.outside = (.ok (), outside)) :
    steps setup tag (count + 1) (.check force (.posting latest post)) world =
      steps setup tag count (.check force (.recording latest.id (.posted latest.id)))
        { world with outside := outside } := by
  rw [steps_succ]
  unfold step checkStep
  dsimp only
  rw [post_eq, delivered]

theorem steps_posting_of_error
    {latest : Release}
    {post : Announcement.Post}
    {complaint : Complaint}
    (refused : setup.ports.post post world.outside = (.error complaint, outside)) :
    steps setup tag (count + 3) (.check force (.posting latest post)) world =
      (.check force (.ended (.ok (.postFailed latest.id))),
        .atRest world.memory world.disk outside) := by
  rw [steps_succ]
  unfold step checkStep
  dsimp only
  rw [post_eq, refused]
  exact steps_unlocking (.ok (.postFailed latest.id))

/-- A check that has a release takes the memory and decides. -/
theorem steps_locking (latest : Release) (free : world.holder = none) :
    steps setup tag (count + 2) (.check force (.locking latest)) world =
      steps setup tag count (.check force (settle setup.target force world.memory latest))
        { world with holder := some tag } := by
  have taken : world.take? tag = some { world with holder := some tag } :=
    take?_eq_some_iff.mpr ⟨free, rfl⟩
  rw [steps_succ, steps_succ]
  unfold step checkStep
  dsimp only
  rw [taken]

/-- A check that runs alone sets the flag and asks for the listing. -/
theorem steps_starting :
    steps setup tag (count + 2) (.check force .starting) (.atRest memory disk outside) =
      steps setup tag count
        (.check force (afterFetch setup.target (setup.ports.fetch outside).1))
        ⟨memory, none, true, disk, (setup.ports.fetch outside).2⟩ :=
  rfl

/-! ## How a check ends -/

/-- A listing is there, and it has a latest release. -/
def Setup.Finds (setup : Setup σ) (outside : σ) (latest : Release) (after : σ) : Prop :=
  ∃ releases, setup.ports.fetch outside = (.ok releases, after) ∧
    Release.latest? setup.target.includePrereleases releases = some latest

/-- How a check that runs alone can end, and what it leaves behind. -/
inductive Checked (setup : Setup σ) (force : Bool) (memory : Memory) (disk : Storage.Disk)
    (outside : σ) : Except CheckError CheckOutcome -> World σ -> Prop where
  | unlisted {error after}
      (fetched : setup.ports.fetch outside = (.error error, after)) :
      Checked setup force memory disk outside (.error (.feed error))
        (.atRest memory disk after)
  | noRelease {releases after}
      (fetched : setup.ports.fetch outside = (.ok releases, after))
      (nothing : Release.latest? setup.target.includePrereleases releases = none) :
      Checked setup force memory disk outside (.ok .noRelease) (.atRest memory disk after)
  | upToDate {latest after}
      (found : setup.Finds outside latest after)
      (settled : settle setup.target force memory latest =
        .unlocking (.ok (.upToDate latest.id))) :
      Checked setup force memory disk outside (.ok (.upToDate latest.id))
        (.atRest memory disk after)
  | noted {latest after result saved}
      (found : setup.Finds outside latest after)
      (settled : settle setup.target force memory latest =
        .recording latest.id (.initialized latest.id))
      (saving : setup.store.save setup.stamp (memory.note (some latest.id)) disk =
        (result, saved)) :
      Checked setup force memory disk outside (recorded (.initialized latest.id) result)
        (.atRest (memory.note (some latest.id)) saved after)
  | refused {latest after complaint last}
      (found : setup.Finds outside latest after)
      (settled : settle setup.target force memory latest =
        .posting latest (releasePost memory latest))
      (posting : setup.ports.post (releasePost memory latest) after =
        (.error complaint, last)) :
      Checked setup force memory disk outside (.ok (.postFailed latest.id))
        (.atRest memory disk last)
  | delivered {latest after last result saved}
      (found : setup.Finds outside latest after)
      (settled : settle setup.target force memory latest =
        .posting latest (releasePost memory latest))
      (posting : setup.ports.post (releasePost memory latest) after = (.ok (), last))
      (saving : setup.store.save setup.stamp (memory.note (some latest.id)) disk =
        (result, saved)) :
      Checked setup force memory disk outside (recorded (.posted latest.id) result)
        (.atRest (memory.note (some latest.id)) saved last)

/-- A check notes a release, leaves it alone, or announces it. -/
theorem settle_cases
    (target : Target)
    (force : Bool)
    (memory : Memory)
    (latest : Release) :
    settle target force memory latest = .recording latest.id (.initialized latest.id) ∨
      settle target force memory latest = .unlocking (.ok (.upToDate latest.id)) ∨
      settle target force memory latest =
        .posting latest (releasePost memory latest) := by
  unfold settle
  split
  · exact .inl rfl
  · split
    · exact .inr (.inl rfl)
    · exact .inr (.inr rfl)

/-- Unless it is forced, a check announces only a release that the memory does not
know. -/
theorem not_knows_of_settle_eq_posting
    {target : Target}
    {latest : Release}
    {post : Announcement.Post}
    (settled : settle target false memory latest = .posting latest post) :
    memory.knows latest.id = false := by
  unfold settle at settled
  split at settled
  · nomatch settled
  · split at settled
    · nomatch settled
    · next unknown => simpa using unknown

/-- A check that has found a release while it runs alone. -/
theorem checked_of_finds
    {latest : Release}
    {after : σ}
    (found : setup.Finds outside latest after)
    {operation : Operation}
    {changed : World σ}
    (ran : steps setup tag (count + 5)
      (.check force (settle setup.target force memory latest))
      ⟨memory, some tag, true, disk, after⟩ = (operation, changed)) :
    ∃ result, operation.checkResult? = some result ∧
      Checked setup force memory disk outside result changed := by
  rcases settle_cases setup.target force memory latest with settled | settled | settled
  · rw [settled] at ran
    cases saving : setup.store.save setup.stamp (memory.note (some latest.id)) disk with
    | mk result saved =>
        rw [steps_recording (.initialized latest.id) saving] at ran
        cases ran
        exact ⟨_, rfl, .noted found settled saving⟩
  · rw [settled, steps_unlocking] at ran
    cases ran
    exact ⟨_, rfl, .upToDate found settled⟩
  · rw [settled] at ran
    cases posting : setup.ports.post (releasePost memory latest) after with
    | mk answer last =>
        cases answer with
        | error complaint =>
            rw [steps_posting_of_error posting] at ran
            cases ran
            exact ⟨_, rfl, .refused found settled posting⟩
        | ok _ =>
            rw [steps_posting_of_ok posting] at ran
            cases saving :
              setup.store.save setup.stamp (memory.note (some latest.id)) disk with
            | mk result saved =>
                rw [steps_recording (.posted latest.id) saving] at ran
                cases ran
                exact ⟨_, rfl, .delivered found settled posting saving⟩

/-- A check that runs alone has a result, in one of these ways. -/
theorem check_atRest
    (setup : Setup σ)
    (force : Bool)
    (memory : Memory)
    (disk : Storage.Disk)
    (outside : σ) :
    ∃ result changed,
      check setup force (.atRest memory disk outside) = (some result, changed) ∧
      Checked setup force memory disk outside result changed := by
  unfold check longest
  rw [steps_starting]
  cases fetched : setup.ports.fetch outside with
  | mk result after =>
      cases result with
      | error error => exact ⟨_, _, rfl, .unlisted fetched⟩
      | ok releases =>
          unfold afterFetch
          dsimp only
          split
          · next nothing => exact ⟨_, _, rfl, .noRelease fetched nothing⟩
          · next latest chosen =>
              rw [steps_locking latest rfl]
              obtain ⟨result, ended, checked⟩ :=
                checked_of_finds ⟨releases, fetched, chosen⟩ rfl
              exact ⟨result, _, Prod.ext ended rfl, checked⟩

/-- A check that ended with an announcement has found its release and decided to
announce it. -/
theorem Checked.settle_of_posted
    {result : Except CheckError CheckOutcome}
    {changed : World σ}
    (checked : Checked setup force memory disk outside result changed)
    {id : Release.Id}
    (posted : result = .ok (.posted id)) :
    ∃ latest after, setup.Finds outside latest after ∧ latest.id = id ∧
      settle setup.target force memory latest =
        .posting latest (releasePost memory latest) := by
  cases checked with
  | unlisted _ => nomatch posted
  | noRelease _ _ => nomatch posted
  | upToDate _ _ => nomatch posted
  | refused _ _ _ => nomatch posted
  | @noted _ _ result _ _ _ _ => cases result <;> nomatch posted
  | @delivered latest after _ result _ found settled _ _ =>
      cases result with
      | error error => nomatch posted
      | ok _ =>
          cases posted
          exact ⟨latest, after, found, rfl, settled⟩

/-! ## Switches, announcements by hand and starts -/

/-- A switch that runs alone changes the mention, and tells so when the memory was
saved. -/
theorem toggle_atRest
    {result : Except Store.Error Unit}
    (saving : setup.store.save setup.stamp memory.switch disk = (result, saved))
    (outside : σ) :
    toggle setup (.atRest memory disk outside) =
      (some (result.map fun _ => memory.switch.mentionEveryone),
        .atRest memory.switch saved outside) := by
  have flipped : steps setup 0 longest (.toggle .locking) (.atRest memory disk outside) =
      steps setup 0 7 (.toggle .saving) ⟨memory.switch, some 0, false, disk, outside⟩ :=
        rfl
  unfold toggle
  rw [flipped, steps_succ]
  unfold step toggleStep World.save
  dsimp only
  rw [saving]
  cases result <;> rfl

/-- An announcement by hand that runs alone is delivered with the mention of the
memory. -/
theorem announce_atRest
    (setup : Setup σ)
    (memory : Memory)
    (disk : Storage.Disk)
    (outside : σ)
    (text : String) :
    announce setup text (.atRest memory disk outside) =
      (some (setup.ports.post (manualPost memory.mentionEveryone text) outside).1,
        .atRest memory disk
          (setup.ports.post (manualPost memory.mentionEveryone text) outside).2) :=
  rfl

/-- A watcher that has started is at rest with the memory that the file kept, and has
saved it. -/
theorem start_eq_ok
    (started : start setup disk outside = (.ok world, saved)) :
    world = .atRest (setup.store.kept disk) saved outside ∧
      setup.store.save setup.stamp (setup.store.kept disk) disk = (.ok (), saved) := by
  unfold start Store.load at started
  rw [show setup.store.restore
    (disk.read setup.store.workingDirectory setup.store.path).toOption =
    setup.store.kept disk from rfl] at started
  generalize setup.store.kept disk = kept at started ⊢
  dsimp only at started
  cases saving : setup.store.save setup.stamp kept disk with
  | mk result changed =>
      rw [saving] at started
      cases result with
      | error error => nomatch started
      | ok _ =>
          cases started
          exact ⟨rfl, rfl⟩

end Alone

end Watch
end FlemishDesk
