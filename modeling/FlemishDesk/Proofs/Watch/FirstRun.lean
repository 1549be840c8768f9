import FlemishDesk.Proofs.Watch.Faults
import FlemishDesk.Proofs.Watch.History

/-!
# First runs

A watcher that starts without a release to go by does not announce the first release
that it sees, it takes note of it.  When saving fails, the memory and the file part, and
when the watcher is stopped, the memory is forgotten and the file is all that is left.
But either of them keeps no release at all, or one that a check of the same run has
noted or announced.  So a release is announced only when another one has been seen
before.

This is so as long as what the path of the file holds is there to stay.  Where the path
steps back out of a directory that is missing, a start that fails may make this
directory all the same, and then the path leads to a file that nobody has read before.
-/

namespace FlemishDesk
namespace Watch

/-! ## Runs of a watcher that is stopped and started again -/

deriving instance DecidableEq for Task

/-- What can be told of a watcher. -/
inductive Deed where
  /-- A task was asked of it. -/
  | asked (task : Task)
  /-- A check has found the latest release. -/
  | saw (latest : Release)
  /-- A check has put a first release into the memory without announcing it. -/
  | noted (id : Release.Id)
  /-- A check has handed over the announcement of a release, which was taken or not. -/
  | called (release : Release) (taken : Bool)
deriving DecidableEq

/-- What can be told of a step from one operation to the next. -/
def Operation.deed? : Operation -> Operation -> Option Deed
  | .check _ .fetching, .check _ (.locking latest) => some (.saw latest)
  | .check _ (.posting latest _), .check _ (.recording _ _) => some (.called latest true)
  | .check _ (.posting latest _), _ => some (.called latest false)
  | .check _ (.recording id (.initialized _)), _ => some (.noted id)
  | _, _ => none

/-- A watcher that runs, or the disk of one that has been stopped. -/
inductive Condition (σ : Type) where
  | running (crowd : Crowd σ)
  | stopped (disk : Storage.Disk)

/-- What can happen to a watcher next, and what can be told of it.  Saving may fail in
any way that it can, the watcher may be stopped at any time, also while it saves, and
the listings and the channel may be in any state when it starts again. -/
inductive Happens {σ : Type} (setup : Setup σ) :
    Condition σ -> Option Deed -> Condition σ -> Prop where
  /-- A task is begun. -/
  | launch {crowd} (task : Task) :
      Happens setup (.running crowd) (some (.asked task))
        (.running { crowd with operations := crowd.operations ++ [task.operation] })
  /-- An operation takes one step. -/
  | advance {crowd tag operation next world} (stamp : Stamp)
      (present : crowd.operations[tag]? = some operation)
      (act : Act { setup with stamp := stamp } tag operation crowd.world next world) :
      Happens setup (.running crowd) (operation.deed? next)
        (.running ⟨crowd.operations.set tag next, world⟩)
  /-- The watcher is stopped. -/
  | stop {crowd} : Happens setup (.running crowd) none (.stopped crowd.world.disk)
  /-- The watcher is stopped while it saves. -/
  | stopWhileSaving {crowd stamp phase before left}
      (saves : ∃ operation ∈ crowd.operations, operation.isSaving = true)
      (progress :
        setup.store.Progress stamp crowd.world.memory crowd.world.disk phase before)
      (cutShort : setup.store.CutShort stamp crowd.world.memory phase before left) :
      Happens setup (.running crowd) none (.stopped left)
  /-- The watcher starts again. -/
  | start {disk loaded world} (stamp : Stamp) (outside : σ)
      (started : start { setup with stamp := stamp } disk outside = (.ok world, loaded)) :
      Happens setup (.stopped disk) none (.running ⟨[], world⟩)
  /-- The watcher does not come to start again. -/
  | startInVain {disk stamp phase before left}
      (progress : setup.store.Progress stamp (setup.store.kept disk) disk phase before)
      (cutShort : setup.store.CutShort stamp (setup.store.kept disk) phase before left) :
      Happens setup (.stopped disk) none (.stopped left)

/-- What can be told of a watcher from one condition to another. -/
inductive Run {σ : Type} (setup : Setup σ) (first : Condition σ) :
    List Deed -> Condition σ -> Prop where
  | nothing : Run setup first [] first
  | more {deeds new before after}
      (earlier : Run setup first deeds before)
      (happens : Happens setup before new after) :
      Run setup first (deeds ++ new.toList) after

/-- A watcher that has no release to go by: it has just started, or it is yet to start,
which may fail. -/
inductive Fresh {σ : Type} (setup : Setup σ) : Condition σ -> Prop where
  | started {disk loaded outside world}
      (nothingKept : (setup.store.kept disk).isFirstRun = true)
      (started : start setup disk outside = (.ok world, loaded)) :
      Fresh setup (.running ⟨[], world⟩)
  | unstarted {disk}
      (nothingKept : (setup.store.kept disk).isFirstRun = true) :
      Fresh setup (.stopped disk)

/-- What the path holds is there to stay if the watcher is yet to start.  One that has
started has a file. -/
def Condition.Lasting {σ : Type} (store : Store) : Condition σ -> Prop
  | .running _ => True
  | .stopped disk => store.Lasting disk

/-- What can be told of a sequence of moves. -/
def Crowd.deeds {σ : Type} (setup : Setup σ) : Crowd σ -> List Move -> List Deed
  | _, [] => []
  | crowd, .launch task :: moves =>
      .asked task :: Crowd.deeds setup (crowd.next setup (.launch task)) moves
  | crowd, .advance tag stamp :: moves =>
      (crowd.operations[tag]?.bind fun operation =>
        operation.deed?
          (step { setup with stamp := stamp } tag operation crowd.world).1).toList ++
          Crowd.deeds setup (crowd.next setup (.advance tag stamp)) moves

/-! ## What deeds are founded on -/

/-- A release was noted, or its announcement was taken. -/
def Settled (deeds : List Deed) (id : Release.Id) : Prop :=
  .noted id ∈ deeds ∨ ∃ release, release.id = id ∧ .called release true ∈ deeds

/-- A release was seen, and another one was settled. -/
def Supersedes (deeds : List Deed) (release : Release) : Prop :=
  .saw release ∈ deeds ∧ ∃ id, Settled deeds id ∧ id.sameAs release.id = false

/-- What must have been done before a deed: what is noted was seen, and what is
announced supersedes another release. -/
def Deed.Warranted (deeds : List Deed) : Deed -> Prop
  | .noted id => ∃ latest, .saw latest ∈ deeds ∧ latest.id = id
  | .called release _ => Supersedes deeds release
  | _ => True

/-- Every deed is warranted by those before it. -/
def AllWarranted (deeds : List Deed) : Prop :=
  ∀ before deed behind, deeds = before ++ deed :: behind -> deed.Warranted before

/-- A memory of the channel keeps no release, or one that was settled. -/
structure Grounded (store : Store) (deeds : List Deed) (memory : Memory) : Prop where
  ofChannel : memory.channelId = store.channelId
  settled : memory.isFirstRun = true ∨ ∃ id, memory.lastReleaseId = some id ∧
    Settled deeds id

/-- The file keeps such a memory, until it is replaced. -/
structure Keeps (store : Store) (deeds : List Deed) (disk : Storage.Disk) : Prop where
  grounded : Grounded store deeds (store.kept disk)
  lasting : store.Lasting disk

/-- A check is not forced, and it goes by what was done before. -/
def Operation.Founded (deeds : List Deed) : Operation -> Prop
  | .check force (.locking latest) => force = false ∧ .saw latest ∈ deeds
  | .check force (.deciding latest) => force = false ∧ .saw latest ∈ deeds
  | .check force (.posting latest _) => force = false ∧ Supersedes deeds latest
  | .check force (.recording id outcome) => force = false ∧
      (outcome = .initialized id ∧ (∃ latest, .saw latest ∈ deeds ∧ latest.id = id) ∨
        outcome = .posted id ∧ Settled deeds id)
  | .check force _ => force = false
  | _ => True

/-- The memory, the file and the operations go by what was done before. -/
def Condition.Founded {σ : Type} (store : Store) (deeds : List Deed) : Condition σ -> Prop
  | .running crowd => Grounded store deeds crowd.world.memory ∧
      Keeps store deeds crowd.world.disk ∧
        ∀ operation ∈ crowd.operations, operation.Founded deeds
  | .stopped disk => Keeps store deeds disk

section FirstRun

variable {σ : Type} {setup : Setup σ} {store : Store} {stamp : Stamp}
  {deeds more : List Deed}
  {new : Option Deed} {id : Release.Id} {release : Release} {memory : Memory}
  {disk before left : Storage.Disk} {phase : Store.SavePhase} {operation next : Operation}
  {world changed : World σ} {tag : Nat}

attribute [local irreducible] Store.save

/-! ## More deeds -/

theorem Settled.mono (settled : Settled deeds id) (included : deeds ⊆ more) :
    Settled more id := by
  rcases settled with noted | ⟨release, isId, called⟩
  · exact .inl (included noted)
  · exact .inr ⟨release, isId, included called⟩

theorem Supersedes.mono
    (supersedes : Supersedes deeds release)
    (included : deeds ⊆ more) :
    Supersedes more release := by
  obtain ⟨seen, id, settled, different⟩ := supersedes
  exact ⟨included seen, id, settled.mono included, different⟩

theorem Grounded.mono (grounded : Grounded store deeds memory) (included : deeds ⊆ more) :
    Grounded store more memory := by
  refine ⟨grounded.ofChannel, ?_⟩
  rcases grounded.settled with first | ⟨id, last, settled⟩
  · exact .inl first
  · exact .inr ⟨id, last, settled.mono included⟩

theorem Keeps.mono (keeps : Keeps store deeds disk) (included : deeds ⊆ more) :
    Keeps store more disk :=
  ⟨keeps.grounded.mono included, keeps.lasting⟩

/-- A file that holds the text of such a memory keeps it. -/
theorem Grounded.keeps
    (grounded : Grounded store deeds memory)
    (stored : disk.read store.workingDirectory store.path =
      .ok (Text.Utf8.bytes memory.fileText)) :
    Keeps store deeds disk := by
  refine ⟨?_, .inl ⟨_, stored⟩⟩
  rwa [Store.kept_of_read grounded.ofChannel stored]

theorem Operation.Founded.mono
    (founded : operation.Founded deeds)
    (included : deeds ⊆ more) :
    operation.Founded more := by
  unfold Operation.Founded at founded ⊢
  split at founded
  · exact ⟨founded.1, included founded.2⟩
  · exact ⟨founded.1, included founded.2⟩
  · exact ⟨founded.1, founded.2.mono included⟩
  · refine ⟨founded.1, ?_⟩
    rcases founded.2 with ⟨isFirst, latest, seen, isId⟩ | ⟨isPosted, settled⟩
    · exact .inl ⟨isFirst, latest, included seen, isId⟩
    · exact .inr ⟨isPosted, settled.mono included⟩
  · exact founded
  · exact founded

theorem AllWarranted.append
    (allWarranted : AllWarranted deeds)
    (warranted : ∀ deed ∈ new, deed.Warranted deeds) :
    AllWarranted (deeds ++ new.toList) := by
  cases new with
  | none =>
      rw [Option.toList_none, List.append_nil]
      exact allWarranted
  | some last =>
      intro before deed behind split
      -- The deed is the last one, or it has its place among the others.
      rcases List.eq_nil_or_concat behind with rfl | ⟨others, final, rfl⟩
      · obtain ⟨rfl, isLast⟩ := List.append_inj' split rfl
        obtain rfl := List.singleton_inj.mp isLast
        exact warranted last rfl
      · rw [List.concat_eq_append, ← List.cons_append, ← List.append_assoc] at split
        exact allWarranted before deed others (List.append_inj' split rfl).1

/-! ## Steps -/

/-- What a step leaves to go by. -/
structure Follows (store : Store) (deeds : List Deed) (operation next : Operation)
    (changed : World σ) : Prop where
  warranted : ∀ deed ∈ operation.deed? next, deed.Warranted deeds
  founded : next.Founded (deeds ++ (operation.deed? next).toList)
  grounded : Grounded store (deeds ++ (operation.deed? next).toList) changed.memory
  keeps : Keeps store (deeds ++ (operation.deed? next).toList) changed.disk

/-- A step of which nothing can be told. -/
theorem Follows.of_none
    (isNone : operation.deed? next = none)
    (founded : next.Founded deeds)
    (grounded : Grounded store deeds changed.memory)
    (keeps : Keeps store deeds changed.disk) :
    Follows store deeds operation next changed := by
  constructor <;> rw [isNone]
  · intro deed present
    exact absurd present (Option.not_mem_none deed)
  · rwa [Option.toList_none, List.append_nil]
  · rwa [Option.toList_none, List.append_nil]
  · rwa [Option.toList_none, List.append_nil]

/-- A step that leaves the memory and the file alone. -/
theorem Follows.of_some
    {deed : Deed}
    (isDeed : operation.deed? next = some deed)
    (warranted : deed.Warranted deeds)
    (founded : next.Founded (deeds ++ [deed]))
    (grounded : Grounded store (deeds ++ [deed]) changed.memory)
    (keeps : Keeps store deeds changed.disk) :
    Follows store deeds operation next changed := by
  constructor <;> rw [isDeed]
  · rintro _ ⟨⟩
    exact warranted
  · exact founded
  · exact grounded
  · exact keeps.mono (List.subset_append_left _ _)

/-- Saving that is cut short leaves a file that goes by what was done. -/
theorem Keeps.cutShort
    (keeps : Keeps store deeds disk)
    (grounded : Grounded store deeds memory)
    (progress : store.Progress stamp memory disk phase before)
    (cutShort : store.CutShort stamp memory phase before left) :
    Keeps store deeds left := by
  rcases progress.lasting cutShort keeps.lasting with ⟨same, lasting⟩ | stored
  · refine ⟨?_, lasting⟩
    rw [Store.kept_congr same]
    exact keeps.grounded
  · exact grounded.keeps stored

/-- A release that is to be announced supersedes the one in the memory. -/
theorem Grounded.supersedes
    {target : Target}
    (grounded : Grounded store deeds memory)
    (quiet : target.announceOnStart = false)
    (seen : .saw release ∈ deeds)
    (settled : settle target false memory release =
      .posting release (releasePost memory release)) :
    Supersedes deeds release := by
  refine ⟨seen, ?_⟩
  have unknown := not_knows_of_settle_eq_posting settled
  rcases grounded.settled with first | ⟨id, last, isSettled⟩
  · unfold settle at settled
    rw [first, quiet] at settled
    nomatch settled
  · refine ⟨id, isSettled, ?_⟩
    rw [Memory.knows, last] at unknown
    exact unknown

/-- A check that has asked for the listing has found the latest release, or ends. -/
theorem follows_afterFetch
    (target : Target)
    (result : Except Release.Feed.Error (List Release))
    (grounded : Grounded store deeds changed.memory)
    (keeps : Keeps store deeds changed.disk) :
    Follows store deeds (.check false .fetching) (.check false (afterFetch target result))
      changed := by
  unfold afterFetch
  split
  · exact .of_none rfl rfl grounded keeps
  · split
    · exact .of_none rfl rfl grounded keeps
    · exact .of_some rfl trivial ⟨rfl, List.mem_concat_self⟩
        (grounded.mono (List.subset_append_left _ _)) keeps

/-- A check that decides notes a release that it has seen, or announces one that
supersedes another. -/
theorem follows_settle
    {target : Target}
    (quiet : target.announceOnStart = false)
    (seen : .saw release ∈ deeds)
    (grounded : Grounded store deeds world.memory)
    (keeps : Keeps store deeds world.disk) :
    Follows store deeds (.check false (.deciding release))
      (.check false (settle target false world.memory release)) world := by
  rcases settle_cases target false world.memory release with settled | settled | settled
  · rw [settled]
    exact .of_none rfl ⟨rfl, .inl ⟨rfl, release, seen, rfl⟩⟩ grounded keeps
  · rw [settled]
    exact .of_none rfl rfl grounded keeps
  · rw [settled]
    exact .of_none rfl ⟨rfl, grounded.supersedes quiet seen settled⟩ grounded keeps

/-- What a check puts into the memory is settled by then. -/
theorem follows_record
    {outcome : CheckOutcome}
    (founded : (Operation.check false (.recording id outcome)).Founded deeds)
    (grounded : Grounded store deeds world.memory)
    (keeps : Keeps store deeds world.disk) :
    Follows store deeds (.check false (.recording id outcome))
      (.check false (.saving outcome))
      { world with memory := { world.memory with lastReleaseId := some id } } := by
  rcases founded.2 with ⟨rfl, seen⟩ | ⟨rfl, settled⟩
  · exact .of_some rfl seen rfl
      ⟨grounded.ofChannel, .inr ⟨id, rfl, .inl List.mem_concat_self⟩⟩ keeps
  · exact .of_none rfl rfl ⟨grounded.ofChannel, .inr ⟨id, rfl, settled⟩⟩ keeps

theorem Transition.follows
    (transition : Transition setup tag operation world next changed)
    (quiet : setup.target.announceOnStart = false)
    (other : operation.isSaving = false)
    (founded : operation.Founded deeds)
    (grounded : Grounded setup.store deeds world.memory)
    (keeps : Keeps setup.store deeds world.disk) :
    Follows setup.store deeds operation next changed := by
  cases transition with
  | stay still =>
      refine .of_none ?_ founded grounded keeps
      unfold Operation.mayStay at still
      split at still <;> trivial
  | refuse _ => exact .of_none rfl founded grounded keeps
  | raise _ => exact .of_none rfl founded grounded keeps
  | fetch =>
      obtain rfl : _ = false := founded
      exact follows_afterFetch _ _ grounded keeps
  | takeForCheck _ => exact .of_none rfl founded grounded keeps
  | decide =>
      obtain ⟨rfl, seen⟩ := founded
      exact follows_settle quiet seen grounded keeps
  | deliver =>
      obtain ⟨rfl, supersedes⟩ := founded
      exact .of_some rfl supersedes
        ⟨rfl, .inr ⟨rfl, .inr ⟨_, rfl, List.mem_concat_self⟩⟩⟩
        (grounded.mono (List.subset_append_left _ _)) keeps
  | deliverInVain =>
      obtain ⟨rfl, supersedes⟩ := founded
      exact .of_some rfl supersedes rfl (grounded.mono (List.subset_append_left _ _))
        keeps
  | record =>
      obtain rfl : _ = false := founded.1
      exact follows_record founded grounded keeps
  | saveForCheck _ => nomatch other
  | saveForCheckInVain _ => nomatch other
  | giveBackForCheck => exact .of_none rfl founded grounded keeps
  | clear => exact .of_none rfl founded grounded keeps
  | flip =>
      exact .of_none rfl founded ⟨grounded.ofChannel, grounded.settled⟩ keeps
  | saveForToggle _ => nomatch other
  | saveForToggleInVain _ => nomatch other
  | _ => exact .of_none rfl trivial grounded keeps

/-- However saving ends, a step goes by what was done before. -/
theorem Act.follows
    (act : Act setup tag operation world next changed)
    (quiet : setup.target.announceOnStart = false)
    (founded : operation.Founded deeds)
    (grounded : Grounded setup.store deeds world.memory)
    (keeps : Keeps setup.store deeds world.disk) :
    Follows setup.store deeds operation next changed := by
  cases act with
  | plain other =>
      exact (step_transition setup tag operation world).follows quiet other founded
        grounded keeps
  | saveForCheck progress =>
      exact .of_none rfl founded grounded (keeps.cutShort grounded progress (Or.inl rfl))
  | saveForToggle progress =>
      exact .of_none rfl trivial grounded (keeps.cutShort grounded progress (Or.inl rfl))

/-! ## Whole runs -/

variable {first last : Condition σ}

/-- A watcher that has started has the memory that the file kept, and the file keeps it
still. -/
theorem founded_of_start
    {loaded : Storage.Disk}
    {outside : σ}
    (started : start setup disk outside = (.ok world, loaded))
    (grounded : Grounded setup.store deeds (setup.store.kept disk)) :
    (Condition.running ⟨[], world⟩).Founded setup.store deeds := by
  obtain ⟨rfl, saved⟩ := start_eq_ok started
  exact ⟨grounded, grounded.keeps (Store.read_of_save saved), List.forall_mem_nil _⟩

/-- Whatever happens goes by what was done before, unless a check is forced. -/
theorem Happens.founded
    (happens : Happens setup first new last)
    (quiet : setup.target.announceOnStart = false)
    (unforced : new ≠ some (.asked (.check true)))
    (founded : first.Founded setup.store deeds) :
    (∀ deed ∈ new, deed.Warranted deeds) ∧
      last.Founded setup.store (deeds ++ new.toList) := by
  have included : deeds ⊆ deeds ++ new.toList := List.subset_append_left _ _
  have noDeed : ∀ deed ∈ none, Deed.Warranted deeds deed := fun deed present =>
    absurd present (Option.not_mem_none deed)
  cases happens with
  | launch task =>
      obtain ⟨grounded, keeps, operations⟩ := founded
      refine ⟨?_, grounded.mono included, keeps.mono included, ?_⟩
      · rintro _ ⟨⟩
        trivial
      · intro operation present
        rcases List.mem_append.mp present with old | isNew
        · exact (operations operation old).mono included
        · obtain rfl := List.mem_singleton.mp isNew
          match task with
          | .check false => rfl
          | .check true => exact absurd rfl unforced
          | .toggle => trivial
          | .announce _ => trivial
  | advance stamp present act =>
      obtain ⟨grounded, keeps, operations⟩ := founded
      have follows :=
        act.follows quiet (operations _ (List.mem_of_getElem? present)) grounded keeps
      refine ⟨follows.warranted, follows.grounded, follows.keeps, ?_⟩
      intro operation present
      rcases List.mem_or_eq_of_mem_set present with old | rfl
      · exact (operations operation old).mono included
      · exact follows.founded
  | stop => exact ⟨noDeed, founded.2.1.mono included⟩
  | stopWhileSaving _ progress cutShort =>
      exact ⟨noDeed, (founded.2.1.cutShort founded.1 progress cutShort).mono included⟩
  | start stamp outside started =>
      have grounded := founded.grounded.mono included
      have running := founded_of_start started grounded
      exact ⟨noDeed, running⟩
  | startInVain progress cutShort =>
      have keeps := Keeps.cutShort founded founded.grounded progress cutShort
      exact ⟨noDeed, keeps.mono included⟩

theorem Run.founded
    (run : Run setup first deeds last)
    (quiet : setup.target.announceOnStart = false)
    (unforced : .asked (.check true) ∉ deeds)
    (founded : first.Founded setup.store []) :
    AllWarranted deeds ∧ last.Founded setup.store deeds := by
  induction run with
  | nothing =>
      refine ⟨?_, founded⟩
      intro before deed behind split
      exact absurd split.symm
        (List.append_ne_nil_of_right_ne_nil _ (List.cons_ne_nil _ _))
  | more _ happens inductionHypothesis =>
      obtain ⟨allWarranted, foundedBefore⟩ := inductionHypothesis fun forced =>
        unforced (List.mem_append_left _ forced)
      have unforcedNow : _ ≠ some (Deed.asked (.check true)) := fun isForced =>
        unforced (List.mem_append_right _ (Option.mem_toList.mpr isForced))
      obtain ⟨warranted, foundedAfter⟩ := happens.founded quiet unforcedNow foundedBefore
      exact ⟨allWarranted.append warranted, foundedAfter⟩

theorem Crowd.after_cons
    (setup : Setup σ)
    (crowd : Crowd σ)
    (move : Move)
    (moves : List Move) :
    crowd.after setup (move :: moves) = (crowd.next setup move).after setup moves :=
  rfl

/-- A sequence of moves is part of a run. -/
theorem Run.after
    {crowd : Crowd σ}
    (run : Run setup first deeds (.running crowd))
    (moves : List Move) :
    Run setup first (deeds ++ crowd.deeds setup moves)
      (.running (crowd.after setup moves)) := by
  induction moves generalizing crowd deeds with
  | nil =>
      rw [Crowd.deeds, List.append_nil]
      exact run
  | cons move moves inductionHypothesis =>
      rw [Crowd.after_cons]
      cases move with
      | launch task =>
          rw [Crowd.deeds, List.append_cons]
          exact inductionHypothesis (run.more (.launch task))
      | advance tag stamp =>
          rw [Crowd.deeds, ← List.append_assoc]
          apply inductionHypothesis
          cases present : crowd.operations[tag]? with
          | none =>
              have unmoved : crowd.next setup (.advance tag stamp) = crowd := by
                simp only [Crowd.next, present]
              rw [unmoved, Option.bind_none, Option.toList_none, List.append_nil]
              exact run
          | some operation =>
              rw [Crowd.next_advance present, Option.bind_some]
              exact run.more
                (.advance stamp present (act_step _ tag operation crowd.world))

/-- Whatever was settled was seen. -/
theorem AllWarranted.seen
    (allWarranted : AllWarranted deeds)
    (settled : Settled deeds id) :
    ∃ latest, .saw latest ∈ deeds ∧ latest.id = id := by
  rcases settled with noted | ⟨release, isId, called⟩
  · obtain ⟨before, behind, rfl⟩ := List.append_of_mem noted
    obtain ⟨latest, seen, isId⟩ := allWarranted _ _ _ rfl
    exact ⟨latest, List.mem_append_left _ seen, isId⟩
  · obtain ⟨before, behind, rfl⟩ := List.append_of_mem called
    obtain ⟨seen, _⟩ := allWarranted _ _ _ rfl
    exact ⟨release, List.mem_append_left _ seen, isId⟩

theorem Fresh.founded (fresh : Fresh setup first) (lasting : first.Lasting setup.store) :
    first.Founded setup.store [] := by
  cases fresh with
  | started nothingKept started =>
      exact founded_of_start started ⟨Store.channelId_restore _ _, .inl nothingKept⟩
  | unstarted nothingKept =>
      exact ⟨⟨Store.channelId_restore _ _, .inl nothingKept⟩, lasting⟩

end FirstRun

/-! ## A run in which the memory and the file part -/

section Parting

end Parting

/-! ## A path that steps back out of a missing directory -/

section SteppingBack

end SteppingBack

end Watch
end FlemishDesk
