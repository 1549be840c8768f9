import FlemishDesk.Proofs.Watch.Transition
import FlemishDesk.Watch.Watcher

/-!
# Operations that run at the same time

Any number of operations is begun, and their steps are taken in any order.  The flag
admits one check at a time, and the memory is held by one operation at a time.  What the
operation that holds the memory has changed is seen by the others when it gives the
memory back.  Whenever nobody holds the memory the file keeps it, with every release
that was settled and every switch that was made.
-/

namespace FlemishDesk
namespace Watch

namespace Memory

/-- What an initial memory has become after releases were settled, one after another,
and the mention was switched a number of times. -/
def evolved (initial : Memory) (settled : List Release.Id) (switches : Nat) : Memory where
  lastReleaseId := settled.getLast?.or initial.lastReleaseId
  channelId := initial.channelId
  mentionEveryone := Nat.repeat not switches initial.mentionEveryone

theorem evolved_settle
    (initial : Memory)
    (settled : List Release.Id)
    (switches : Nat)
    (id : Option Release.Id) :
    initial.evolved (settled ++ id.toList) switches =
      (initial.evolved settled switches).note id := by
  cases id with
  | none => simp [evolved, note]
  | some id => simp [evolved, note]

theorem evolved_switch
    (initial : Memory)
    (settled : List Release.Id)
    (switches : Nat) :
    initial.evolved settled (switches + 1) = (initial.evolved settled switches).switch :=
  rfl

end Memory

/-! ## Runs of a crowd of operations -/

/-- What can be asked of the watcher. -/
inductive Task where
  /-- Check for a new release. -/
  | check (force : Bool)
  /-- Switch the mention of everyone. -/
  | toggle
  /-- Announce a text by hand. -/
  | announce (text : String)

/-- The operation of a task that has not begun. -/
def Task.operation : Task -> Operation
  | .check force => .check force .starting
  | .toggle => .toggle .locking
  | .announce text => .announce text .locking

/-- Operations, which go by their positions, and what they share. -/
structure Crowd (σ : Type) where
  /-- The operations that were begun. -/
  operations : List Operation
  /-- What the operations share. -/
  world : World σ

/-- What happens next in a crowd. -/
inductive Move where
  /-- A task is begun. -/
  | launch (task : Task)
  /-- An operation takes one step, with what makes temporary files unique meanwhile. -/
  | advance (tag : Nat) (stamp : Stamp)

namespace Crowd

variable {σ : Type}

/-- The operation that a move advances. -/
def acting? (crowd : Crowd σ) : Move -> Option Operation
  | .launch _ => none
  | .advance tag _ => crowd.operations[tag]?

/-- The crowd after a move. -/
def next (setup : Setup σ) (crowd : Crowd σ) : Move -> Crowd σ
  | .launch task => { crowd with operations := crowd.operations ++ [task.operation] }
  | .advance tag stamp =>
      match crowd.operations[tag]? with
      | none => crowd
      | some operation =>
          let (operation, world) :=
            step { setup with stamp := stamp } tag operation crowd.world
          ⟨crowd.operations.set tag operation, world⟩

/-- The crowd after a sequence of moves. -/
def after (setup : Setup σ) (crowd : Crowd σ) (moves : List Move) : Crowd σ :=
  moves.foldl (next setup) crowd

/-- What is seen of the operations that a sequence of moves advances. -/
def seen {α : Type} (setup : Setup σ) (view : Operation -> Option α) :
    Crowd σ -> List Move -> List α
  | _, [] => []
  | crowd, move :: moves =>
      ((crowd.acting? move).bind view).toList ++
        seen setup view (crowd.next setup move) moves

/-- What a move saves, if anything, is saved successfully. -/
def saveSucceeds (setup : Setup σ) (crowd : Crowd σ) : Move -> Bool
  | .launch _ => true
  | .advance tag stamp =>
      crowd.operations[tag]?.all fun operation =>
        !operation.isSaving || (crowd.world.save { setup with stamp := stamp }).1.isOk

/-- Whatever a sequence of moves saves is saved successfully. -/
def savesSucceed (setup : Setup σ) : Crowd σ -> List Move -> Bool
  | _, [] => true
  | crowd, move :: moves =>
      crowd.saveSucceeds setup move && savesSucceed setup (crowd.next setup move) moves

/-- The number of switches that have ended. -/
def switches (crowd : Crowd σ) : Nat :=
  crowd.operations.countP Operation.isSwitched

end Crowd

/-! ## What a run does -/

namespace Crowd

variable {σ : Type} {setup : Setup σ} {store : Store} {initial : Memory}
  {settled ended : List Release.Id} {checker : Option Nat} {crowd : Crowd σ} {tag : Nat}
  {stamp : Stamp} {operation : Operation}

/-- The flag and the memory of a crowd have their owners.  The checks have ended with
the releases that were settled, apart from one that has yet to clear the flag, and the
memory has evolved by what was settled and switched. -/
structure Consistent (store : Store) (initial : Memory) (settled ended : List Release.Id)
    (checker : Option Nat) (crowd : Crowd σ) : Prop where
  flagged : crowd.world.busy = checker.isSome
  checking : Guarded Operation.isChecking checker crowd.operations
    (fun operation => settled = ended ++ operation.ending?.toList)
  holding : Guarded Operation.holds crowd.world.holder crowd.operations
    (fun operation =>
      Coherent store (initial.evolved settled crowd.switches) operation crowd.world)

theorem next_advance (present : crowd.operations[tag]? = some operation) :
    crowd.next setup (.advance tag stamp) =
      ⟨crowd.operations.set tag
          (step { setup with stamp := stamp } tag operation crowd.world).1,
        (step { setup with stamp := stamp } tag operation crowd.world).2⟩ := by
  simp only [next, present]

theorem switches_launch (task : Task) :
    (crowd.next setup (.launch task)).switches = crowd.switches := by
  cases task <;> simp [switches, next, Task.operation, Operation.isSwitched]

/-- The switches that have ended are counted as they give the memory back. -/
theorem switches_advance (present : crowd.operations[tag]? = some operation) :
    (crowd.next setup (.advance tag stamp)).switches =
      crowd.switches + operation.isSwitching.toNat := by
  obtain ⟨bound, here⟩ := List.getElem?_eq_some_iff.mp present
  have switched :=
    (step_transition { setup with stamp := stamp } tag operation crowd.world).isSwitched
  rw [next_advance present]
  unfold switches
  dsimp only
  rw [List.countP_set bound, here, switched]
  cases hasSwitched : operation.isSwitched with
  | false => cases operation.isSwitching <;> simp
  | true =>
      have notSwitching : operation.isSwitching = false := by
        unfold Operation.isSwitched at hasSwitched
        split at hasSwitched <;> trivial
      have counted : 0 < crowd.operations.countP Operation.isSwitched :=
        List.countP_pos_iff.mpr ⟨operation, List.mem_of_getElem? present, hasSwitched⟩
      simp only [notSwitching, Bool.or_false, if_true, Bool.toNat_false]
      omega

theorem published_evolved (operation : Operation) (switches : Nat) :
    operation.published (initial.evolved settled switches) =
      initial.evolved (settled ++ operation.settling?.toList)
        (switches + operation.isSwitching.toNat) := by
  unfold Operation.published
  rw [← Memory.evolved_settle]
  cases operation.isSwitching with
  | false => rfl
  | true => exact (Memory.evolved_switch initial _ switches).symm

namespace Consistent

theorem launch
    (consistent : Consistent store initial settled ended checker crowd)
    (task : Task) :
    Consistent store initial settled ended checker (crowd.next setup (.launch task)) := by
  refine ⟨consistent.flagged, ?_, ?_⟩
  · refine consistent.checking.append ?_
    cases task <;> rfl
  · rw [switches_launch]
    refine consistent.holding.append ?_
    cases task <;> rfl

theorem advance
    (consistent : Consistent setup.store initial settled ended checker crowd)
    (present : crowd.operations[tag]? = some operation)
    (saved : operation.isSaving = true ->
      (crowd.world.save { setup with stamp := stamp }).1.isOk = true) :
    ∃ follower, Consistent setup.store initial (settled ++ operation.settling?.toList)
      (ended ++ operation.ending?.toList) follower
        (crowd.next setup (.advance tag stamp)) := by
  have transition :=
    step_transition { setup with stamp := stamp } tag operation crowd.world
  obtain ⟨follower, flagged, flagHandover⟩ := transition.flag consistent.flagged
  refine ⟨follower, ?_, ?_, ?_⟩
  · rw [next_advance present]
    exact flagged
  · rw [next_advance present]
    refine consistent.checking.set present flagHandover ?_ ?_ ?_
    · intro pending
      rw [transition.ending?, pending]
    · intro notChecking pending other otherNotChecking
      rw [(views_of_not_isChecking notChecking).2] at pending
      rw [(views_of_not_isChecking otherNotChecking).2]
      exact pending
    · intro notChecking other pending
      obtain ⟨settlesNone, endsNone⟩ := views_of_not_isChecking notChecking
      rw [settlesNone, endsNone, Option.toList_none, List.append_nil, List.append_nil]
      exact pending
  · rw [switches_advance present, ← published_evolved, next_advance present]
    refine consistent.holding.set present transition.holder ?_ ?_ ?_
    · intro coherent
      exact transition.coherent coherent saved
    · intro notHolding coherent other otherNotHolding
      exact coherent.of_not_holds notHolding otherNotHolding
    · intro notHolding other coherent
      obtain ⟨memory, disk⟩ := transition.frame notHolding
      rw [((views_of_not_holds notHolding).2.2 _).2]
      exact coherent.of_frame memory disk

/-- One move keeps a crowd consistent, provided that what it saves is saved. -/
theorem next
    (consistent : Consistent setup.store initial settled ended checker crowd)
    (move : Move)
    (saved : crowd.saveSucceeds setup move = true) :
    ∃ follower, Consistent setup.store initial
      (settled ++ ((crowd.acting? move).bind Operation.settling?).toList)
      (ended ++ ((crowd.acting? move).bind Operation.ending?).toList)
      follower (crowd.next setup move) := by
  cases move with
  | launch task =>
      refine ⟨checker, ?_⟩
      simp only [acting?, Option.bind_none, Option.toList_none, List.append_nil]
      exact consistent.launch task
  | advance tag stamp =>
      simp only [acting?, saveSucceeds] at saved ⊢
      cases present : crowd.operations[tag]? with
      | none =>
          refine ⟨checker, ?_⟩
          simp only [Crowd.next, present, Option.bind_none, Option.toList_none,
            List.append_nil]
          exact consistent
      | some operation =>
          refine consistent.advance present ?_
          intro saving
          simpa [present, saving] using saved

/-- A run keeps a crowd consistent, provided that what it saves is saved. -/
theorem after
    (consistent : Consistent setup.store initial settled ended checker crowd)
    (moves : List Move)
    (saved : crowd.savesSucceed setup moves = true) :
    ∃ follower, Consistent setup.store initial
      (settled ++ crowd.seen setup Operation.settling? moves)
      (ended ++ crowd.seen setup Operation.ending? moves) follower
        (crowd.after setup moves) := by
  induction moves generalizing crowd settled ended checker with
  | nil =>
      refine ⟨checker, ?_⟩
      simp only [seen, List.append_nil]
      exact consistent
  | cons move moves inductionHypothesis =>
      obtain ⟨first, rest⟩ := Bool.and_eq_true_iff.mp saved
      obtain ⟨follower, consistentNext⟩ := consistent.next move first
      obtain ⟨last, consistentLast⟩ := inductionHypothesis consistentNext rest
      refine ⟨last, ?_⟩
      simp only [seen, ← List.append_assoc]
      exact consistentLast

/-- A watcher that has just started is consistent. -/
theorem start
    {disk loaded : Storage.Disk}
    {outside : σ}
    {world : World σ}
    (started : Watch.start setup disk outside = (.ok world, loaded)) :
    Consistent setup.store world.memory [] [] none ⟨[], world⟩ := by
  unfold Watch.start at started
  cases loading : setup.store.load setup.stamp disk with
  | mk result loaded =>
      rw [loading] at started
      cases result with
      | error error => exact absurd (Prod.mk.inj started).1 (by simp)
      | ok memory =>
          obtain rfl := Except.ok.inj (Prod.mk.inj started).1
          obtain ⟨ofChannel, stored⟩ := Store.read_of_load loading
          refine ⟨rfl, .nil ?_, .nil ?_⟩
          · intro operation notChecking
            rw [(views_of_not_isChecking notChecking).2]
            rfl
          · intro operation notHolding
            obtain ⟨sound, _, unchanged⟩ := views_of_not_holds notHolding
            exact ⟨sound, ofChannel, ((unchanged memory).1).symm, fun _ => stored⟩

end Consistent

/-- The operations of a crowd keep out of each other's way, and the memory is what they
have made of an initial one.  The checks have settled some releases by giving the memory
back, and have ended with some of them by clearing the flag. -/
structure Orderly (setup : Setup σ) (initial : Memory) (settled ended : List Release.Id)
    (crowd : Crowd σ) : Prop where
  /-- At most one check is under way. -/
  exclusive : ∀ (one other : Nat) (first second : Operation),
    crowd.operations[one]? = some first -> crowd.operations[other]? = some second ->
    first.isChecking = true -> second.isChecking = true -> one = other
  /-- The flag says whether a check is under way. -/
  flag : crowd.world.busy = true <->
    ∃ operation ∈ crowd.operations, operation.isChecking = true
  /-- A check that is begun meanwhile ends at once, and leaves everything as it is. -/
  refused : ∀ (tag : Nat) (stamp : Stamp) (force : Bool), crowd.world.busy = true ->
    crowd.operations[tag]? = some (.check force .starting) ->
    crowd.next setup (.advance tag stamp) =
      ⟨crowd.operations.set tag (.check force (.ended (.ok .busy))), crowd.world⟩
  /-- When nobody holds the memory, the file holds its text. -/
  stored : crowd.world.holder = none ->
    crowd.world.disk.read setup.store.workingDirectory setup.store.path =
      .ok (Text.Utf8.bytes crowd.world.memory.fileText)
  /-- When nobody holds the memory, the file keeps it. -/
  kept : crowd.world.holder = none ->
    setup.store.kept crowd.world.disk = crowd.world.memory
  /-- When nobody holds the memory, the mention has been switched once for every switch
  that has ended. -/
  mention : crowd.world.holder = none ->
    crowd.world.memory.mentionEveryone =
      Nat.repeat not (crowd.operations.countP Operation.isSwitched)
        initial.mentionEveryone
  /-- When nobody holds the memory, the last release is the one that was settled
  last. -/
  last : crowd.world.holder = none ->
    crowd.world.memory.lastReleaseId = settled.getLast?.or initial.lastReleaseId
  /-- When nobody holds the memory, the channel is the initial one. -/
  channel : crowd.world.holder = none ->
    crowd.world.memory.channelId = initial.channelId
  /-- When no check is under way, checks have ended with all releases that were
  settled. -/
  concluded : crowd.world.busy = false -> settled = ended
  /-- A check that is under way has ended with all of them but its own. -/
  concluding : ∀ operation ∈ crowd.operations, operation.isChecking = true ->
    settled = ended ++ operation.ending?.toList

theorem Consistent.orderly
    (consistent : Consistent setup.store initial settled ended checker crowd) :
    Orderly setup initial settled ended crowd := by
  have flag : crowd.world.busy = true <->
      ∃ operation ∈ crowd.operations, operation.isChecking = true := by
    rw [consistent.flagged, Option.isSome_iff_exists]
    constructor
    · rintro ⟨tag, owning⟩
      obtain ⟨operation, present, checking⟩ := (consistent.checking.owns tag).mp owning
      exact ⟨operation, List.mem_of_getElem? present, checking⟩
    · rintro ⟨operation, member, checking⟩
      obtain ⟨tag, present⟩ := List.mem_iff_getElem?.mp member
      exact ⟨tag, consistent.checking.owns.eq_some present checking⟩
  have atRest (free : crowd.world.holder = none) :
      Coherent setup.store (initial.evolved settled crowd.switches) Task.toggle.operation
        crowd.world :=
    consistent.holding.free free _ rfl
  refine
    { exclusive := ?_
      flag := flag
      refused := ?_
      stored := fun free => (atRest free).stored rfl
      kept := ?_
      mention := fun free => congrArg Memory.mentionEveryone (atRest free).memory
      last := fun free => congrArg Memory.lastReleaseId (atRest free).memory
      channel := ?_
      concluded := ?_
      concluding := ?_ }
  · intro one other first second presentOne presentOther checkingOne checkingOther
    have owned := consistent.checking.owns.eq_some presentOne checkingOne
    have ownedToo := consistent.checking.owns.eq_some presentOther checkingOther
    exact Option.some.inj (owned.symm.trans ownedToo)
  · intro tag stamp force busy present
    rw [next_advance present, step_of_busy force busy]
  · intro free
    refine Store.kept_of_read ?_ ((atRest free).stored rfl)
    rw [(atRest free).memory]
    exact (atRest free).ofChannel
  · intro free
    rw [(atRest free).memory]
    rfl
  · intro clear
    have unowned : checker = none := by
      rw [consistent.flagged] at clear
      exact Option.isNone_iff_eq_none.mp (by simpa using clear)
    have concluded := consistent.checking.free unowned Task.toggle.operation rfl
    rw [concluded]
    exact List.append_nil ended
  · intro operation member checking
    obtain ⟨tag, present⟩ := List.mem_iff_getElem?.mp member
    exact consistent.checking.of_mayAct present (.inl checking)

/-- In every interleaving of operations that begins with a start and in which whatever
is saved is saved successfully, the operations keep out of each other's way. -/
theorem orderly_after_start
    {disk loaded : Storage.Disk}
    {outside : σ}
    {world : World σ}
    (started : Watch.start setup disk outside = (.ok world, loaded))
    (moves : List Move)
    (saved : (Crowd.mk [] world).savesSucceed setup moves = true) :
    Orderly setup world.memory
      ((Crowd.mk [] world).seen setup Operation.settling? moves)
      ((Crowd.mk [] world).seen setup Operation.ending? moves)
      ((Crowd.mk [] world).after setup moves) := by
  obtain ⟨checker, consistent⟩ := (Consistent.start started).after moves saved
  exact consistent.orderly

/-- A watcher whose file is not there yet, with one release in its listing. -/
def contendedSetup : Setup Unit where
  target := ⟨"owner", "sources", false, true⟩
  store := ⟨.ofText "state.json", "channel", true, []⟩
  stamp := ⟨1, 1⟩
  ports :=
    { fetch := fun _ =>
        (.ok [⟨.number 7, none, none, none, none, some false, some false, some "2024"⟩],
          ())
      post := fun _ _ => (.ok (), ())
      fetchWaits := true }

/-- The watcher at its start. -/
def contendedWorld : World Unit where
  memory := ⟨none, "channel", true⟩
  holder := none
  busy := false
  disk := (contendedSetup.store.load contendedSetup.stamp []).2
  outside := ()

/-- Steps of the operations with the given numbers, each with a stamp of its own. -/
def inTurn (process : Nat) (tags : List Nat) : List Move :=
  tags.zipIdx.map fun (tag, moment) => .advance tag ⟨process, moment + 2⟩

/-- A check waits for a switch that holds the memory, and a second check is refused. -/
def contendedMoves : List Move :=
  [.launch (.check false), .launch .toggle, .launch (.check true)] ++
    inTurn 1 [0, 0, 1, 0, 2, 1, 1, 1, 0, 0, 0, 0, 0, 0, 0]

theorem orderly_after_start_contended :
    Watch.start contendedSetup [] () = (.ok contendedWorld, contendedWorld.disk) ∧
      (Crowd.mk [] contendedWorld).savesSucceed contendedSetup contendedMoves = true ∧
      Orderly contendedSetup ⟨none, "channel", true⟩ [.number 7] [.number 7]
        ((Crowd.mk [] contendedWorld).after contendedSetup contendedMoves) := by
  have loading : contendedSetup.store.load contendedSetup.stamp [] =
      (.ok ⟨none, "channel", true⟩, contendedWorld.disk) := by
    decide +kernel
  have started : Watch.start contendedSetup [] () =
      (.ok contendedWorld, contendedWorld.disk) := by
    unfold Watch.start
    rw [loading]
    rfl
  have saved :
      (Crowd.mk [] contendedWorld).savesSucceed contendedSetup contendedMoves = true := by
    decide +kernel
  have settled : (Crowd.mk [] contendedWorld).seen contendedSetup Operation.settling?
      contendedMoves = [.number 7] := by
    decide +kernel
  have ended : (Crowd.mk [] contendedWorld).seen contendedSetup Operation.ending?
      contendedMoves = [.number 7] := by
    decide +kernel
  have orderly := orderly_after_start started contendedMoves saved
  rw [settled, ended] at orderly
  exact ⟨started, saved, orderly⟩

end Crowd

end Watch
end FlemishDesk