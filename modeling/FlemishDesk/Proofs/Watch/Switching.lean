import FlemishDesk.Proofs.Watch.Faults
import FlemishDesk.Proofs.Watch.History

/-!
# Switches that fail

A switch changes the mention of everyone in the memory and then saves the memory.  When
saving fails, it tells so, and it leaves the file alone, but the memory stays switched.
So every attempt counts, whether it fails or not, and an attempt that is made again
after a failed one takes the change back.
-/

namespace FlemishDesk
namespace Watch

namespace Memory

/-- Two switches take each other back. -/
theorem mentionEveryone_repeat_switch (memory : Memory) (count : Nat) :
    (Nat.repeat switch count memory).mentionEveryone =
      if count % 2 = 0 then memory.mentionEveryone else !memory.mentionEveryone := by
  induction count with
  | zero => rfl
  | succ count inductionHypothesis =>
      have switched : (Nat.repeat switch (count + 1) memory).mentionEveryone =
          !(Nat.repeat switch count memory).mentionEveryone := rfl
      rw [switched, inductionHypothesis]
      by_cases even : count % 2 = 0
      · rw [if_pos even, if_neg (by omega)]
      · rw [if_neg even, if_pos (by omega), Bool.not_not]

end Memory

section Switching

variable {σ : Type} {setup : Setup σ} {tag : Nat} {operation next : Operation}
  {world between changed : World σ} {results : List (Except Store.Error Bool)}
  {result : Except Store.Error Bool}

attribute [local irreducible] Store.save

/-! ## One attempt -/

/-- What the steps of an operation can do that is not disturbed, however saving ends. -/
inductive Acts (setup : Setup σ) (tag : Nat) (operation : Operation) (world : World σ) :
    Operation -> World σ -> Prop where
  | nothing : Acts setup tag operation world operation world
  | more {reached next between changed}
      (earlier : Acts setup tag operation world reached between)
      (act : Act setup tag reached between next changed) :
      Acts setup tag operation world next changed

theorem Acts.steps
    (acts : Acts setup tag operation world next changed)
    (count : Nat) :
    Acts setup tag operation world (steps setup tag count next changed).1
      (steps setup tag count next changed).2 := by
  induction count generalizing next changed with
  | zero => exact acts
  | succ count inductionHypothesis =>
      rw [steps_succ]
      exact inductionHypothesis (acts.more (act_step setup tag next changed))

/-- How far a switch has come that began in a world: the memory is switched before it is
saved. -/
def Switching (setup : Setup σ) (tag : Nat) (world : World σ) :
    Operation -> World σ -> Prop
  | .toggle .locking, reached => reached = world
  | .toggle .flipping, reached =>
      world.holder = none ∧ reached = { world with holder := some tag }
  | .toggle .saving, reached =>
      world.holder = none ∧
        reached = { world with holder := some tag, memory := world.memory.switch }
  | .toggle (.unlocking result), reached =>
      world.holder = none ∧ ∃ saved left,
        setup.store.Progress setup.stamp world.memory.switch world.disk (.ended saved)
          left ∧
        result = saved.map (fun _ => world.memory.switch.mentionEveryone) ∧
        reached = { world with holder := some tag, memory := world.memory.switch, disk :=
          left }
  | .toggle (.ended result), reached =>
      ∃ saved left,
        setup.store.Progress setup.stamp world.memory.switch world.disk (.ended saved)
          left ∧
        result = saved.map (fun _ => world.memory.switch.mentionEveryone) ∧
        reached = { world with memory := world.memory.switch, disk := left }
  | _, _ => False

theorem Switching.transition
    (switching : Switching setup tag world operation between)
    (other : operation.isSaving = false)
    (transition : Transition setup tag operation between next changed) :
    Switching setup tag world next changed := by
  cases transition with
  | stay _ => exact switching
  | takeForToggle free =>
      obtain rfl : between = world := switching
      exact ⟨free, rfl⟩
  | flip =>
      obtain ⟨free, rfl⟩ := switching
      exact ⟨free, rfl⟩
  | saveForToggle _ => nomatch other
  | saveForToggleInVain _ => nomatch other
  | giveBackForToggle =>
      obtain ⟨free, saved, left, progress, isResult, rfl⟩ := switching
      refine ⟨saved, left, progress, isResult, ?_⟩
      rw [← free]
  | _ => exact switching.elim

theorem Switching.act
    (switching : Switching setup tag world operation between)
    (act : Act setup tag operation between next changed) :
    Switching setup tag world next changed := by
  cases act with
  | plain other =>
      exact switching.transition other (step_transition setup tag operation between)
  | saveForCheck _ => exact switching.elim
  | saveForToggle progress =>
      obtain ⟨free, rfl⟩ := switching
      exact ⟨free, _, _, progress, rfl, rfl⟩

/-- A switch that has ended has switched the memory and has tried to save it. -/
theorem Acts.switched
    (acts : Acts setup tag (.toggle .locking) world (.toggle (.ended result)) changed) :
    ∃ saved left,
      setup.store.Progress setup.stamp world.memory.switch world.disk (.ended saved)
        left ∧
      result = saved.map (fun _ => world.memory.switch.mentionEveryone) ∧
      changed = { world with memory := world.memory.switch, disk := left } := by
  have switching {next : Operation} {changed : World σ}
      (acts : Acts setup tag (.toggle .locking) world next changed) :
      Switching setup tag world next changed := by
    induction acts with
    | nothing => rfl
    | more _ act inductionHypothesis => exact inductionHypothesis.act act
  exact switching acts

/-- A switch that has succeeded tells what is in the memory, and the file keeps it. -/
theorem Acts.stored
    {value : Bool}
    (acts :
      Acts setup tag (.toggle .locking) world (.toggle (.ended (.ok value))) changed) :
    value = changed.memory.mentionEveryone ∧
      changed.disk.read setup.store.workingDirectory setup.store.path =
        .ok (Text.Utf8.bytes changed.memory.fileText) := by
  obtain ⟨saved, left, progress, isResult, rfl⟩ := acts.switched
  cases saved with
  | error error => nomatch isResult
  | ok _ =>
      refine ⟨Except.ok.inj isResult, ?_⟩
      exact Storage.Disk.read_eq_ok_iff.mpr (progress.holds? (Or.inl rfl))

/-- A switch that has failed has not replaced the file. -/
theorem Acts.prepared
    {error : Store.Error}
    (acts :
      Acts setup tag (.toggle .locking) world (.toggle (.ended (.error error))) changed) :
    setup.store.Prepared setup.stamp world.disk changed.disk := by
  obtain ⟨saved, left, progress, isResult, rfl⟩ := acts.switched
  apply progress.prepared (Or.inl rfl)
  rintro ended
  obtain rfl := Store.SavePhase.ended.inj ended
  nomatch isResult

/-! ## One attempt after another -/

/-- What switches can do that are made one after another, with the results that they
tell. -/
inductive Attempts (setup : Setup σ) (world : World σ) :
    List (Except Store.Error Bool) -> World σ -> Prop where
  | nothing : Attempts setup world [] world
  | more {results result stamp tag between changed}
      (earlier : Attempts setup world results between)
      (acts : Acts { setup with stamp := stamp } tag (.toggle .locking) between
        (.toggle (.ended result)) changed) :
      Attempts setup world (results ++ [result]) changed

/-- A switch that begins when nobody holds the memory goes through all of its phases. -/
theorem steps_toggle (setup : Setup σ) (free : world.holder = none) :
    ∃ result changed, steps setup 0 longest (.toggle .locking) world =
      (.toggle (.ended result), changed) := by
  obtain ⟨memory, holder, busy, disk, outside⟩ := world
  obtain rfl : holder = none := free
  have flipped :
      steps setup 0 longest (.toggle .locking) ⟨memory, none, busy, disk, outside⟩ =
      steps setup 0 7 (.toggle .saving) ⟨memory.switch, some 0, busy, disk, outside⟩ :=
        rfl
  rw [flipped, steps_succ]
  unfold step toggleStep World.save
  dsimp only
  cases setup.store.save setup.stamp memory.switch disk with
  | mk saved left =>
      cases saved with
      | ok _ => exact ⟨_, _, rfl⟩
      | error error => exact ⟨_, _, rfl⟩

/-- A switch that begins when nobody holds the memory is one more attempt. -/
theorem Attempts.toggle
    (attempts : Attempts setup world results between)
    (free : between.holder = none)
    (stamp : Stamp) :
    ∃ result changed,
      toggle { setup with stamp := stamp } between = (some result, changed) ∧
      Attempts setup world (results ++ [result]) changed := by
  obtain ⟨result, changed, ended⟩ := steps_toggle { setup with stamp := stamp } free
  have acts : Acts { setup with stamp := stamp } 0 (.toggle .locking) between
      (.toggle (.ended result)) changed := by
    have all :=
      (Acts.nothing : Acts { setup with stamp := stamp } 0 (.toggle .locking) between
      (.toggle .locking) between).steps longest
    rwa [ended] at all
  refine ⟨result, changed, ?_, attempts.more acts⟩
  unfold Watch.toggle
  rw [ended]
  rfl

/-- The last attempt comes after the others. -/
theorem Attempts.last
    (attempts : Attempts setup world results changed)
    {earlier : List (Except Store.Error Bool)}
    (isLast : results = earlier ++ [result]) :
    ∃ stamp tag between, Attempts setup world earlier between ∧
      Acts { setup with stamp := stamp } tag (.toggle .locking) between
        (.toggle (.ended result)) changed := by
  cases attempts with
  | nothing => exact absurd isLast.symm (List.concat_ne_nil _ _)
  | @more _ _ stamp tag between _ before acts =>
      obtain ⟨rfl, isResult⟩ := List.append_inj' isLast rfl
      obtain rfl := List.singleton_inj.mp isResult
      exact ⟨stamp, tag, between, before, acts⟩

theorem Attempts.memory (attempts : Attempts setup world results changed) :
    changed.memory = Nat.repeat Memory.switch results.length world.memory := by
  induction attempts with
  | nothing => rfl
  | more _ acts inductionHypothesis =>
      obtain ⟨_, _, _, _, rfl⟩ := acts.switched
      rw [List.length_append, inductionHypothesis]
      rfl

theorem Attempts.others (attempts : Attempts setup world results changed) :
    changed.holder = world.holder ∧ changed.busy = world.busy ∧
      changed.outside = world.outside := by
  induction attempts with
  | nothing => exact ⟨rfl, rfl, rfl⟩
  | more _ acts inductionHypothesis =>
      obtain ⟨_, _, _, _, rfl⟩ := acts.switched
      exact inductionHypothesis

/-- Attempts that fail leave the path of the file alone. -/
theorem Attempts.lasting
    (attempts : Attempts setup world results changed)
    (failed : ∀ result ∈ results, result.isOk = false)
    (lasting : setup.store.Lasting world.disk) :
    changed.disk.holds? setup.store.workingDirectory setup.store.path =
        world.disk.holds? setup.store.workingDirectory setup.store.path ∧
      setup.store.Lasting changed.disk := by
  induction attempts with
  | nothing => exact ⟨rfl, lasting⟩
  | @more _ result _ _ _ _ _ acts inductionHypothesis =>
      obtain ⟨before, lastingBefore⟩ := inductionHypothesis fun result present =>
        failed result (List.mem_append_left _ present)
      cases result with
      | ok value => nomatch failed (.ok value) List.mem_concat_self
      | error error =>
          obtain ⟨now, lastingNow⟩ := acts.prepared.lasting lastingBefore
          exact ⟨now.trans before, lastingNow⟩

/-- What switches leave behind that are made one after another. -/
structure Aftermath (setup : Setup σ) (world : World σ)
    (results : List (Except Store.Error Bool))
    (changed : World σ) : Prop where
  /-- Every attempt switches the memory. -/
  memory : changed.memory = Nat.repeat Memory.switch results.length world.memory
  /-- Nothing else that the operations share is changed. -/
  others : changed.holder = world.holder ∧ changed.busy = world.busy ∧
    changed.outside = world.outside
  /-- An attempt that succeeds tells what is in the memory, and the file keeps it.  This
  is not what it was at first if and only if the number of earlier attempts is even. -/
  succeeded : ∀ earlier value, results = earlier ++ [.ok value] ->
    value = changed.memory.mentionEveryone ∧
    changed.disk.read setup.store.workingDirectory setup.store.path =
      .ok (Text.Utf8.bytes changed.memory.fileText) ∧
    (value = !world.memory.mentionEveryone <-> earlier.length % 2 = 0)
  /-- As long as attempts fail, the path of the file holds what it held. -/
  failed : (∀ result ∈ results, result.isOk = false) -> setup.store.Lasting world.disk ->
    changed.disk.holds? setup.store.workingDirectory setup.store.path =
      world.disk.holds? setup.store.workingDirectory setup.store.path

/-- Every attempt switches the mention in the memory, and only an attempt that succeeds
changes the file. -/
theorem every_attempt_switches
    (attempts : Attempts setup world results changed) :
    Aftermath setup world results changed where
  memory := attempts.memory
  others := attempts.others
  succeeded := by
    intro earlier value isLast
    obtain ⟨stamp, tag, between, _, acts⟩ := attempts.last isLast
    obtain ⟨isValue, stored⟩ := acts.stored
    refine ⟨isValue, stored, ?_⟩
    rw [isValue, attempts.memory, isLast, Memory.mentionEveryone_repeat_switch,
      List.length_append, List.length_singleton]
    by_cases even : earlier.length % 2 = 0
    · rw [if_neg (by omega)]
      simp [even]
    · rw [if_pos (by omega)]
      simp [even]
  failed := fun failed lasting => (attempts.lasting failed lasting).1

/-- A switch that fails leaves the memory and what its path holds as they were. -/
def SwitchesAtomically (setup : Setup σ) (world : World σ) : Prop :=
  ∀ error, (toggle setup world).1 = some (.error error) ->
    (toggle setup world).2.memory = world.memory ∧
      (toggle setup world).2.disk.holds? setup.store.workingDirectory setup.store.path =
        world.disk.holds? setup.store.workingDirectory setup.store.path

end Switching

/-- A directory stands where the file belongs.  The switch fails and the memory is
switched all the same, so that a switch that succeeds afterwards tells the mention that
there was at first. -/
theorem not_switchesAtomically_blocked :
    let world : World (List (List Release)) :=
      .atRest scriptedStore.defaults [(.ofTexts ["state.json"], .directory)] []
    let failed := toggle (scriptedSetup false) world
    let retried := toggle (scriptedSetup false) { failed.2 with disk := [] }
    ¬ SwitchesAtomically (scriptedSetup false) world ∧
      failed.1 = some (.error (.replace (.ofText "state.json") .isDirectory)) ∧
      retried.1 = some (.ok world.memory.mentionEveryone) := by
  intro world failed retried
  have fails : failed.1 =
      some (.error (.replace (.ofText "state.json") .isDirectory)) := by
    decide +kernel
  refine ⟨?_, fails, by decide +kernel⟩
  intro atomically
  have switched : failed.2.memory ≠ world.memory := by decide +kernel
  exact switched (atomically _ fails).1

/-- A directory has the name of the temporary file of the first attempt, and the second
attempt takes another name. -/
theorem every_attempt_switches_retried :
    let world : World (List (List Release)) :=
      .atRest scriptedStore.defaults
        (scriptedDisk ++ [(.ofTexts [".tmp-state.json-1-2"], .directory)]) []
    ∃ error changed,
      Attempts (scriptedSetup false) world
        [.error error, .ok world.memory.mentionEveryone]
        changed ∧
      changed.memory = world.memory ∧
      changed.disk.read [] (.ofText "state.json") =
        .ok (Text.Utf8.bytes world.memory.fileText) := by
  intro world
  have fails : (toggle { scriptedSetup false with stamp := ⟨1, 2⟩ } world).1 =
      some (.error (.write (.ofText "./.tmp-state.json-1-2") .isDirectory)) := by
    decide +kernel
  have free :
      (toggle { scriptedSetup false with stamp := ⟨1, 2⟩ } world).2.holder = none := by
    decide +kernel
  have succeeds : (toggle { scriptedSetup false with stamp := ⟨1, 3⟩ }
      (toggle { scriptedSetup false with stamp := ⟨1, 2⟩ } world).2).1 =
        some (.ok world.memory.mentionEveryone) := by
    decide +kernel
  obtain ⟨first, between, toggled, attempted⟩ :=
    (Attempts.nothing : Attempts (scriptedSetup false) world [] world).toggle rfl ⟨1, 2⟩
  rw [toggled] at fails free succeeds
  obtain rfl := Option.some.inj fails
  obtain ⟨second, changed, retoggled, retried⟩ := attempted.toggle free ⟨1, 3⟩
  rw [retoggled] at succeeds
  obtain rfl := Option.some.inj succeeds
  have aftermath := every_attempt_switches retried
  have memory : changed.memory = world.memory := aftermath.memory
  refine ⟨_, changed, retried, memory, ?_⟩
  rw [← memory]
  exact (aftermath.succeeded [_] _ rfl).2.1

end Watch
end FlemishDesk
