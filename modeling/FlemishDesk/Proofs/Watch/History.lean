import FlemishDesk.Proofs.Watch.Alone
import FlemishDesk.Proofs.Watch.Interleaving

/-!
# Histories of a watcher

One operation after another is asked of a watcher, and now and then it is stopped and
started again.  As long as what it saves is saved, it recalls the release that a check
has settled last, whether from its memory or from its file.  So a check that is not
forced never announces that release once more.
-/

namespace FlemishDesk
namespace Watch

/-! ## Events and reports -/

/-- What happens to a watcher. -/
inductive Event where
  /-- A task is asked of it. -/
  | ask (task : Task)
  /-- It is stopped and started again. -/
  | restart

/-- An event, with what makes the temporary files unique meanwhile. -/
structure Turn where
  /-- What makes temporary files unique. -/
  stamp : Stamp
  /-- What happens. -/
  event : Event

/-- What is told of an event.  An operation that waits for the memory has no result. -/
inductive Report where
  /-- A check got a listing. -/
  | checked (force : Bool) (listing : Except Release.Feed.Error (List Release))
      (result : Option (Except CheckError CheckOutcome))
  /-- The mention was switched. -/
  | switched (result : Option (Except Store.Error Bool))
  /-- A text was announced by hand. -/
  | announced (result : Option (Except Complaint Unit))
  /-- The watcher was started again. -/
  | restarted (result : Except Store.Error Unit)
deriving DecidableEq

namespace Report

/-- The identifier of the release with which a check ended that announced or noted
it. -/
def noted? : Report -> Option Release.Id
  | .checked _ _ (some (.ok outcome)) => outcome.noted?
  | _ => none

/-- Whatever was saved was saved successfully. -/
def isSaved : Report -> Bool
  | .checked _ _ (some (.error (.store _))) => false
  | .switched (some (.error _)) => false
  | .restarted (.error _) => false
  | _ => true

end Report

section History

variable {σ : Type}

attribute [local irreducible] Store.save

/-- What is told of an event, and the world after it.  A watcher that cannot be started
again is gone. -/
def perform (setup : Setup σ) (world : World σ) : Event -> Report × Option (World σ)
  | .ask (.check force) =>
      let (result, changed) := check setup force world
      (.checked force (setup.ports.fetch world.outside).1 result, some changed)
  | .ask .toggle =>
      let (result, changed) := toggle setup world
      (.switched result, some changed)
  | .ask (.announce text) =>
      let (result, changed) := announce setup text world
      (.announced result, some changed)
  | .restart =>
      match start setup world.disk world.outside with
      | (.ok restarted, _) => (.restarted (.ok ()), some restarted)
      | (.error error, _) => (.restarted (.error error), none)

/-- The event of a turn. -/
def Turn.perform (setup : Setup σ) (world : World σ) (turn : Turn) :
    Report × Option (World σ) :=
  Watch.perform { setup with stamp := turn.stamp } world turn.event

/-- What is told of the events of some turns. -/
def history (setup : Setup σ) : World σ -> List Turn -> List Report
  | _, [] => []
  | world, turn :: turns =>
      let (report, next) := turn.perform setup world
      report :: next.elim [] fun next => history setup next turns

theorem history_cons
    (setup : Setup σ)
    (world : World σ)
    (turn : Turn)
    (turns : List Turn) :
    history setup world (turn :: turns) =
      (turn.perform setup world).1 ::
        (turn.perform setup world).2.elim [] fun next => history setup next turns :=
  rfl

/-! ## What a watcher recalls -/

/-- The watcher is at rest, its file holds its memory, and its memory holds a release
that was settled. -/
structure Recalls (store : Store) (settled : Option Release.Id) (world : World σ) :
    Prop where
  resting : world = .atRest world.memory world.disk world.outside
  ofChannel : world.memory.channelId = store.channelId
  stored : world.disk.read store.workingDirectory store.path =
    .ok (Text.Utf8.bytes world.memory.fileText)
  recalled : ∀ id, settled = some id -> world.memory.lastReleaseId = some id

namespace Recalls

variable {setup : Setup σ} {store : Store} {settled : Option Release.Id} {world : World σ}

/-- Saving makes a watcher recall what its memory holds. -/
theorem of_save
    {memory : Memory}
    {stamp : Stamp}
    {disk saved : Storage.Disk}
    {outside : σ}
    (saving : store.save stamp memory disk = (.ok (), saved))
    (ofChannel : memory.channelId = store.channelId)
    (recalled : ∀ id, settled = some id -> memory.lastReleaseId = some id) :
    Recalls store settled (.atRest memory saved outside) :=
  ⟨rfl, ofChannel, Store.read_of_save saving, recalled⟩

/-- A watcher that has started recalls what its file has kept. -/
theorem of_start
    {disk loaded : Storage.Disk}
    {outside : σ}
    (started : start setup disk outside = (.ok world, loaded))
    (recalled : ∀ id, settled = some id ->
      (setup.store.kept disk).lastReleaseId = some id) :
    Recalls setup.store settled world := by
  obtain ⟨rfl, saving⟩ := start_eq_ok started
  exact of_save saving (setup.store.channelId_restore _) recalled

theorem outside (recalls : Recalls store settled world) (outside : σ) :
    Recalls store settled (.atRest world.memory world.disk outside) :=
  ⟨rfl, recalls.ofChannel, recalls.stored, recalls.recalled⟩

theorem check
    (recalls : Recalls setup.store settled world)
    {force : Bool}
    {listing : Except Release.Feed.Error (List Release)}
    {result : Except CheckError CheckOutcome}
    {changed : World σ}
    (checked : Checked setup force world.memory world.disk world.outside result changed)
    (saved : (Report.checked force listing (some result)).isSaved = true) :
    Recalls setup.store ((Report.checked force listing (some result)).noted?.or settled)
      changed := by
  cases checked with
  | unlisted _ => exact recalls.outside _
  | noRelease _ _ => exact recalls.outside _
  | upToDate _ _ => exact recalls.outside _
  | refused _ _ _ => exact recalls.outside _
  | @noted _ _ result _ _ _ saving =>
      cases result with
      | error error => nomatch saved
      | ok _ => exact of_save saving recalls.ofChannel fun _ same => same
  | @delivered _ _ _ result _ _ _ _ saving =>
      cases result with
      | error error => nomatch saved
      | ok _ => exact of_save saving recalls.ofChannel fun _ same => same

/-- After an event a watcher recalls what the event has settled, else what it recalled
before, provided that what the event saves is saved. -/
theorem perform
    (recalls : Recalls setup.store settled world)
    (event : Event)
    (saved : (Watch.perform setup world event).1.isSaved = true) :
    ∃ next, (Watch.perform setup world event).2 = some next ∧
      Recalls setup.store
        ((Watch.perform setup world event).1.noted?.or settled) next := by
  have resting := recalls.resting
  cases event with
  | ask task =>
      cases task with
      | check force =>
          obtain ⟨result, changed, ended, checked⟩ :=
            check_atRest setup force world.memory world.disk world.outside
          rw [← resting] at ended
          simp only [Watch.perform, ended] at saved ⊢
          exact ⟨changed, rfl, recalls.check checked saved⟩
      | toggle =>
          cases saving : setup.store.save setup.stamp world.memory.switch world.disk with
          | mk result changed =>
              have toggled := toggle_atRest saving world.outside
              rw [← resting] at toggled
              simp only [Watch.perform, toggled] at saved ⊢
              cases result with
              | error error => nomatch saved
              | ok _ => exact ⟨_, rfl, of_save saving recalls.ofChannel recalls.recalled⟩
      | announce text =>
          have announced :=
            announce_atRest setup world.memory world.disk world.outside text
          rw [← resting] at announced
          simp only [Watch.perform, announced]
          exact ⟨_, rfl, recalls.outside _⟩
  | restart =>
      simp only [Watch.perform] at saved ⊢
      cases started : start setup world.disk world.outside with
      | mk result loaded =>
          rw [started] at saved
          cases result with
          | error error => nomatch saved
          | ok restarted =>
              refine ⟨restarted, rfl, of_start started ?_⟩
              rw [Store.kept_of_read recalls.ofChannel recalls.stored]
              exact recalls.recalled

theorem turn
    (recalls : Recalls setup.store settled world)
    (turn : Turn)
    (saved : (turn.perform setup world).1.isSaved = true) :
    ∃ next, (turn.perform setup world).2 = some next ∧
      Recalls setup.store ((turn.perform setup world).1.noted?.or settled) next := by
  have stamped : Recalls { setup with stamp := turn.stamp }.store settled world := recalls
  exact stamped.perform turn.event saved

end Recalls

/-! ## Whole histories -/

/-- The identifier of the release that was announced or noted last. -/
def lastNoted? (reports : List Report) : Option Release.Id :=
  (reports.filterMap Report.noted?).getLast?

theorem lastNoted?_cons
    (report : Report)
    (reports : List Report)
    (settled : Option Release.Id) :
    (lastNoted? (report :: reports)).or settled =
      (lastNoted? reports).or (report.noted?.or settled) := by
  unfold lastNoted?
  cases noted : report.noted? with
  | none => rw [List.filterMap_cons_none noted, Option.none_or]
  | some id =>
      rw [List.filterMap_cons_some noted, List.getLast?_cons]
      cases (reports.filterMap Report.noted?).getLast? <;> rfl

variable {setup : Setup σ} {world : World σ}

/-- When an event comes to be reported, the watcher recalls what was settled last before
it, provided that what was saved before it was saved. -/
theorem Recalls.history
    {settled : Option Release.Id}
    (recalls : Recalls setup.store settled world)
    {turns : List Turn}
    {before behind : List Report}
    {report : Report}
    (split : history setup world turns = before ++ report :: behind)
    (saved : ∀ earlier ∈ before, earlier.isSaved = true) :
    ∃ (reached : World σ) (turn : Turn), turn ∈ turns ∧
      Recalls setup.store ((lastNoted? before).or settled) reached ∧
      (turn.perform setup reached).1 = report := by
  -- A report that comes first is that of the first turn; the others are those of the
  -- history after it, in which the watcher recalls what the first turn has settled.
  induction before generalizing world turns settled with
  | nil =>
      cases turns with
      | nil => nomatch split
      | cons turn turns =>
          rw [history_cons] at split
          exact ⟨world, turn, List.mem_cons_self, recalls, (List.cons.inj split).1⟩
  | cons first before inductionHypothesis =>
      cases turns with
      | nil => nomatch split
      | cons turn turns =>
          rw [history_cons, List.cons_append] at split
          obtain ⟨same, rest⟩ := List.cons.inj split
          have savedFirst := saved first List.mem_cons_self
          rw [← same] at savedFirst
          obtain ⟨next, remains, recallsNext⟩ := recalls.turn turn savedFirst
          rw [remains] at rest
          rw [same] at recallsNext
          obtain ⟨reached, later, present, recallsReached, reported⟩ :=
            inductionHypothesis recallsNext rest
              fun earlier member => saved earlier (List.mem_cons_of_mem _ member)
          rw [← lastNoted?_cons] at recallsReached
          exact ⟨reached, later, List.mem_cons_of_mem turn present, recallsReached,
            reported⟩

/-- Only a check reports a check. -/
theorem perform_eq_checked
    {event : Event}
    {force : Bool}
    {listing : Except Release.Feed.Error (List Release)}
    {result : Option (Except CheckError CheckOutcome)}
    (reported : (perform setup world event).1 = .checked force listing result) :
    listing = (setup.ports.fetch world.outside).1 ∧
      (check setup force world).1 = result := by
  cases event with
  | ask task =>
      cases task with
      | check forced =>
          obtain ⟨rfl, rfl, rfl⟩ := Report.checked.inj reported
          exact ⟨rfl, rfl⟩
      | toggle => nomatch reported
      | announce text => nomatch reported
  | restart =>
      simp only [perform] at reported
      split at reported <;> nomatch reported

/-- A check that was not forced announced the latest release of its listing, and the
watcher recalled another release. -/
theorem Recalls.of_posted
    {settled : Option Release.Id}
    (recalls : Recalls setup.store settled world)
    {turn : Turn}
    {force : Bool}
    {listing : Except Release.Feed.Error (List Release)}
    {id : Release.Id}
    (reported : (turn.perform setup world).1 =
      .checked force listing (some (.ok (.posted id)))) :
    (∃ releases latest, listing = .ok releases ∧ latest.id = id ∧
      Release.latest? setup.target.includePrereleases releases = some latest) ∧
      (force = false -> ∀ last, settled = some last -> last.sameAs id = false) := by
  obtain ⟨rfl, posted⟩ := perform_eq_checked reported
  obtain ⟨result, changed, ended, checked⟩ :=
    check_atRest { setup with stamp :=
      turn.stamp } force world.memory world.disk world.outside
  rw [← recalls.resting] at ended
  rw [ended] at posted
  obtain ⟨latest, after, ⟨releases, fetched, chosen⟩, rfl, settles⟩ :=
    checked.settle_of_posted (Option.some.inj posted)
  refine ⟨⟨releases, latest, congrArg Prod.fst fetched, rfl, chosen⟩, ?_⟩
  rintro rfl last same
  have unknown := not_knows_of_settle_eq_posting settles
  unfold Memory.knows at unknown
  rw [recalls.recalled last same] at unknown
  exact unknown

/-- In every history in which what is saved is saved successfully, a check that is not
forced announces another release than the one that was announced or noted last. -/
theorem posted_not_sameAs_last_noted
    {disk loaded : Storage.Disk}
    {outside : σ}
    (started : start setup disk outside = (.ok world, loaded))
    (turns : List Turn)
    {before behind : List Report}
    {listing : Except Release.Feed.Error (List Release)}
    {posted : Release.Id}
    (split : history setup world turns =
      before ++ .checked false listing (some (.ok (.posted posted))) :: behind)
    (saved : ∀ report ∈ before, report.isSaved = true)
    {last : Release.Id}
    (noted : lastNoted? before = some last) :
    last.sameAs posted = false := by
  have recalls : Recalls setup.store none world := .of_start started nofun
  obtain ⟨reached, turn, _, recallsReached, reported⟩ := recalls.history split saved
  rw [noted] at recallsReached
  exact (recallsReached.of_posted reported).2 rfl last rfl

end History

/-! ## A history with a restart -/

/-- A file beside nothing else. -/
def scriptedStore : Store := ⟨.ofText "state.json", "channel", true, []⟩

/-- The disk after a first start. -/
def scriptedDisk : Storage.Disk := (scriptedStore.load ⟨1, 1⟩ []).2

/-- A watcher that is given one listing after another, and whose posts are all taken. -/
def scriptedSetup (announceOnStart : Bool) : Setup (List (List Release)) where
  target := ⟨"owner", "sources", false, announceOnStart⟩
  store := scriptedStore
  stamp := ⟨1, 1⟩
  ports :=
    { fetch := fun listings => (.ok (listings.headD []), listings.tail)
      post := fun _ listings => (.ok (), listings)
      fetchWaits := true }

/-- The watcher after a first start. -/
def scriptedWorld (listings : List (List Release)) : World (List (List Release)) :=
  .atRest scriptedStore.defaults scriptedDisk listings

theorem start_scripted (announceOnStart : Bool) (listings : List (List Release)) :
    start (scriptedSetup announceOnStart) [] listings =
      (.ok (scriptedWorld listings), scriptedDisk) := by
  have loading : scriptedStore.load ⟨1, 1⟩ [] =
      (.ok scriptedStore.defaults, scriptedDisk) := by
    decide +kernel
  unfold start scriptedSetup
  rw [loading]
  rfl

/-- A public release with a date. -/
def datedRelease (id : UInt64) (date : String) : Release :=
  ⟨.number id, none, none, none, none, some false, some false, some date⟩

/-- A release is announced and, after a switch and a restart, announced once more by
force.  Then its successor is announced. -/
theorem posted_not_sameAs_last_noted_restarted :
    let seventh := datedRelease 7 "2025-03-01T10:00:00Z"
    let eighth := datedRelease 8 "2025-04-01T10:00:00Z"
    let listings := [[seventh], [seventh], [eighth, seventh]]
    let turns : List Turn :=
      [⟨⟨1, 2⟩, .ask (.check false)⟩, ⟨⟨1, 3⟩, .ask .toggle⟩, ⟨⟨2, 4⟩, .restart⟩,
        ⟨⟨2, 5⟩, .ask (.check true)⟩, ⟨⟨2, 6⟩, .ask (.check false)⟩]
    let before : List Report :=
      [.checked false (.ok [seventh]) (some (.ok (.posted (.number 7)))),
        .switched (some (.ok false)), .restarted (.ok ()),
        .checked true (.ok [seventh]) (some (.ok (.posted (.number 7))))]
    history (scriptedSetup true) (scriptedWorld listings) turns =
        before ++
          [.checked false (.ok [eighth, seventh]) (some (.ok (.posted (.number 8))))] ∧
      lastNoted? before = some (.number 7) ∧
      Release.Id.sameAs (.number 7) (.number 8) = false := by
  intro seventh eighth listings turns before
  have split : history (scriptedSetup true) (scriptedWorld listings) turns =
      before ++
        [.checked false (.ok [eighth, seventh]) (some (.ok (.posted (.number 8))))] := by
    decide +kernel
  have noted : lastNoted? before = some (.number 7) := by decide +kernel
  have saved : ∀ report ∈ before, report.isSaved = true := by decide +kernel
  exact ⟨split, noted,
    posted_not_sameAs_last_noted (start_scripted true listings) turns split saved noted⟩

end Watch
end FlemishDesk
