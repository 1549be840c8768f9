import FlemishDesk.Proofs.Watch.History
import FlemishDesk.Proofs.Watch.Observation

/-!
# What a check leaves behind

A check that notes or announces a release changes the last release in the memory and in
the file, and every other check leaves both as they are.  Which posts it hands over is
decided by the listing and the memory before anything is saved: at most one, and the
same one again as long as the memory and the listing stay the same.  Only a forced check
posts a release that an unforced one would pass over.
-/

namespace FlemishDesk
namespace Watch

/-- A check announces a release: it is forced, or the release is new and is not merely
noted. -/
def isDue (target : Target) (force : Bool) (memory : Memory) (release : Release) : Bool :=
  force || ((target.announceOnStart || !memory.isFirstRun) && !memory.knows release.id)

/-- The posts that a listing calls for. -/
def duePosts (target : Target) (force : Bool) (memory : Memory) :
    Except Release.Feed.Error (List Release) -> List Announcement.Post
  | .error _ => []
  | .ok releases =>
      ((Release.latest? target.includePrereleases releases).filter
        (isDue target force memory)).toList.map (releasePost memory)

theorem settle_eq_posting_iff
    (target : Target)
    (force : Bool)
    (memory : Memory)
    (latest : Release) :
    settle target force memory latest = .posting latest (releasePost memory latest) <->
      isDue target force memory latest = true := by
  unfold settle isDue
  cases force with
  | true => simp
  | false =>
      cases memory.isFirstRun <;> cases target.announceOnStart <;>
        cases memory.knows latest.id <;> simp

section Effects

variable {σ : Type} {setup : Setup σ} {force : Bool} {memory : Memory}
  {disk : Storage.Disk}
  {outside : σ} {world : World σ}

attribute [local irreducible] Store.save

/-! ## Which posts are handed over -/

theorem duePosts_of_finds
    {latest : Release}
    {after : σ}
    (found : setup.Finds outside latest after) :
    duePosts setup.target force memory (setup.ports.fetch outside).1 =
      if isDue setup.target force memory latest then [releasePost memory latest]
      else [] := by
  obtain ⟨releases, fetched, chosen⟩ := found
  rw [fetched]
  unfold duePosts
  dsimp only
  rw [chosen, Option.filter_some]
  split <;> rfl

/-- The observer of a check finds the release that the check finds. -/
theorem finds_of_observed
    {posts : List Announcement.Post}
    {latest : Release}
    {after : σ × List Announcement.Post}
    (found : setup.observed.Finds (outside, posts) latest after) :
    setup.Finds outside latest after.1 ∧ after.2 = posts := by
  obtain ⟨releases, fetched, chosen⟩ := found
  have result : (setup.ports.fetch outside).1 = .ok releases := congrArg Prod.fst fetched
  obtain rfl : ((setup.ports.fetch outside).2, posts) = after := congrArg Prod.snd fetched
  exact ⟨⟨releases, Prod.ext result rfl, chosen⟩, rfl⟩

theorem snd_of_observed_post
    {post : Announcement.Post}
    {before after : σ × List Announcement.Post}
    {result : Except Complaint Unit}
    (handed : setup.observed.ports.post post before = (result, after)) :
    after.2 = before.2 ++ [post] :=
  congrArg Prod.snd (congrArg Prod.snd handed).symm

theorem duePosts_of_settle_ne
    {latest : Release}
    {after : σ}
    (found : setup.Finds outside latest after)
    (other : settle setup.target force memory latest ≠
      .posting latest (releasePost memory latest)) :
    duePosts setup.target force memory (setup.ports.fetch outside).1 = [] := by
  rw [duePosts_of_finds found, if_neg]
  exact mt (settle_eq_posting_iff setup.target force memory latest).mpr other

theorem duePosts_of_settle_eq
    {latest : Release}
    {after : σ}
    (found : setup.Finds outside latest after)
    (settled : settle setup.target force memory latest =
      .posting latest (releasePost memory latest)) :
    duePosts setup.target force memory (setup.ports.fetch outside).1 =
      [releasePost memory latest] := by
  rw [duePosts_of_finds found, if_pos]
  exact (settle_eq_posting_iff setup.target force memory latest).mp settled

/-- The observer of a check writes down the posts that the listing calls for. -/
theorem Checked.posts
    {posts : List Announcement.Post}
    {result : Except CheckError CheckOutcome}
    {changed : World (σ × List Announcement.Post)}
    (checked : Checked setup.observed force memory disk (outside, posts) result changed) :
    changed.outside.2 =
      posts ++ duePosts setup.target force memory (setup.ports.fetch outside).1 := by
  cases checked with
  | @unlisted error after fetched =>
      have failed : (setup.ports.fetch outside).1 = .error error :=
        congrArg Prod.fst fetched
      have same : after.2 = posts := congrArg Prod.snd (congrArg Prod.snd fetched).symm
      rw [failed, duePosts, List.append_nil]
      exact same
  | @noRelease releases after fetched nothing =>
      have listed : (setup.ports.fetch outside).1 = .ok releases :=
        congrArg Prod.fst fetched
      have same : after.2 = posts := congrArg Prod.snd (congrArg Prod.snd fetched).symm
      have missing : Release.latest? setup.target.includePrereleases releases = none :=
        nothing
      rw [listed, duePosts, missing, Option.filter_none, Option.toList_none, List.map_nil,
        List.append_nil]
      exact same
  | upToDate found settled =>
      obtain ⟨found, same⟩ := finds_of_observed found
      have passedOver := duePosts_of_settle_ne found
        fun posting => nomatch settled.symm.trans posting
      rw [passedOver, List.append_nil]
      exact same
  | noted found settled _ =>
      obtain ⟨found, same⟩ := finds_of_observed found
      have passedOver := duePosts_of_settle_ne found
        fun posting => nomatch settled.symm.trans posting
      rw [passedOver, List.append_nil]
      exact same
  | refused found settled posting =>
      obtain ⟨found, same⟩ := finds_of_observed found
      rw [duePosts_of_settle_eq found settled, ← same]
      exact snd_of_observed_post posting
  | delivered found settled posting _ =>
      obtain ⟨found, same⟩ := finds_of_observed found
      rw [duePosts_of_settle_eq found settled, ← same]
      exact snd_of_observed_post posting

/-! ## What each ending leaves -/

/-- The identifier of the release that a check ended with, having announced or noted
it. -/
def notedBy? (result : Except CheckError CheckOutcome) : Option Release.Id :=
  result.toOption.bind CheckOutcome.noted?

/-- The identifier of the release that a check ended with, having handed over a post for
it. -/
def attemptedBy? : Except CheckError CheckOutcome -> Option Release.Id
  | .ok (.posted id) => some id
  | .ok (.postFailed id) => some id
  | _ => none

namespace Checked

variable {result : Except CheckError CheckOutcome} {changed : World σ}

theorem cleared (checked : Checked setup force memory disk outside result changed) :
    changed.busy = false ∧ changed.holder = none := by
  cases checked <;> exact ⟨rfl, rfl⟩

theorem ne_busy (checked : Checked setup force memory disk outside result changed) :
    result ≠ .ok .busy := by
  cases checked with
  | @noted _ _ saving _ _ _ _ => cases saving <;> nofun
  | @delivered _ _ _ saving _ _ _ _ _ => cases saving <;> nofun
  | _ => nofun

theorem unchanged
    (checked : Checked setup force memory disk outside result changed)
    (saved : ∀ error, result ≠ .error (.store error))
    (noNote : notedBy? result = none) :
    changed.memory = memory ∧ changed.disk = disk := by
  cases checked with
  | @noted _ _ saving _ _ _ _ =>
      cases saving with
      | error error => exact absurd rfl (saved error)
      | ok _ => nomatch noNote
  | @delivered _ _ _ saving _ _ _ _ _ =>
      cases saving with
      | error error => exact absurd rfl (saved error)
      | ok _ => nomatch noNote
  | _ => exact ⟨rfl, rfl⟩

/-- A release that was announced or noted is the latest of the listing, and it is the
last release of the memory and of the file. -/
theorem recorded
    (checked : Checked setup force memory disk outside result changed)
    {id : Release.Id}
    (noted : notedBy? result = some id) :
    (∃ latest after, setup.Finds outside latest after ∧ latest.id = id) ∧
      changed.memory = memory.note (some id) ∧
      changed.disk.read setup.store.workingDirectory setup.store.path =
        .ok (Text.Utf8.bytes (memory.note (some id)).fileText) := by
  cases checked with
  | @noted latest after saving _ found _ success =>
      cases saving with
      | error error => nomatch noted
      | ok _ =>
          obtain rfl : latest.id = id := Option.some.inj noted
          exact ⟨⟨latest, after, found, rfl⟩, rfl, Store.read_of_save success⟩
  | @delivered latest after _ saving _ found _ _ success =>
      cases saving with
      | error error => nomatch noted
      | ok _ =>
          obtain rfl : latest.id = id := Option.some.inj noted
          exact ⟨⟨latest, after, found, rfl⟩, rfl, Store.read_of_save success⟩
  | _ => nomatch noted

/-- A check that announced a release, or tried to, called for one post. -/
theorem attempted
    (checked : Checked setup force memory disk outside result changed)
    {id : Release.Id}
    (attempt : attemptedBy? result = some id) :
    ∃ latest after, setup.Finds outside latest after ∧ latest.id = id ∧
      isDue setup.target force memory latest = true := by
  cases checked with
  | @noted _ _ saving _ _ _ _ => cases saving <;> nomatch attempt
  | @refused latest after _ _ found settled _ =>
      obtain rfl : latest.id = id := Option.some.inj attempt
      exact ⟨latest, after, found, rfl, (settle_eq_posting_iff _ _ _ _).mp settled⟩
  | @delivered latest after _ saving _ found settled _ _ =>
      cases saving with
      | error error => nomatch attempt
      | ok _ =>
          obtain rfl : latest.id = id := Option.some.inj attempt
          exact ⟨latest, after, found, rfl, (settle_eq_posting_iff _ _ _ _).mp settled⟩
  | _ => nomatch attempt

/-- A check that ended otherwise called for none. -/
theorem not_attempted
    (checked : Checked setup force memory disk outside result changed)
    (saved : ∀ error, result ≠ .error (.store error))
    (noAttempt : attemptedBy? result = none) :
    duePosts setup.target force memory (setup.ports.fetch outside).1 = [] := by
  cases checked with
  | unlisted fetched => rw [fetched, duePosts]
  | noRelease fetched nothing =>
      rw [fetched, duePosts, nothing]
      rfl
  | upToDate found settled =>
      exact duePosts_of_settle_ne found fun posting => nomatch settled.symm.trans posting
  | noted found settled _ =>
      exact duePosts_of_settle_ne found fun posting => nomatch settled.symm.trans posting
  | refused _ _ _ => nomatch noAttempt
  | @delivered _ _ _ saving _ _ _ _ _ =>
      cases saving with
      | error error => exact absurd rfl (saved error)
      | ok _ => nomatch noAttempt

end Checked

/-! ## From any world -/

theorem World.eq_atRest (idle : world.busy = false) (free : world.holder = none) :
    world = .atRest world.memory world.disk world.outside := by
  cases world
  cases idle
  cases free
  rfl

theorem check_of_busy (setup : Setup σ) (force : Bool) (busy : world.busy = true) :
    check setup force world = (some (.ok .busy), world) := by
  unfold check longest
  rw [steps_succ, step_of_busy force busy, steps_ended]
  rfl

theorem checkPosts_of_busy (setup : Setup σ) (force : Bool) (busy : world.busy = true) :
    checkPosts setup force world = [] := by
  have observedBusy : (world.observed []).busy = true := busy
  rw [checkPosts, check_of_busy setup.observed force observedBusy]
  rfl

theorem checked_of_idle
    (setup : Setup σ)
    (force : Bool)
    (idle : world.busy = false)
    (free : world.holder = none) :
    ∃ result changed, check setup force world = (some result, changed) ∧
      Checked setup force world.memory world.disk world.outside result changed := by
  have checked := check_atRest setup force world.memory world.disk world.outside
  rwa [← World.eq_atRest idle free] at checked

/-- Which posts a check hands over is decided by the memory and the listing. -/
theorem checkPosts_of_idle
    (setup : Setup σ)
    (force : Bool)
    (idle : world.busy = false)
    (free : world.holder = none) :
    checkPosts setup force world =
      duePosts setup.target force world.memory (setup.ports.fetch world.outside).1 := by
  have observedIdle : (world.observed []).busy = false := idle
  have observedFree : (world.observed []).holder = none := free
  obtain ⟨_, changed, ended, checked⟩ :=
    checked_of_idle setup.observed force observedIdle observedFree
  unfold checkPosts
  rw [ended]
  exact checked.posts

/-! ## The whole of a check -/

/-- What a check has done to the memory, to the file, to the flag and to the channel, by
the way it ended. -/
structure Effect (setup : Setup σ) (world : World σ)
    (result : Except CheckError CheckOutcome)
    (changed : World σ) (posts : List Announcement.Post) : Prop where
  /-- The check is refused exactly when another one is under way. -/
  refused : result = .ok .busy <-> world.busy = true
  /-- A check that is refused changes nothing, and the other one is still under way. -/
  ignored : world.busy = true -> changed = world
  /-- Unless it announced or noted a release, the memory and the disk are as they
  were. -/
  unchanged : notedBy? result = none -> changed.memory = world.memory ∧
    changed.disk = world.disk
  /-- A release that it announced or noted is the latest of its listing.  It is now the
  last release of the memory, which is the same otherwise, and the file holds the text
  of that. -/
  recorded : ∀ id, notedBy? result = some id ->
    (∃ latest after, setup.Finds world.outside latest after ∧ latest.id = id) ∧
      changed.memory = { world.memory with lastReleaseId := some id } ∧
      changed.disk.read setup.store.workingDirectory setup.store.path =
        .ok (Text.Utf8.bytes changed.memory.fileText)
  /-- A file that kept the memory keeps the new release, and the same otherwise. -/
  kept : ∀ id, notedBy? result = some id -> setup.store.kept world.disk = world.memory ->
    setup.store.kept changed.disk =
      { setup.store.kept world.disk with lastReleaseId := some id }
  /-- A check that announced its release, or tried to, handed over one post: that of the
  latest release, as the memory wants it. -/
  attempted : ∀ id, attemptedBy? result = some id ->
    ∃ latest after, setup.Finds world.outside latest after ∧ latest.id = id ∧
      posts = [releasePost world.memory latest]
  /-- A check that ended otherwise handed over nothing. -/
  silent : attemptedBy? result = none -> posts = []
  /-- The flag is clear and the memory is free, unless the check was refused. -/
  cleared : result ≠ .ok .busy -> changed.busy = false ∧ changed.holder = none

theorem effect_of_busy (setup : Setup σ) (force : Bool) (busy : world.busy = true) :
    Effect setup world (.ok .busy) world (checkPosts setup force world) where
  refused := ⟨fun _ => busy, fun _ => rfl⟩
  ignored := fun _ => rfl
  unchanged := fun _ => ⟨rfl, rfl⟩
  recorded := nofun
  kept := nofun
  attempted := nofun
  silent := fun _ => checkPosts_of_busy setup force busy
  cleared := fun notRefused => absurd rfl notRefused

theorem effect_of_idle
    {result : Except CheckError CheckOutcome}
    {changed : World σ}
    (checked : Checked setup force world.memory world.disk world.outside result changed)
    (idle : world.busy = false)
    (free : world.holder = none)
    (saved : ∀ error, result ≠ .error (.store error)) :
    Effect setup world result changed (checkPosts setup force world) := by
  rw [checkPosts_of_idle setup force idle free]
  refine
    { refused := iff_of_false checked.ne_busy (by simp [idle])
      ignored := fun busy => Bool.noConfusion (idle.symm.trans busy)
      unchanged := checked.unchanged saved
      recorded := ?_
      kept := ?_
      attempted := ?_
      silent := checked.not_attempted saved
      cleared := fun _ => checked.cleared }
  · intro id noted
    obtain ⟨found, memory, stored⟩ := checked.recorded noted
    rw [memory]
    exact ⟨found, rfl, stored⟩
  · intro id noted keeps
    obtain ⟨_, _, stored⟩ := checked.recorded noted
    have ofChannel : (world.memory.note (some id)).channelId = setup.store.channelId := by
      rw [← keeps]
      exact setup.store.channelId_restore _
    rw [Store.kept_of_read ofChannel stored, keeps]
    rfl
  · intro id attempt
    obtain ⟨latest, after, found, same, due⟩ := checked.attempted attempt
    refine ⟨latest, after, found, same, ?_⟩
    rw [duePosts_of_finds found, if_pos due]

end Effects

/-! ## Posts that failed -/

section Repetition

variable {σ : Type}

/-- After a post that failed, an unforced check with the same memory and the same
listing hands over the same post. -/
def RepeatsFailedPosts (setup : Setup σ) : Prop :=
  ∀ (force : Bool) (world later : World σ) (id : Release.Id),
    world.busy = false -> world.holder = none ->
    (check setup force world).1 = some (.ok (.postFailed id)) ->
    later.memory = (check setup force world).2.memory ->
    later.busy = false -> later.holder = none ->
    (setup.ports.fetch later.outside).1 = (setup.ports.fetch world.outside).1 ->
    checkPosts setup false later = checkPosts setup force world

/-- A watcher with one release in its listing, and whose posts are all rejected. -/
def rejectingSetup : Setup Unit where
  target := ⟨"owner", "sources", false, false⟩
  store := scriptedStore
  stamp := ⟨1, 1⟩
  ports :=
    { fetch := fun _ => (.ok [datedRelease 7 "2025-03-01T10:00:00Z"], ())
      post := fun _ _ => (.error ⟨"rejected", []⟩, ())
      fetchWaits := true }

/-- The watcher at rest, with a release that it remembers. -/
def rejectedWorld (last : UInt64) : World Unit :=
  .atRest ⟨some (.number last), "channel", false⟩ scriptedDisk ()

/-- A forced check tries to post a release that was announced before.  When that fails,
an unforced check does not try again. -/
theorem not_repeatsFailedPosts_forced : ¬ RepeatsFailedPosts rejectingSetup := by
  intro repeats
  have failed : (check rejectingSetup true (rejectedWorld 7)).1 =
      some (.ok (.postFailed (.number 7))) := by
    decide +kernel
  have memory : (rejectedWorld 7).memory =
      (check rejectingSetup true (rejectedWorld 7)).2.memory := by
    decide +kernel
  have again :=
    repeats true (rejectedWorld 7) (rejectedWorld 7) (.number 7) rfl rfl failed memory
    rfl rfl rfl
  have different : checkPosts rejectingSetup false (rejectedWorld 7) ≠
      checkPosts rejectingSetup true (rejectedWorld 7) := by
    decide +kernel
  exact different again

/-- A check that may have the memory ends, with an observer as without one, and does no
more than its ending tells.  After a post that failed, an unforced check with the same
memory and the same listing hands over the same post if the release is due without
force, as it is when the check that failed was not forced. -/
theorem check_effect
    (setup : Setup σ)
    (force : Bool)
    (world : World σ)
    (free : world.busy = false -> world.holder = none)
    (saved : ∀ error, (check setup force world).1 ≠ some (.error (.store error))) :
    ∃ result changed, check setup force world = (some result, changed) ∧
      check setup.observed force (world.observed []) =
        (some result, changed.observed (checkPosts setup force world)) ∧
      Effect setup world result changed (checkPosts setup force world) ∧
      ∀ id, result = .ok (.postFailed id) ->
        ∃ latest after, setup.Finds world.outside latest after ∧ latest.id = id ∧
          (force = false -> isDue setup.target false world.memory latest = true) ∧
          ∀ (stamp : Stamp) (later : World σ),
            later.memory = changed.memory ->
            later.busy = false -> later.holder = none ->
            (setup.ports.fetch later.outside).1 = (setup.ports.fetch world.outside).1 ->
            checkPosts { setup with stamp := stamp } false later =
              if isDue setup.target false world.memory latest then
                checkPosts setup force world
              else [] := by
  have observed := check_observed setup force world
  cases idle : world.busy with
  | true =>
      have ended := check_of_busy setup force idle
      rw [ended] at observed
      exact ⟨_, _, ended, observed, effect_of_busy setup force idle, nofun⟩
  | false =>
      obtain ⟨result, changed, ended, checked⟩ :=
        checked_of_idle setup force idle (free idle)
      rw [ended] at observed saved
      have effect := effect_of_idle checked idle (free idle)
        fun error failed => saved error (congrArg some failed)
      refine ⟨result, changed, ended, observed, effect, ?_⟩
      rintro id rfl
      obtain ⟨latest, after, found, same, due⟩ := checked.attempted rfl
      refine ⟨latest, after, found, same, fun unforced => unforced ▸ due, ?_⟩
      intro stamp later memory laterIdle laterFree listing
      rw [(effect.unchanged rfl).1] at memory
      have laterPosts :=
        checkPosts_of_idle { setup with stamp := stamp } false laterIdle laterFree
      rw [laterPosts, checkPosts_of_idle setup force idle (free idle), memory]
      dsimp only
      rw [listing, duePosts_of_finds found, duePosts_of_finds found, if_pos due]

/-- The announcement of a successor is rejected, and the next check tries it once
more. -/
theorem check_effect_rejected :
    (check rejectingSetup false (rejectedWorld 6)).1 =
      some (.ok (.postFailed (.number 7))) ∧
      (check rejectingSetup false (rejectedWorld 6)).2.memory = (rejectedWorld 6).memory ∧
      (checkPosts rejectingSetup false (rejectedWorld 6)).length = 1 ∧
      checkPosts rejectingSetup false (check rejectingSetup false (rejectedWorld 6)).2 =
        checkPosts rejectingSetup false (rejectedWorld 6) := by
  have failed : (check rejectingSetup false (rejectedWorld 6)).1 =
      some (.ok (.postFailed (.number 7))) := by
    decide +kernel
  obtain ⟨result, changed, ended, _, effect, again⟩ :=
    check_effect rejectingSetup false (rejectedWorld 6) (fun _ => rfl)
      (by rw [failed]; nofun)
  rw [ended] at failed ⊢
  obtain rfl := Option.some.inj failed
  obtain ⟨_, _, _, _, onePost⟩ := effect.attempted (.number 7) rfl
  obtain ⟨latest, _, _, _, due, repeated⟩ := again (.number 7) rfl
  obtain ⟨memory, _⟩ := effect.unchanged rfl
  obtain ⟨idle, free⟩ := effect.cleared nofun
  have posts := repeated ⟨1, 1⟩ changed rfl idle free rfl
  rw [if_pos (due rfl)] at posts
  exact ⟨failed, memory, congrArg List.length onePost, posts⟩

end Repetition

end Watch
end FlemishDesk
