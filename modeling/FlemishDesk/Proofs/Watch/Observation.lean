import FlemishDesk.Proofs.Watch.Interleaving

/-!
# Observed posts

An observer stands between a watcher and the channel and writes down every post that is
handed over, whether the channel takes it or not.  The watcher does the same with an
observer and without one, so that what is written down is what the watcher hands over.
-/

namespace FlemishDesk
namespace Watch

variable {σ : Type}

/-- The ways out, with the posts that were handed over in order. -/
def Ports.observed (ports : Ports σ) : Ports (σ × List Announcement.Post) where
  fetch := fun outside =>
    let (result, after) := ports.fetch outside.1
    (result, (after, outside.2))
  post := fun post outside =>
    let (result, after) := ports.post post outside.1
    (result, (after, outside.2 ++ [post]))
  fetchWaits := ports.fetchWaits

/-- The watcher with an observer. -/
def Setup.observed (setup : Setup σ) : Setup (σ × List Announcement.Post) where
  target := setup.target
  store := setup.store
  stamp := setup.stamp
  ports := setup.ports.observed

/-- The world, and the posts that an observer has written down. -/
def World.observed (world : World σ) (posts : List Announcement.Post) :
    World (σ × List Announcement.Post) where
  memory := world.memory
  holder := world.holder
  busy := world.busy
  disk := world.disk
  outside := (world.outside, posts)

/-- The post that an operation hands over by its next step. -/
def Operation.handing? : Operation -> Option Announcement.Post
  | .check _ (.posting _ post) => some post
  | .announce _ (.posting post) => some post
  | _ => none

/-! ## One step -/

section Steps

attribute [local irreducible] Store.save

variable (setup : Setup σ) (tag : Nat) (world : World σ) (posts : List Announcement.Post)

theorem take?_observed :
    (world.observed posts).take? tag = (world.take? tag).map (·.observed posts) := by
  unfold World.take? World.observed
  cases world.holder <;> rfl

theorem save_observed :
    (world.observed posts).save setup.observed =
      ((world.save setup).1, (world.save setup).2.observed posts) :=
  rfl

theorem checkStep_observed (force : Bool) (phase : CheckPhase) :
    checkStep setup.observed tag force phase (world.observed posts) =
      ((checkStep setup tag force phase world).1,
        (checkStep setup tag force phase world).2.observed
          (posts ++ (Operation.check force phase).handing?.toList)) := by
  cases phase with
  | posting latest post =>
      unfold checkStep
      dsimp only
      rw [post_eq, post_eq]
      cases delivered : setup.ports.post post world.outside with
      | mk result after =>
          have same : setup.observed.ports.post post (world.observed posts).outside =
              (result, (after, posts ++ [post])) := by
            simp only [Setup.observed, Ports.observed, World.observed, delivered]
          rw [same]
          cases result <;> rfl
  | starting =>
      simp only [Operation.handing?, Option.toList_none, List.append_nil]
      unfold checkStep
      dsimp only
      rw [show (world.observed posts).busy = world.busy from rfl]
      cases world.busy <;> rfl
  | locking latest =>
      simp only [Operation.handing?, Option.toList_none, List.append_nil]
      unfold checkStep
      dsimp only
      rw [take?_observed]
      cases world.take? tag <;> rfl
  | saving outcome =>
      simp only [Operation.handing?, Option.toList_none, List.append_nil]
      unfold checkStep
      dsimp only
      rw [save_observed]
      cases world.save setup with
      | mk result changed => cases result <;> rfl
  | fetching | deciding _ | recording _ _ | unlocking _ | clearing _ | ended _ =>
      simp only [Operation.handing?, Option.toList_none, List.append_nil]
      rfl

theorem toggleStep_observed (phase : TogglePhase) :
    toggleStep setup.observed tag phase (world.observed posts) =
      ((toggleStep setup tag phase world).1,
        (toggleStep setup tag phase world).2.observed posts) := by
  cases phase with
  | locking =>
      unfold toggleStep
      dsimp only
      rw [take?_observed]
      cases world.take? tag <;> rfl
  | saving =>
      unfold toggleStep
      dsimp only
      rw [save_observed]
      cases world.save setup with
      | mk result changed => cases result <;> rfl
  | flipping | unlocking _ | ended _ => rfl

theorem announceStep_observed (text : String) (phase : AnnouncePhase) :
    announceStep setup.observed tag text phase (world.observed posts) =
      ((announceStep setup tag text phase world).1,
        (announceStep setup tag text phase world).2.observed
          (posts ++ (Operation.announce text phase).handing?.toList)) := by
  cases phase with
  | posting post => rfl
  | locking =>
      simp only [Operation.handing?, Option.toList_none, List.append_nil]
      unfold announceStep
      dsimp only
      rw [take?_observed]
      cases world.take? tag <;> rfl
  | reading | unlocking _ | ended _ =>
      simp only [Operation.handing?, Option.toList_none, List.append_nil]
      rfl

/-- An observer changes nothing, and writes down what an operation hands over. -/
theorem step_observed (operation : Operation) :
    step setup.observed tag operation (world.observed posts) =
      ((step setup tag operation world).1,
        (step setup tag operation world).2.observed
          (posts ++ operation.handing?.toList)) := by
  cases operation with
  | check force phase =>
      unfold step
      dsimp only
      rw [checkStep_observed]
  | toggle phase =>
      simp only [Operation.handing?, Option.toList_none, List.append_nil]
      unfold step
      dsimp only
      rw [toggleStep_observed]
  | announce text phase =>
      unfold step
      dsimp only
      rw [announceStep_observed]

end Steps

/-! ## Whole operations and whole runs -/

theorem steps_observed
    (setup : Setup σ)
    (tag count : Nat)
    (operation : Operation)
    (world : World σ)
    (posts : List Announcement.Post) :
    ∃ more, steps setup.observed tag count operation (world.observed posts) =
      ((steps setup tag count operation world).1,
        (steps setup tag count operation world).2.observed (posts ++ more)) := by
  induction count generalizing operation world posts with
  | zero => exact ⟨[], by rw [List.append_nil]; rfl⟩
  | succ count inductionHypothesis =>
      obtain ⟨more, others⟩ := inductionHypothesis (step setup tag operation world).1
        (step setup tag operation world).2 (posts ++ operation.handing?.toList)
      refine ⟨operation.handing?.toList ++ more, ?_⟩
      unfold steps
      dsimp only
      rw [step_observed, others, List.append_assoc]

/-- The posts that a check hands over. -/
def checkPosts (setup : Setup σ) (force : Bool) (world : World σ) :
    List Announcement.Post :=
  (check setup.observed force (world.observed [])).2.outside.2

/-- A check with an observer is the check without one, and its posts. -/
theorem check_observed (setup : Setup σ) (force : Bool) (world : World σ) :
    check setup.observed force (world.observed []) =
      ((check setup force world).1,
        (check setup force world).2.observed (checkPosts setup force world)) := by
  obtain ⟨more, ran⟩ := steps_observed setup 0 longest (.check force .starting) world []
  have observed : check setup.observed force (world.observed []) =
      ((check setup force world).1, (check setup force world).2.observed more) := by
    unfold check
    rw [ran]
    rfl
  unfold checkPosts
  rw [observed]
  rfl

namespace Crowd

/-- The crowd, and the posts that an observer has written down. -/
def observed (crowd : Crowd σ) (posts : List Announcement.Post) :
    Crowd (σ × List Announcement.Post) where
  operations := crowd.operations
  world := crowd.world.observed posts

theorem next_observed
    (setup : Setup σ)
    (crowd : Crowd σ)
    (posts : List Announcement.Post)
    (move : Move) :
    (crowd.observed posts).next setup.observed move =
      (crowd.next setup move).observed
        (posts ++ ((crowd.acting? move).bind Operation.handing?).toList) := by
  cases move with
  | launch task =>
      rw [acting?, Option.bind_none, Option.toList_none, List.append_nil]
      rfl
  | advance tag stamp =>
      cases present : crowd.operations[tag]? with
      | none =>
          have absent : (crowd.observed posts).operations[tag]? = none := present
          simp only [next, acting?, present, absent, Option.bind_none, Option.toList_none,
            List.append_nil]
      | some operation =>
          have acting : (crowd.observed posts).operations[tag]? = some operation :=
            present
          have stamped : { setup.observed with stamp := stamp } =
              { setup with stamp := stamp }.observed := rfl
          rw [next_advance present, next_advance acting, acting?, present,
            Option.bind_some, stamped]
          simp only [observed, step_observed]

/-- An observer of a whole run has written down what the operations handed over, in
order. -/
theorem after_observed
    (setup : Setup σ)
    (crowd : Crowd σ)
    (posts : List Announcement.Post)
    (moves : List Move) :
    (crowd.observed posts).after setup.observed moves =
      (crowd.after setup moves).observed
        (posts ++ crowd.seen setup Operation.handing? moves) := by
  induction moves generalizing crowd posts with
  | nil =>
      rw [seen, List.append_nil]
      rfl
  | cons move moves inductionHypothesis =>
      rw [seen, ← List.append_assoc, after, List.foldl_cons, next_observed]
      exact inductionHypothesis _ _

end Crowd

end Watch
end FlemishDesk
