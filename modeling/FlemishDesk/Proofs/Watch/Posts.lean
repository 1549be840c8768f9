import FlemishDesk.Proofs.Announcement.Payload
import FlemishDesk.Proofs.Watch.Alone
import FlemishDesk.Proofs.Watch.Observation

/-!
# What is posted

An operation composes its post from one look at the memory: the mention that it finds
there decides both the first line and the permission that is sent along.  The memory may
change before the post is handed over, but the post does not.  So in every interleaving
the permission is given exactly for the posts that call everyone in their first line.
Over a network, handing over a post is the call of the channel that carries it.
-/

namespace FlemishDesk
namespace Watch

variable {σ : Type}

/-- A release that is the latest of a listing. -/
def Setup.Lists (setup : Setup σ) (latest : Release) : Prop :=
  ∃ outside after, setup.Finds outside latest after

/-- A post that a watcher composes: the announcement of a release that is listed, or
that of a text which it was asked to announce. -/
inductive Composed (listed : Release -> Prop) (asked : String -> Prop) :
    Announcement.Post -> Prop where
  | release {latest : Release} (found : listed latest) (memory : Memory) :
      Composed listed asked (releasePost memory latest)
  | text {text : String} (wanted : asked text) (mentionEveryone : Bool) :
      Composed listed asked (manualPost mentionEveryone text)

/-- The post of an operation is composed, and so will be the one that it has yet to
compose. -/
def Operation.Composes (listed : Release -> Prop) (asked : String -> Prop) :
    Operation -> Prop
  | .check _ (.locking latest) => listed latest
  | .check _ (.deciding latest) => listed latest
  | .check _ (.posting _ post) => Composed listed asked post
  | .announce _ (.posting post) => Composed listed asked post
  | .announce _ (.ended _) => True
  | .announce text _ => asked text
  | _ => True

section Steps

attribute [local irreducible] Store.save

variable {setup : Setup σ} {asked : String -> Prop} {tag : Nat} {world : World σ}

theorem composes_afterFetch
    (setup : Setup σ)
    (asked : String -> Prop)
    (force : Bool)
    (outside : σ) :
    (Operation.check force
      (afterFetch setup.target (setup.ports.fetch outside).1)).Composes
      setup.Lists asked := by
  unfold afterFetch
  cases fetched : setup.ports.fetch outside with
  | mk result after =>
      cases result with
      | error error => trivial
      | ok releases =>
          dsimp only
          split
          · trivial
          · next latest chosen => exact ⟨outside, after, releases, fetched, chosen⟩

theorem composes_settle
    {force : Bool}
    {latest : Release}
    (found : setup.Lists latest)
    (memory : Memory) :
    (Operation.check force (settle setup.target force memory latest)).Composes setup.Lists
      asked := by
  rcases settle_cases setup.target force memory latest with settled | settled | settled
  · rw [settled]
    trivial
  · rw [settled]
    trivial
  · rw [settled]
    exact .release found memory

theorem composes_checkStep
    {force : Bool}
    {phase : CheckPhase}
    (composes : (Operation.check force phase).Composes setup.Lists asked) :
    (Operation.check force (checkStep setup tag force phase world).1).Composes setup.Lists
      asked := by
  unfold checkStep
  cases phase with
  | starting =>
      dsimp only
      split <;> trivial
  | fetching => exact composes_afterFetch setup asked force world.outside
  | locking latest =>
      dsimp only
      split <;> exact composes
  | deciding latest => exact composes_settle composes world.memory
  | posting latest post =>
      dsimp only
      split <;> trivial
  | saving outcome =>
      dsimp only
      split <;> trivial
  | recording _ _ | unlocking _ | clearing _ | ended _ => trivial

theorem composes_announceStep
    {text : String}
    {phase : AnnouncePhase}
    (composes : (Operation.announce text phase).Composes setup.Lists asked) :
    (Operation.announce text (announceStep setup tag text phase world).1).Composes
      setup.Lists
      asked := by
  unfold announceStep
  cases phase with
  | locking =>
      dsimp only
      split <;> exact composes
  | reading => exact composes
  | unlocking mentionEveryone => exact .text composes mentionEveryone
  | posting post => trivial
  | ended result => trivial

theorem composes_step
    (setup : Setup σ)
    (tag : Nat)
    (world : World σ)
    {operation : Operation}
    (composes : operation.Composes setup.Lists asked) :
    (step setup tag operation world).1.Composes setup.Lists asked := by
  unfold step
  cases operation with
  | check force phase => exact composes_checkStep composes
  | toggle phase => exact True.intro
  | announce text phase => exact composes_announceStep composes

/-- What an operation hands over is composed. -/
theorem composed_of_handing?
    {operation : Operation}
    (composes : operation.Composes setup.Lists asked)
    {post : Announcement.Post}
    (handing : operation.handing? = some post) :
    Composed setup.Lists asked post := by
  unfold Operation.handing? at handing
  split at handing
  · exact Option.some.inj handing ▸ composes
  · exact Option.some.inj handing ▸ composes
  · nomatch handing

end Steps

/-! ## Runs -/

namespace Crowd

variable {setup : Setup σ} {asked : String -> Prop} {crowd : Crowd σ}

theorem composes_next
    (composes : ∀ operation ∈ crowd.operations, operation.Composes setup.Lists asked)
    (move : Move)
    (wanted : ∀ text, move = .launch (.announce text) -> asked text) :
    ∀ operation ∈ (crowd.next setup move).operations,
      operation.Composes setup.Lists asked := by
  intro operation member
  cases move with
  | launch task =>
      rcases List.mem_append.mp member with earlier | launched
      · exact composes operation earlier
      · obtain rfl := List.mem_singleton.mp launched
        cases task with
        | announce text => exact wanted text rfl
        | check force => trivial
        | toggle => trivial
  | advance tag stamp =>
      cases present : crowd.operations[tag]? with
      | none =>
          simp only [next, present] at member
          exact composes operation member
      | some acting =>
          rw [next_advance present] at member
          rcases List.mem_or_eq_of_mem_set member with other | rfl
          · exact composes operation other
          · have acts : acting.Composes { setup with stamp := stamp }.Lists asked :=
              composes acting (List.mem_of_getElem? present)
            exact composes_step { setup with stamp := stamp } tag crowd.world acts

/-- Whatever is handed over in a run is composed. -/
theorem composed_of_mem_seen
    (composes : ∀ operation ∈ crowd.operations, operation.Composes setup.Lists asked)
    {moves : List Move}
    (wanted : ∀ text, Move.launch (.announce text) ∈ moves -> asked text)
    {post : Announcement.Post}
    (handed : post ∈ crowd.seen setup Operation.handing? moves) :
    Composed setup.Lists asked post := by
  induction moves generalizing crowd with
  | nil => cases handed
  | cons move moves inductionHypothesis =>
      rw [seen, List.mem_append, Option.mem_toList] at handed
      rcases handed with now | later
      · obtain ⟨operation, acting, handing⟩ := Option.bind_eq_some_iff.mp now
        have member : operation ∈ crowd.operations := by
          cases move with
          | launch task => cases acting
          | advance tag stamp => exact List.mem_of_getElem? acting
        exact composed_of_handing? (composes operation member) handing
      · refine inductionHypothesis (composes_next composes move ?_) ?_ later
        · rintro text rfl
          exact wanted text List.mem_cons_self
        · intro text launched
          exact wanted text (List.mem_cons_of_mem move launched)

end Crowd

theorem Composed.consistent
    {listed : Release -> Prop}
    {asked : String -> Prop}
    {post : Announcement.Post}
    (composed : Composed listed asked post) :
    post.Consistent := by
  apply Announcement.Post.consistent_of_flag
  cases composed with
  | release _ memory =>
      exact (Announcement.firstLine_ofRelease_eq_everyone_iff _
        memory.mentionEveryone).symm
  | text _ mentionEveryone =>
      exact (Announcement.firstLine_manual_eq_everyone_iff _ mentionEveryone).symm

/-- The ways out over a network deliver a post as the channel does. -/
theorem delivers_over
    (fetchWaits : Bool)
    (feed : Release.Feed)
    (channel : Announcement.Channel)
    (target : Target)
    (post : Announcement.Post) :
    channel.Delivers post fun network state =>
      (Ports.over network fetchWaits feed channel target).post post state where
  listed := by
    intro τ network state calls
    unfold Ports.over
    dsimp only
    rw [(channel.delivers_post post).listed network state calls]
  taken_iff := by
    intro τ network state
    rw [← (channel.delivers_post post).taken_iff network state]
    unfold Ports.over
    dsimp only
    cases (channel.post network post state).1 <;> simp [Except.mapError]

/-- In every interleaving of operations, every post that is handed over is consistent.
Its text is the announcement of a release that is the latest of a listing, or of a text
that was to be announced by hand.  Where the ways out go over a network, handing it over
makes the call that carries it, and no other. -/
theorem handed_post_consistent
    (setup : Setup σ)
    (world : World σ)
    (moves : List Move)
    {post : Announcement.Post}
    (handed : post ∈
      (((Crowd.mk [] world).observed []).after setup.observed moves).world.outside.2) :
    post.Consistent ∧
      ((∃ latest outside after, setup.Finds outside latest after ∧
        post.content = Announcement.ofRelease latest post.allowEveryone) ∨
      ∃ text, Move.launch (.announce text) ∈ moves ∧
        post.content = Announcement.manual text post.allowEveryone) ∧
      ∀ (fetchWaits : Bool) (feed : Release.Feed) (channel : Announcement.Channel),
        channel.Delivers post fun network state =>
          (Ports.over network fetchWaits feed channel setup.target).post post state := by
  rw [Crowd.after_observed, List.nil_append] at handed
  have composed :
      Composed setup.Lists (fun text => Move.launch (.announce text) ∈ moves) post :=
    Crowd.composed_of_mem_seen (List.forall_mem_nil _) (fun _ launched => launched) handed
  refine ⟨composed.consistent, ?_, fun fetchWaits feed channel =>
    delivers_over fetchWaits feed channel setup.target post⟩
  cases composed with
  | @release latest found memory =>
      obtain ⟨outside, after, found⟩ := found
      exact .inl ⟨latest, outside, after, found, rfl⟩
  | @text text wanted mentionEveryone => exact .inr ⟨text, wanted, rfl⟩

/-- An announcement by hand is composed, the mention is switched, and the announcement
is handed over. -/
theorem handed_post_consistent_switched :
    let moves : List Move :=
      [.launch (.announce "Dag @everyone"), .launch .toggle] ++
        Crowd.inTurn 1 [0, 0, 0, 1, 1, 0]
    let crowd := ((Crowd.mk [] Crowd.contendedWorld).observed []).after
      Crowd.contendedSetup.observed moves
    let post := manualPost true "Dag @everyone"
    crowd.world.memory.mentionEveryone = false ∧ post ∈ crowd.world.outside.2 ∧
      post.Consistent := by
  intro moves crowd post
  have switched : crowd.world.memory.mentionEveryone = false := rfl
  have posts : crowd.world.outside.2 = [post] := rfl
  have handed : post ∈ crowd.world.outside.2 := posts ▸ List.mem_singleton_self post
  exact ⟨switched, handed,
    (handed_post_consistent Crowd.contendedSetup Crowd.contendedWorld moves handed).1⟩

end Watch
end FlemishDesk
