import FlemishDesk.Announcement.Channel
import FlemishDesk.Proofs.Announcement.Mentions
import FlemishDesk.Proofs.Http.Calls
import FlemishDesk.Proofs.Json.RoundTrip

/-!
# The first line and the payload of a post

An announcement that is to call everyone does so in its first line.  In any other
announcement the first line is something else, whatever its texts say.  A channel gets
the announcement with the permission to call everyone as JSON, from which both are read
back.  It gets them by one call, and takes them when the answer to that call is a
success.
-/

namespace FlemishDesk
namespace Announcement

/-- The first line of a text. -/
def firstLine (text : String) : List Char :=
  text.toList.takeWhile (· != '\n')

/-! ## First lines -/

theorem firstLine_of_toList_eq
    {text : String}
    {line rest : List Char}
    (unbroken : '\n' ∉ line)
    (spelled : text.toList = line ++ '\n' :: rest) :
    firstLine text = line := by
  rw [firstLine, spelled, List.takeWhile_append_of_pos]
  · simp
  · intro c present
    rw [bne_iff_ne]
    rintro rfl
    exact unbroken present

/-- A text whose first line is put before a rest calls everyone in its first line only
if it is to do so, provided that the rest does not begin with a call. -/
theorem firstLine_eq_everyone_iff
    {mentionEveryone : Bool}
    {message : String}
    {rest : List Char}
    (spelled : message.toList = lineChars (if mentionEveryone then [everyone] else []) ++
      rest)
    (apart : ¬ everyone.toList <+: rest) :
    firstLine message = everyone.toList <-> mentionEveryone = true := by
  cases mentionEveryone with
  | true =>
      have lines : message.toList = everyone.toList ++ '\n' :: rest :=
        spelled.trans (by simp [lineChars])
      exact iff_of_true (firstLine_of_toList_eq (by decide) lines) rfl
  | false =>
      have same : message.toList = rest := spelled
      refine iff_of_false ?_ Bool.false_ne_true
      intro calls
      apply apart
      rw [← calls, firstLine, same]
      exact List.takeWhile_prefix _

theorem firstLine_ofRelease_eq_everyone_iff (release : Release) (mentionEveryone : Bool) :
    firstLine (ofRelease release mentionEveryone) = everyone.toList <->
      mentionEveryone = true := by
  apply firstLine_eq_everyone_iff (toList_ofRelease release mentionEveryone)
  -- The title stands between asterisks.
  rintro ⟨others, begins⟩
  have first := congrArg List.head? begins
  simp [fromTitle, everyone] at first

/-- An announcement by hand behind the line that calls everyone, if there is one. -/
def behindCall (text : String) (mentionEveryone : Bool) : List Char :=
  (if mentionEveryone then ['\n'] else []) ++
    (Text.shorten (bodyBudget (manualHeader mentionEveryone) linksLine)
      truncationSuffix.toList
      (manualBody text).toList ++ '\n' :: '\n' :: linksLine.toList)

theorem toList_manual (text : String) (mentionEveryone : Bool) :
    (manual text mentionEveryone).toList =
      lineChars (if mentionEveryone then [everyone] else []) ++
        behindCall text mentionEveryone := by
  rw [manual, toList_assemble, behindCall]
  cases mentionEveryone <;> simp [manualHeader, lineChars]

theorem not_infix_behindCall
    {mark : List Char}
    (present : mark ∈ mentions)
    (text : String)
    (mentionEveryone : Bool) :
    ¬ mark <:+: behindCall text mentionEveryone := by
  have isMention := isMention_of_mem present
  have bodyFree : ¬ mark <:+: (manualBody text).toList :=
    not_infix_orElse present text (by decide)
  unfold behindCall
  rw [isMention.infix_append_iff (by cases mentionEveryone <;> decide)]
  exact not_infix_shorten_links present _ bodyFree

theorem firstLine_manual_eq_everyone_iff (text : String) (mentionEveryone : Bool) :
    firstLine (manual text mentionEveryone) = everyone.toList <->
      mentionEveryone = true := by
  apply firstLine_eq_everyone_iff (toList_manual text mentionEveryone)
  intro begins
  exact not_infix_behindCall (by simp [mentions]) text mentionEveryone begins.isInfix

/-! ## Payloads -/

theorem fits_payload (post : Post) : Json.Fits Json.maxDepth post.payload := by
  intro field present
  simp only [List.mem_cons, List.not_mem_nil, or_false] at present
  rcases present with rfl | rfl
  · simp [Json.Fits]
  · intro inner innerPresent
    obtain rfl := List.mem_singleton.mp innerPresent
    intro item listed
    obtain ⟨mention, _, rfl⟩ := List.mem_map.mp listed
    simp [Json.Fits]

/-- What is sent to a channel is read as the payload of the post. -/
theorem readBytes?_body_call (channel : Channel) (post : Post) :
    Json.readBytes? (Text.Utf8.bytes (channel.call post).body) = some post.payload :=
  Json.readBytes?_compact (fits_payload post)

theorem field?_content_payload (post : Post) :
    (post.payload.field? "content").bind Json.string? = some post.content := by
  simp [Post.payload, Json.field?, Json.lastField?, Json.string?]

theorem field?_parse_payload (post : Post) :
    (post.payload.field? "allowed_mentions").bind (Json.field? "parse") =
      some (.array (post.allowedMentions.map .string)) := by
  simp [Post.payload, Json.field?, Json.lastField?]

/-! ## Deliveries -/

/-- Over every network, a delivery of a post to a channel makes the call that carries
the post, as far as this can be made, and no other.  It succeeds when the call is
answered with a success. -/
structure Channel.Delivers {ε : Type} (channel : Channel) (post : Post)
    (delivery : ∀ {σ : Type}, Http.Network σ -> σ -> Except ε Unit × σ) : Prop where
  listed : ∀ {σ : Type} (network : Http.Network σ) (state : σ) (calls : List Http.Call),
    delivery (Http.recorded network) (state, calls) =
      ((delivery network state).1,
        ((delivery network state).2, calls ++ Http.reaching network [channel.call post]))
  taken_iff : ∀ {σ : Type} (network : Http.Network σ) (state : σ),
    (delivery network state).1 = .ok () <->
      network.obstacle? (channel.call post) = none ∧
        ∃ status body,
          (network.deliver (channel.call post) state).1.delivery = .answered status body ∧
            200 ≤ status ∧ status < 300

theorem Channel.fst_post_eq_ok_iff
    {σ : Type}
    (network : Http.Network σ)
    (channel : Channel)
    (post : Post)
    (state : σ) :
    (channel.post network post state).1 = .ok () <->
      ∃ status body,
        (Http.send network none (channel.call post) state).1 = .answer status body ∧
        200 ≤ status ∧ status < 300 := by
  unfold Channel.post
  cases Http.send network none (channel.call post) state with
  | mk result after =>
      cases result with
      | failed failure => simp
      | silent => simp
      | answer status body =>
          dsimp only
          by_cases success : Http.isSuccess status = true
          · rw [if_pos success]
            exact iff_of_true rfl
              ⟨status, body, rfl, (Http.isSuccess_iff status).mp success⟩
          · rw [if_neg success]
            simpa [Http.isSuccess_iff] using success

theorem Channel.delivers_post (channel : Channel) (post : Post) :
    channel.Delivers post fun network state => channel.post network post state where
  listed := by
    intro σ network state calls
    cases sent : Http.send network none (channel.call post) state with
    | mk result after =>
        have sentToo := Http.send_recorded sent calls
        unfold Channel.post
        rw [sentToo, sent]
        cases result with
        | failed failure => rfl
        | silent => rfl
        | answer status body =>
            dsimp only
            split <;> rfl
  taken_iff := by
    intro σ network state
    rw [channel.fst_post_eq_ok_iff]
    simp only [Http.send_eq_answer_iff, Option.not_mem_none]
    constructor
    · rintro ⟨status, body, ⟨free, answered, _⟩, success⟩
      exact ⟨free, status, body, answered, success⟩
    · rintro ⟨free, status, body, answered, success⟩
      exact ⟨status, body, ⟨free, answered, nofun⟩, success⟩

/-- The permission to call everyone is given to a post that does so in its first line
and to no other.  Whatever channel gets the post reads its text and the permission, and
posting it to the channel is the call that carries them. -/
structure Post.Consistent (post : Post) : Prop where
  flag : post.allowEveryone = true <-> firstLine post.content = everyone.toList
  sent : ∀ channel : Channel, ∃ payload,
    Json.readBytes? (Text.Utf8.bytes (channel.call post).body) = some payload ∧
      (payload.field? "content").bind Json.string? = some post.content ∧
      (payload.field? "allowed_mentions").bind (Json.field? "parse") =
        some (.array
          (if firstLine post.content = everyone.toList then [.string "everyone"] else []))
  delivered : ∀ channel : Channel,
    channel.Delivers post fun network state => channel.post network post state

theorem Post.consistent_of_flag
    {post : Post}
    (flag : post.allowEveryone = true <-> firstLine post.content = everyone.toList) :
    post.Consistent := by
  refine ⟨flag, fun channel => ⟨post.payload, ?_, ?_, ?_⟩,
    fun channel => channel.delivers_post post⟩
  · exact readBytes?_body_call channel post
  · exact field?_content_payload post
  · rw [field?_parse_payload, Post.allowedMentions]
    by_cases calls : firstLine post.content = everyone.toList
    · rw [if_pos calls, if_pos (flag.mpr calls)]
      rfl
    · rw [if_neg calls, if_neg (mt flag.mp calls)]
      rfl

end Announcement
end FlemishDesk
