import FlemishDesk.Proofs.Admission.Burst
import FlemishDesk.Proofs.Server.Endpoint

/-!
# Who is turned away

Every request to the chat endpoint charges its client once, before anything else about
it is looked at, and no other request charges anybody.  So among requests within one
window a request is turned away exactly when it is for the endpoint and its client has
used up its requests, whatever became of these.
-/

namespace FlemishDesk
namespace Server

/-! ## Statuses -/

@[simp] theorem status_withoutBody (response : Http.Response) :
    response.withoutBody.status = response.status :=
  rfl

@[simp] theorem status_empty (status : Nat) (headers : Http.Headers) :
    (Http.Response.empty status headers).status = status :=
  rfl

@[simp] theorem status_json (status : Nat) (body : Json) :
    (Http.Response.json status body).status = status :=
  rfl

/-- The limiter comes first: what is wrong with a body is never that its client asks too
often. -/
theorem messages_ne_rateLimited (limits : Limits) (request : Http.Request) :
    messages limits request ≠ .error .rateLimited := by
  unfold messages
  repeat' split
  all_goals simp

theorem status_outcomeResponse_ne (outcome : Chat.Outcome) :
    (outcomeResponse outcome).status ≠ 429 := by
  cases outcome <;> simp [outcomeResponse, assistantReply]

theorem status_answerAdmitted_ne
    {σ : Type}
    (limits : Limits)
    (model : Chat.Model σ)
    (request : Http.Request)
    (state : σ) :
    (answerAdmitted limits model request state).1.status ≠ 429 := by
  unfold answerAdmitted
  cases carried : messages limits request with
  | error rejection =>
      cases rejection with
      | rateLimited => exact absurd carried (messages_ne_rateLimited limits request)
      | tooLarge | notJson | notObject | noMessages => simp [Rejection.response]
  | ok values => exact status_outcomeResponse_ne _

theorem status_serve_ne
    (site : Site)
    (request : Http.Request)
    (names : List Storage.Name) :
    (site.serve request names).status ≠ 429 := by
  unfold Site.serve
  split
  · next error _ =>
      unfold Site.unreadable
      repeat' split
      all_goals simp
  · split
    · next response unmet =>
        unfold Site.unmet? at unmet
        dsimp only at unmet
        split at unmet
        · cases unmet
          simp
        · split at unmet
          · cases unmet
            simp
          · cases unmet
    · unfold Site.deliver
      dsimp only
      split <;> simp

/-- A site turns nobody away. -/
theorem status_respond_ne (site : Site) (request : Http.Request) :
    (site.respond request).status ≠ 429 := by
  unfold Site.respond
  split
  · simp
  · split
    · simp
    · split
      · split
        · exact status_serve_ne site request _
        · unfold Site.redirect
          split <;> simp
      · exact status_serve_ne site request _

/-- A request that is not for the endpoint is not turned away. -/
theorem status_handle_of_not_isChat
    {σ : Type}
    {request : Http.Request}
    (other : isChat request = false)
    (setup : Setup σ)
    (now : Nat)
    (state : State σ) :
    (handle setup now request state).1.status ≠ 429 := by
  have answered : (answerOther setup.site request).status ≠ 429 := by
    unfold answerOther
    repeat' split
    all_goals first | exact status_respond_ne _ request | simp
  unfold handle route
  simp only [other, Bool.false_eq_true, if_false]
  split
  · simp [permission]
  · rw [status_withHeaders]
    split
    · exact answered
    · exact answered

/-- A request to the endpoint is turned away when the limiter says so. -/
theorem status_handle_of_isChat
    {σ : Type}
    {request : Http.Request}
    (chat : isChat request = true)
    (setup : Setup σ)
    (now : Nat)
    (state : State σ) :
    (handle setup now request state).1.status = 429 <->
      (state.limiter.allow (Admission.clientKey request.headers request.peer) now).1 =
        false := by
  obtain ⟨limiter, model⟩ := state
  rw [handle_of_isChat chat, status_withHeaders]
  cases admitted :
    (limiter.allow (Admission.clientKey request.headers request.peer) now).1 with
  | false =>
      rw [answerChat_of_denied admitted]
      simp [Rejection.response]
  | true =>
      rw [answerChat_of_admitted admitted]
      simp [status_answerAdmitted_ne]

/-! ## Charging clients -/

/-- The requests to the endpoint, each as its client and its time. -/
def charges (arrivals : List (Nat × Http.Request)) : List (String × Nat) :=
  (arrivals.filter fun arrival => isChat arrival.2).map fun arrival =>
    (Admission.clientKey arrival.2.headers arrival.2.peer, arrival.1)

/-- The clients of the requests to the endpoint, one for each request. -/
def chatClients (arrivals : List (Nat × Http.Request)) : List String :=
  (charges arrivals).map Prod.fst

theorem charges_concat
    (earlier : List (Nat × Http.Request))
    (now : Nat)
    (request : Http.Request) :
    charges (earlier ++ [(now, request)]) =
      charges earlier ++
        if isChat request then [(Admission.clientKey request.headers request.peer, now)]
        else [] := by
  cases chat : isChat request <;> simp [charges, chat]

/-- The charges of arrivals within one window lie within it as well. -/
theorem oneWindow_charges
    {now : Nat}
    {arrivals : List (Nat × Http.Request)}
    (oneWindow : Admission.OneWindow (now :: arrivals.map Prod.fst)) :
    Admission.OneWindow (now :: (charges arrivals).map Prod.snd) := by
  apply oneWindow.mono
  apply List.cons_subset_cons
  rw [charges, List.map_map]
  exact List.map_subset _ (List.filter_subset_self _)

section Charging

variable {σ : Type} {setup : Setup σ}

/-- Handling a request lets the limiter decide on it when it is for the endpoint, and
leaves the limiter alone when it is not. -/
theorem limiter_handle (now : Nat) (request : Http.Request) (state : State σ) :
    (handle setup now request state).2.limiter =
      if isChat request then
        (state.limiter.allow (Admission.clientKey request.headers request.peer) now).2
      else state.limiter := by
  obtain ⟨limiter, model⟩ := state
  cases chat : isChat request with
  | false =>
      obtain ⟨response, answered⟩ := handle_of_not_isChat setup now chat
      rw [answered, if_neg (by simp)]
  | true =>
      rw [handle_of_isChat chat, if_pos rfl]
      cases admitted :
        (limiter.allow (Admission.clientKey request.headers request.peer) now).1 with
      | false => rw [answerChat_of_denied admitted]
      | true => rw [answerChat_of_admitted admitted]

theorem stateAfter_concat
    (state : State σ)
    (earlier : List (Nat × Http.Request))
    (arrival : Nat × Http.Request) :
    stateAfter setup state (earlier ++ [arrival]) =
      (handle setup arrival.1 arrival.2 (stateAfter setup state earlier)).2 := by
  rw [stateAfter, List.foldl_append]
  rfl

@[simp] theorem limit_stateAfter
    (state : State σ)
    (arrivals : List (Nat × Http.Request)) :
    (stateAfter setup state arrivals).limiter.limit = state.limiter.limit := by
  induction arrivals using List.reverseRecOn with
  | nil => rfl
  | append_singleton earlier arrival inductionHypothesis =>
      obtain ⟨now, request⟩ := arrival
      rw [stateAfter_concat, limiter_handle, ← inductionHypothesis]
      split
      · exact Admission.Limiter.limit_step _
          (.request (Admission.clientKey request.headers request.peer) now)
      · rfl

theorem limit_stateAfter_pos
    (positive : 0 < setup.limits.requestsPerMinute)
    (model : σ)
    (arrivals : List (Nat × Http.Request)) :
    0 < (stateAfter setup (setup.start model) arrivals).limiter.limit := by
  rw [limit_stateAfter]
  exact positive

/-- After requests within one window, the clients are charged for those to the
endpoint. -/
theorem charged_stateAfter
    (positive : 0 < setup.limits.requestsPerMinute)
    (model : σ)
    (arrivals : List (Nat × Http.Request))
    (oneWindow : Admission.OneWindow (arrivals.map Prod.fst)) :
    (stateAfter setup (setup.start model) arrivals).limiter.Charged
      (charges arrivals) := by
  induction arrivals using List.reverseRecOn with
  | nil => exact Admission.Limiter.charged_fresh _
  | append_singleton earlier arrival inductionHypothesis =>
      obtain ⟨now, request⟩ := arrival
      have before := inductionHypothesis (oneWindow.mono (by simp))
      rw [stateAfter_concat, limiter_handle, charges_concat]
      cases isChat request with
      | false => simpa using before
      | true =>
          apply before.allow_snd (limit_stateAfter_pos positive model earlier)
          exact oneWindow_charges (oneWindow.mono (by simp))

end Charging

/-- Among requests within one window, those are turned away that are for the chat
endpoint and whose client made as many requests to it before as the limit allows,
whatever became of these.  No other request changes the limiter, which in the end tracks
the clients of the endpoint, and which a sweep within the window leaves as it is. -/
theorem serve_turns_away_iff_used_up
    {σ : Type}
    (setup : Setup σ)
    (model : σ)
    (arrivals : List (Nat × Http.Request))
    (positive : 0 < setup.limits.requestsPerMinute)
    (oneWindow : Admission.OneWindow (arrivals.map Prod.fst)) :
    (∀ earlier now request later, arrivals = earlier ++ (now, request) :: later ->
      ∃ response next,
        (serve setup (setup.start model) arrivals)[earlier.length]? =
          some (response, next) ∧
        (response.status = 429 <->
          (request.method = "POST" ∧ request.path = "/api/chat") ∧
          setup.limits.requestsPerMinute ≤
            ((chatClients earlier).count
              (Admission.clientKey request.headers request.peer) : Int)) ∧
        (¬ (request.method = "POST" ∧ request.path = "/api/chat") ->
          next.limiter = (stateAfter setup (setup.start model) earlier).limiter)) ∧
    (stateAfter setup (setup.start model) arrivals).limiter.tracked =
      (chatClients arrivals).toFinset.card ∧
    ∀ now, Admission.OneWindow (now :: arrivals.map Prod.fst) ->
      (stateAfter setup (setup.start model) arrivals).limiter.evict now =
        (stateAfter setup (setup.start model) arrivals).limiter := by
  have charged := charged_stateAfter positive model arrivals oneWindow
  refine ⟨?_, charged.tracked_eq, ?_⟩
  · rintro earlier now request later rfl
    have before := charged_stateAfter positive model earlier (oneWindow.mono (by simp))
    have withNow : Admission.OneWindow (now :: earlier.map Prod.fst) :=
      oneWindow.mono (by simp)
    have decided := before.allow_fst (limit_stateAfter_pos positive model earlier)
      (Admission.clientKey request.headers request.peer) (oneWindow_charges withNow)
    rw [limit_stateAfter] at decided
    refine ⟨_, _, getElem?_serve setup (setup.start model) earlier later now request, ?_,
      ?_⟩
    · rw [← isChat_iff]
      cases chat : isChat request with
      | false => simp [status_handle_of_not_isChat chat]
      | true =>
          rw [status_handle_of_isChat chat, decided, decide_eq_false_iff_not, Int.not_lt]
          simp only [true_and]
          rfl
    · intro other
      rw [limiter_handle, if_neg (fun chat => other ((isChat_iff request).mp chat))]
  · intro now withNow
    exact charged.evict_eq (limit_stateAfter_pos positive model arrivals)
      (oneWindow_charges withNow)

/-- With a limit of one, a request without a body and one with another method do not
help a client: its next request is turned away, at a time that lies before theirs, and a
request of another client a whole window later is not. -/
theorem serve_turns_away_iff_used_up_repeated :
    let ask (method client : String) : Http.Request :=
      { method := method
        target := Http.Target.ofPath "/api/chat".toList
        headers := [("x-forwarded-for", client)]
        body := []
        peer := none }
    let setup : Setup Chat.Script := .scripted ⟨10, 1⟩ none
    let arrivals := [(7, ask "POST" "a"), (8, ask "GET" "a"), (1, ask "POST" "a"),
      (60000000001, ask "POST" "b")]
    (serve setup (setup.start ⟨[], []⟩) arrivals).map (·.1.status) =
        [400, 405, 429, 400] ∧
      (∃ response next,
        (serve setup (setup.start ⟨[], []⟩) arrivals)[2]? = some (response, next) ∧
        response.status = 429) ∧
      (stateAfter setup (setup.start ⟨[], []⟩) arrivals).limiter.tracked = 2 := by
  intro ask setup arrivals
  obtain ⟨turned, tracked, _⟩ :=
    serve_turns_away_iff_used_up setup ⟨[], []⟩ arrivals (by decide)
    (by decide)
  obtain ⟨response, next, served, away, _⟩ :=
    turned [(7, ask "POST" "a"), (8, ask "GET" "a")] 1 (ask "POST" "a")
      [(60000000001, ask "POST" "b")] rfl
  refine ⟨by decide +kernel, ⟨response, next, served, away.mpr ?_⟩, tracked.trans ?_⟩
  · exact ⟨⟨rfl, by decide⟩, by decide⟩
  · decide

end Server
end FlemishDesk
