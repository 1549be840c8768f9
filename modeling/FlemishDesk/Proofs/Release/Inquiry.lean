import FlemishDesk.Proofs.Http.Calls
import FlemishDesk.Proofs.Release.Entry
import FlemishDesk.Release.Feed

/-!
# Asking a feed for a listing

A feed is asked once, or twice when it rejects the key that was sent along; the key is
never sent a second time.  What comes of the inquiry depends on the last answer alone:
it fails when this answer cannot be used, and else it gives the releases that the
listing yields.  The calls are observed by a network that lists those that reach it; a
call that cannot be made is attempted, but never gets there.
-/

namespace FlemishDesk
namespace Release
namespace Feed

/-! ## The last answer -/

/-- The result of a call holds no listing: there is no answer, its status is no success,
or its body ends early or is not JSON. -/
inductive Unusable : Http.Result -> Prop where
  | failed (failure : Http.Failure) : Unusable (.failed failure)
  | silent : Unusable .silent
  | refused {status : Nat} {body : Option (List UInt8)}
      (noSuccess : ¬ (200 ≤ status ∧ status < 300)) :
      Unusable (.answer status body)
  | cutShort (status : Nat) : Unusable (.answer status none)
  | notJson {status : Nat} {content : List UInt8}
      (unreadable : Json.readBytes? content = none) :
      Unusable (.answer status (some content))

/-- The result of a call is an answer that delivers a JSON value. -/
def Delivers (result : Http.Result) (value : Json) : Prop :=
  ∃ status content,
    result = .answer status (some content) ∧
    (200 ≤ status ∧ status < 300) ∧
    Json.readBytes? content = some value

/-- The releases that a JSON value lists: those that its entries yield when it is an
array, and none otherwise. -/
inductive Lists : Json -> List Release -> Prop where
  | array {entries : List Json} {found : List Release}
      (yields : Yields entries found) :
      Lists (.array entries) found
  | other {value : Json} (notArray : ∀ entries, value ≠ .array entries) : Lists value []

theorem lists_iff
    {value : Json}
    (said : value.Said)
    {found : List Release} :
    Lists value found <-> entries value = found := by
  have noArray (notArray : ∀ entries, value ≠ .array entries) :
      Lists value found <-> [] = found := by
    constructor
    · rintro (_ | _)
      · exact absurd rfl (notArray _)
      · rfl
    · rintro rfl
      exact .other notArray
  cases value with
  | array items =>
      rw [entries, ← yields_iff said.inside]
      constructor
      · rintro (yields | notArray)
        · exact yields
        · exact absurd rfl (notArray items)
      · exact .array
  | null | bool | natural | negative | real | string | object => exact noArray nofun

theorem read_of_delivers
    {result : Http.Result}
    {value : Json}
    (delivers : Delivers result value)
    (url : String) :
    read url result = .ok (entries value) := by
  obtain ⟨status, content, rfl, success, readable⟩ := delivers
  rw [read, if_pos ((Http.isSuccess_iff status).mpr success), Option.bind_some, readable]

/-- A result is unusable, or it delivers a value. -/
theorem unusable_or_delivers (result : Http.Result) :
    Unusable result ∨ ∃ value, Delivers result value := by
  cases result with
  | failed failure => exact .inl (.failed failure)
  | silent => exact .inl .silent
  | answer status body =>
      by_cases success : 200 ≤ status ∧ status < 300
      · cases body with
        | none => exact .inl (.cutShort status)
        | some content =>
            cases readable : Json.readBytes? content with
            | none => exact .inl (.notJson readable)
            | some value => exact .inr ⟨value, status, content, rfl, success, readable⟩
      · exact .inl (.refused success)

theorem read_of_unusable
    {result : Http.Result}
    (unusable : Unusable result)
    (url : String) :
    ∃ error, read url result = .error error := by
  cases unusable with
  | failed failure => exact ⟨.request url failure, rfl⟩
  | silent => exact ⟨.silent, rfl⟩
  | @refused status body noSuccess =>
      rw [read, if_neg (mt (Http.isSuccess_iff status).mp noSuccess)]
      exact ⟨_, rfl⟩
  | cutShort status =>
      rw [read]
      split
      · exact ⟨.notJson, rfl⟩
      · exact ⟨_, rfl⟩
  | @notJson status content unreadable =>
      rw [read, Option.bind_some, unreadable]
      split
      · exact ⟨.notJson, rfl⟩
      · exact ⟨_, rfl⟩

theorem read_eq_error_iff (url : String) (result : Http.Result) :
    (∃ error, read url result = .error error) <-> Unusable result := by
  refine ⟨?_, fun unusable => read_of_unusable unusable url⟩
  rintro ⟨error, failed⟩
  rcases unusable_or_delivers result with unusable | ⟨value, delivers⟩
  · exact unusable
  · rw [read_of_delivers delivers url] at failed
    cases failed

theorem read_eq_ok_iff
    {result : Http.Result}
    {value : Json}
    (delivers : Delivers result value)
    (url : String)
    (found : List Release) :
    read url result = .ok found <-> Lists value found := by
  have said : value.Said := by
    obtain ⟨_, _, _, _, readable⟩ := delivers
    exact Json.said_of_readBytes? readable
  rw [read_of_delivers delivers url, lists_iff said, Except.ok.injEq]

/-! ## The whole inquiry -/

/-- What an inquiry does: the calls that are attempted, with their results, and what
comes of it.  The key is the trimmed text of the key, and the address that of the
listing. -/
structure Inquiry (key address : String) (attempts : List (Http.Call × Http.Result))
    (outcome : Except Error (List Release)) : Prop where
  once_or_twice : attempts.length = 1 ∨ attempts.length = 2
  twice_iff : attempts.length = 2 <->
    key ≠ "" ∧ ∃ call body, attempts.head? = some (call, .answer 401 body)
  address_eq : ∀ attempt ∈ attempts, attempt.1.method = "GET" ∧ attempt.1.url = address
  first_key : ∀ attempt ∈ attempts.head?,
    attempt.1.authorization = if key = "" then none else some ("Bearer " ++ key)
  second_key : ∀ attempt ∈ attempts.tail, attempt.1.authorization = none
  fails_iff : (∃ error, outcome = .error error) <->
    ∃ attempt ∈ attempts.getLast?, Unusable attempt.2
  lists_iff : ∀ attempt ∈ attempts.getLast?, ∀ value, Delivers attempt.2 value ->
    ∀ found, outcome = .ok found <-> Lists value found

theorem isRejection_iff (result : Http.Result) :
    isRejection result = true <-> ∃ body, result = .answer 401 body := by
  cases result <;> simp [isRejection]

theorem token_make (baseUrl token : String) :
    (make baseUrl token).token =
      if Text.trimmed token = "" then none else some (Text.trimmed token) := by
  unfold make
  by_cases blank : Text.trimmed token = "" <;> simp [blank]

theorem authorization_call_make (baseUrl token url : String) :
    (call url (make baseUrl token).token).authorization =
      if Text.trimmed token = "" then none
      else some ("Bearer " ++ Text.trimmed token) := by
  rw [token_make]
  split <;> rfl

theorem isSome_token_make (baseUrl token : String) :
    (make baseUrl token).token.isSome = true <-> Text.trimmed token ≠ "" := by
  rw [token_make]
  split <;> simp_all

variable {σ : Type} {network : Http.Network σ} {feed : Feed} {owner repository : String}
  {state next after : σ} {first second : Http.Result}

theorem fetch_of_accepted
    (sent :
      Http.send network none (call (feed.listingUrl owner repository) feed.token) state =
      (first, after))
    (accepted : (isRejection first && feed.token.isSome) = false) :
    fetch network feed owner repository state =
      (read (feed.listingUrl owner repository) first, after) := by
  unfold fetch
  dsimp only
  rw [sent]
  simp [accepted]

theorem fetch_of_rejected
    (sent :
      Http.send network none (call (feed.listingUrl owner repository) feed.token) state =
      (first, next))
    (rejected : (isRejection first && feed.token.isSome) = true)
    (sentAgain :
      Http.send network none (call (feed.listingUrl owner repository) none) next =
      (second, after)) :
    fetch network feed owner repository state =
      (read (feed.listingUrl owner repository) second, after) := by
  unfold fetch
  dsimp only
  rw [sent]
  simp [rejected, sentAgain]

theorem fetch_recorded_of_accepted
    (sent :
      Http.send network none (call (feed.listingUrl owner repository) feed.token) state =
      (first, after))
    (accepted : (isRejection first && feed.token.isSome) = false)
    (calls : List Http.Call) :
    fetch (Http.recorded network) feed owner repository (state, calls) =
      (read (feed.listingUrl owner repository) first,
        (after, calls ++
          Http.reaching network [call (feed.listingUrl owner repository) feed.token])) :=
  fetch_of_accepted (Http.send_recorded sent calls) accepted

theorem fetch_recorded_of_rejected
    (sent :
      Http.send network none (call (feed.listingUrl owner repository) feed.token) state =
      (first, next))
    (rejected : (isRejection first && feed.token.isSome) = true)
    (sentAgain :
      Http.send network none (call (feed.listingUrl owner repository) none) next =
      (second, after))
    (calls : List Http.Call) :
    fetch (Http.recorded network) feed owner repository (state, calls) =
      (read (feed.listingUrl owner repository) second,
        (after, calls ++ Http.reaching network
          [call (feed.listingUrl owner repository) feed.token,
            call (feed.listingUrl owner repository) none])) := by
  rw [fetch_of_rejected (Http.send_recorded sent calls) rejected
    (Http.send_recorded sentAgain _), List.append_assoc, ← Http.reaching_append,
    List.singleton_append]

/-- An inquiry whose first answer stands. -/
theorem inquiry_of_accepted
    (baseUrl token url : String)
    (accepted : (isRejection first && (make baseUrl token).token.isSome) = false) :
    Inquiry (Text.trimmed token) url [(call url (make baseUrl token).token, first)]
      (read url first) where
  once_or_twice := .inl rfl
  twice_iff := by
    refine iff_of_false (by simp) ?_
    rintro ⟨keyed, _, body, answered⟩
    cases answered
    rw [(isSome_token_make baseUrl token).mpr keyed] at accepted
    cases accepted
  address_eq := by
    intro attempt isFirst
    obtain rfl := List.mem_singleton.mp isFirst
    exact ⟨rfl, rfl⟩
  first_key := by
    intro attempt isFirst
    cases isFirst
    exact authorization_call_make baseUrl token url
  second_key := List.forall_mem_nil _
  fails_iff := by
    rw [read_eq_error_iff]
    simp
  lists_iff := by
    intro attempt isLast value delivers found
    cases isLast
    exact read_eq_ok_iff delivers url found

/-- An inquiry whose key is rejected. -/
theorem inquiry_of_rejected
    (baseUrl token url : String)
    (rejected : (isRejection first && (make baseUrl token).token.isSome) = true) :
    Inquiry (Text.trimmed token) url
      [(call url (make baseUrl token).token, first), (call url none, second)]
      (read url second) where
  once_or_twice := .inr rfl
  twice_iff := by
    obtain ⟨isRejected, keyed⟩ := Bool.and_eq_true_iff.mp rejected
    obtain ⟨body, rfl⟩ := (isRejection_iff first).mp isRejected
    exact iff_of_true rfl ⟨(isSome_token_make baseUrl token).mp keyed, _, body, rfl⟩
  address_eq := by
    intro attempt present
    rcases List.mem_cons.mp present with rfl | isSecond
    · exact ⟨rfl, rfl⟩
    · obtain rfl := List.mem_singleton.mp isSecond
      exact ⟨rfl, rfl⟩
  first_key := by
    intro attempt isFirst
    cases isFirst
    exact authorization_call_make baseUrl token url
  second_key := by
    intro attempt isSecond
    obtain rfl := List.mem_singleton.mp isSecond
    rfl
  fails_iff := by
    rw [read_eq_error_iff]
    simp
  lists_iff := by
    intro attempt isLast value delivers found
    cases isLast
    exact read_eq_ok_iff delivers url found

/-- Whatever the other side does, an inquiry makes one call, or two when the first
carries a key and is answered with the status 401.  Only the first call carries the key,
and no other calls reach the network.  The inquiry fails exactly when the last answer
cannot be used, and else gives the releases that the listing describes; a malformed
entry changes nothing of what the others yield. -/
theorem fetch_attempts_once_or_twice
    (network : Http.Network σ)
    (baseUrl token owner repository : String)
    (state : σ) :
    (∃ attempts outcome after,
        fetch network (make baseUrl token) owner repository state = (outcome, after) ∧
        Http.Exchanges network state attempts after ∧
        fetch (Http.recorded network) (make baseUrl token) owner repository (state, []) =
          (outcome, (after, Http.reaching network (attempts.map (·.1)))) ∧
        Inquiry (Text.trimmed token) ((make baseUrl token).listingUrl owner repository)
          attempts
          outcome) ∧
      ∀ malformed, (∀ release, ¬ Describes malformed release) ->
        ∀ front rest found,
          Lists (.array (front ++ malformed :: rest)) found <->
            Lists (.array (front ++ rest)) found := by
  constructor
  · cases sent :
      Http.send network none (call ((make baseUrl token).listingUrl owner repository)
      (make baseUrl token).token) state with
    | mk first next =>
        cases rejected : isRejection first && (make baseUrl token).token.isSome with
        | false =>
            refine ⟨_, _, next, fetch_of_accepted sent rejected, .cons sent (.nil next),
              ?_, inquiry_of_accepted baseUrl token _ rejected⟩
            rw [fetch_recorded_of_accepted sent rejected, List.nil_append,
              List.map_singleton]
        | true =>
            cases sentAgain : Http.send network none
              (call ((make baseUrl token).listingUrl owner repository) none) next with
            | mk second after =>
                refine ⟨_, _, after, fetch_of_rejected sent rejected sentAgain,
                  .cons sent (.cons sentAgain (.nil after)), ?_,
                  inquiry_of_rejected baseUrl token _ rejected⟩
                rw [fetch_recorded_of_rejected sent rejected sentAgain, List.nil_append,
                  List.map_cons, List.map_singleton]
  · intro malformed noRelease front rest found
    constructor
    · rintro (yields | notArray)
      · exact .array ((yields_append_cons_iff noRelease front rest found).mp yields)
      · exact absurd rfl (notArray _)
    · rintro (yields | notArray)
      · exact .array ((yields_append_cons_iff noRelease front rest found).mpr yields)
      · exact absurd rfl (notArray _)

end Feed
end Release
end FlemishDesk
