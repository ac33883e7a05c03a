import Polyglot.Proofs.Labels
import Polyglot.Samples.Repository

namespace Polyglot

variable {ν : Type}

namespace Http

open Polyglot.Detection (run_andThen)

/-- A network that writes down what it is requested. -/
def Network.logged (network : Network ν) : Network (ν × List Request) := fun request => do
  let (state, requests) ← get
  let (reply, state) := (network request).run state
  set (state, requests ++ [request])
  return reply

def Client.logged (client : Client ν) : Client (ν × List Request) :=
  { network := client.network.logged, followsRedirects := client.followsRedirects }

/-- A client makes one request, and one more for each redirect that it follows. -/
theorem Client.follow_logged (client : Client ν) (limit : Nat) (request : Request) (state : ν)
    (before : List Request) : ∃ sent,
      (client.logged.follow limit request).run (state, before) =
        (((client.follow limit request).run state).1,
          ((client.follow limit request).run state).2, before ++ sent) ∧
      sent.length ≤ if client.followsRedirects then limit else 1 := by
  induction limit generalizing request state before with
  | zero => exact ⟨[], by rw [List.append_nil]; rfl, by simp⟩
  | succ limit ih =>
    rcases hreply : (client.network request).run state with ⟨reply, next⟩
    have hlogged : (client.logged.network request).run (state, before) =
        (reply, (next, before ++ [request])) := by
      change (((client.network request).run state).1,
        (((client.network request).run state).2, before ++ [request])) = _
      rw [hreply]
    have hone : [request].length ≤ if client.followsRedirects then limit + 1 else 1 := by
      split <;> simp
    rw [follow, follow, run_andThen, run_andThen, hreply, hlogged]
    cases reply with
    | timeout => exact ⟨[request], rfl, hone⟩
    | offline => exact ⟨[request], rfl, hone⟩
    | answer status text location =>
      cases location with
      | none => exact ⟨[request], rfl, hone⟩
      | some location =>
        simp only
        split
        · exact ⟨[request], rfl, hone⟩
        · split
          · cases request.redirected location with
            | error failure => exact ⟨[request], rfl, hone⟩
            | ok target =>
              cases hfollows : client.followsRedirects with
              | false =>
                have hsame : client.logged.followsRedirects = false := hfollows
                simp only [hsame]
                exact ⟨[request], rfl, by simp⟩
              | true =>
                have hsame : client.logged.followsRedirects = true := hfollows
                obtain ⟨sent, hrun, hlength⟩ := ih target next (before ++ [request])
                rw [hfollows] at hlength
                simp only [hsame, ↓reduceIte]
                refine ⟨request :: sent, ?_, Nat.succ_le_succ hlength⟩
                rw [hrun, List.append_assoc]
                rfl
          · exact ⟨[request], rfl, hone⟩

theorem Client.getAt_logged (client : Client ν) (address : String) (query authorization : Option String)
    (state : ν) : ∃ sent,
      (client.logged.getAt address query authorization).run (state, []) =
        (((client.getAt address query authorization).run state).1,
          ((client.getAt address query authorization).run state).2, sent) ∧
      sent.length ≤ if client.followsRedirects then redirectLimit + 1 else 1 := by
  unfold getAt
  split
  · exact ⟨[], rfl, by simp⟩
  · exact client.follow_logged _ _ state []

theorem Client.follow_redirect {client : Client ν} {limit : Nat} {request next : Request}
    {state after : ν} {status : Nat} {text location : String} (follows : client.followsRedirects = true)
    (reply : (client.network request).run state = (.answer status text (some location), after))
    (moved : isRedirect status = true) (ascii : isAscii location = true)
    (target : request.redirected location = .ok next) :
    (client.follow (limit + 1) request).run state = (client.follow limit next).run after := by
  rw [follow, run_andThen, reply]
  simp only [ascii, moved, target, follows, Bool.not_true, Bool.false_eq_true, ↓reduceIte]

end Http

namespace Repository

/-- What a client comes to with a question, after any redirects. -/
abbrev Answer := Except Http.Failure Http.Response

/-- Puts a question to the client. -/
def put (repository : Repository ν) (question : Question) : StateM ν Answer :=
  repository.client.getAt question.address question.query question.authorization

/-- Whether a question is put again after an answer: after that of a server in trouble, and after none in
time. -/
def isRetried : Answer → Bool
  | .ok response => 500 ≤ response.status
  | .error failure => failure = .timeout

/-- What an answer says: a text, or why there is none. -/
def outcome : Answer → Except SampleFault String
  | .ok response => if response.isSuccess then .ok response.text else .error (.status response.status)
  | .error .timeout => .error .timeout
  | .error .offline => .error .offline
  | .error .tooManyRedirects => .error .tooManyRedirects
  | .error (.invalidLocation _) => .error .invalidLocation
  | .error (.invalidAddress fault) => .error (.misaddressed fault)
  | .error .notAscii => .error .notEncodable
  | .error (.invalidLabel fault) => .error (.invalidLabel fault)

/-- Some questions are put one after the other, with these answers. -/
inductive Exchanges (repository : Repository ν) : ν → List (Question × Answer) → ν → Prop where
  | nil (network : ν) : Exchanges repository network [] network
  | cons {network next last : ν} {question : Question} {answer : Answer}
      {rest : List (Question × Answer)} (put : (repository.put question).run network = (answer, next))
      (more : Exchanges repository next rest last) :
      Exchanges repository network ((question, answer) :: rest) last

variable {repository : Repository ν} {question : Question} {memory : Memory ν}

theorem Exchanges.append {network next last : ν} {exchanges more : List (Question × Answer)}
    (first : Exchanges repository network exchanges next) (second : Exchanges repository next more last) :
    Exchanges repository network (exchanges ++ more) last := by
  induction first with
  | nil => exact second
  | cons put _ ih => exact .cons put (ih second)

/-- A question with all answers to it. -/
structure Fetch where
  question : Question
  earlier : List Answer
  last : Answer

namespace Fetch

def answers (fetch : Fetch) : List Answer := fetch.earlier ++ [fetch.last]

def exchanges (fetch : Fetch) : List (Question × Answer) := fetch.answers.map (fetch.question, ·)

/-- A question is put again after the answers after which it is worth it, and after no others, until it
was put a number of times. -/
structure Within (limit : Nat) (fetch : Fetch) : Prop where
  atMost : fetch.answers.length ≤ limit
  retried : ∀ answer ∈ fetch.earlier, isRetried answer = true
  exhausted : isRetried fetch.last = true → fetch.answers.length = limit

end Fetch

theorem run_bind {α β : Type} {first : Asking ν α} {next : α → Asking ν β} {value : α}
    {after : Memory ν} (h : first.run.run memory = (.ok value, after)) :
    (first >>= next).run.run memory = (next value).run.run after := by
  change StateT.run (ExceptT.bindCont next (first.run.run memory).1) (first.run.run memory).2 = _
  rw [h]
  rfl

theorem run_bind_error {α β : Type} {first : Asking ν α} {next : α → Asking ν β} {fault : SampleFault}
    {after : Memory ν} (h : first.run.run memory = (.error fault, after)) :
    (first >>= next).run.run memory = (.error fault, after) := by
  change StateT.run (ExceptT.bindCont next (first.run.run memory).1) (first.run.run memory).2 = _
  rw [h]
  rfl

theorem run_ask (repository : Repository ν) (question : Question) (memory : Memory ν) :
    (repository.ask question).run.run memory =
      (.ok ((repository.put question).run memory.network).1,
        { memory with network := ((repository.put question).run memory.network).2 }) := rfl

/-- An attempt puts the question once. It ends with an answer after which the question is not put
again. -/
theorem attempt_settled (number : Nat) {answer : Answer} {network : ν}
    (put : (repository.put question).run memory.network = (answer, network))
    (settled : isRetried answer = false) :
    (repository.attempt question number).run.run memory =
      ((outcome answer).map .ok, { memory with network }) := by
  have hask := run_ask repository question memory
  rw [put] at hask
  rw [attempt, run_bind hask]
  cases answer with
  | ok response =>
    have hstatus : response.status < 500 := by simpa [isRetried] using settled
    cases hsuccess : response.isSuccess <;>
      simp only [outcome, hsuccess, hstatus, Bool.false_eq_true, ↓reduceIte] <;> rfl
  | error failure =>
    cases failure with
    | timeout => cases settled
    | _ => rfl

theorem attempt_retried (number : Nat) {answer : Answer} {network : ν}
    (put : (repository.put question).run memory.network = (answer, network))
    (retried : isRetried answer = true) :
    ∃ fault journal, outcome answer = .error fault ∧
      (repository.attempt question number).run.run memory =
        (.ok (.error fault), { memory with network, journal }) := by
  have hask := run_ask repository question memory
  rw [put] at hask
  rw [attempt, run_bind hask]
  cases answer with
  | ok response =>
    have hstatus : 500 ≤ response.status := by simpa [isRetried] using retried
    have hsuccess : response.isSuccess = false := by
      simp only [Http.Response.isSuccess, Bool.and_eq_false_iff, decide_eq_false_iff_not]
      omega
    have hagain : ¬ response.status < 500 := by omega
    refine ⟨.status response.status, memory.journal ++
      [.serverError question.address response.status number attemptLimit], ?_, ?_⟩
    · simp [outcome, hsuccess]
    · simp only [hsuccess, hagain, Bool.false_eq_true, ↓reduceIte]
      rfl
  | error failure =>
    obtain rfl : failure = .timeout := by simpa [isRetried] using retried
    exact ⟨.timeout, memory.journal ++ [.serverTimeout question.address number attemptLimit], rfl, rfl⟩

theorem attempt_last (number : Nat) {answer : Answer} {network : ν}
    {next : Except SampleFault String → Asking ν String}
    (put : (repository.put question).run memory.network = (answer, network))
    (settled : isRetried answer = false) (texts : ∀ text, next (.ok text) = pure text) :
    (repository.attempt question number >>= next).run.run memory =
      (outcome answer, { memory with network }) := by
  have hattempt := attempt_settled number put settled
  cases ho : outcome answer with
  | ok text =>
    rw [ho] at hattempt
    rw [run_bind hattempt, texts]
    rfl
  | error fault =>
    rw [ho] at hattempt
    rw [run_bind_error hattempt]

/-- A question is put as often as it is worth it and some retries allow. It comes to what its last answer
says. -/
theorem fetchWithin_run (repository : Repository ν) (question : Question) (retries : Nat)
    (memory : Memory ν) : ∃ fetch : Fetch, fetch.question = question ∧ fetch.Within (retries + 1) ∧
      ∃ network journal, Exchanges repository memory.network fetch.exchanges network ∧
        (repository.fetchWithin question retries).run.run memory =
          (outcome fetch.last, { memory with network, journal }) := by
  induction retries generalizing memory with
  | zero =>
    rcases hput : (repository.put question).run memory.network with ⟨answer, network⟩
    have hwithin : Fetch.Within 1 ⟨question, [], answer⟩ := ⟨Nat.le_refl _, by simp, fun _ => rfl⟩
    rw [fetchWithin]
    cases hr : isRetried answer with
    | true =>
      obtain ⟨fault, journal, hfault, hattempt⟩ := attempt_retried attemptLimit hput hr
      refine ⟨_, rfl, hwithin, network, journal, .cons hput (.nil _), ?_⟩
      rw [run_bind hattempt, hfault]
      rfl
    | false =>
      exact ⟨_, rfl, hwithin, network, memory.journal, .cons hput (.nil _),
        attempt_last attemptLimit hput hr fun _ => rfl⟩
  | succ retries ih =>
    rcases hput : (repository.put question).run memory.network with ⟨answer, network⟩
    rw [fetchWithin]
    cases hr : isRetried answer with
    | true =>
      obtain ⟨fault, journal, -, hattempt⟩ := attempt_retried (attemptLimit - (retries + 1)) hput hr
      obtain ⟨rest, rfl, hrest, last, reports, hmore, hrun⟩ := ih { memory with network, journal }
      -- The answer comes before those of the attempts that are left.
      refine ⟨⟨rest.question, answer :: rest.earlier, rest.last⟩, rfl, ⟨?_, ?_, ?_⟩, last, reports,
        .cons hput hmore, ?_⟩
      · exact Nat.succ_le_succ hrest.atMost
      · exact List.forall_mem_cons.mpr ⟨hr, hrest.retried⟩
      · intro hlast
        exact congrArg Nat.succ (hrest.exhausted hlast)
      · rw [run_bind hattempt]
        exact hrun
    | false =>
      refine ⟨⟨question, [], answer⟩, rfl, ⟨Nat.le_add_left _ _, by simp, ?_⟩, network, memory.journal,
        .cons hput (.nil _), attempt_last _ hput hr fun _ => rfl⟩
      intro hlast
      rw [hr] at hlast
      cases hlast

/-- A fetch puts its question at most three times. It puts it again after a server in trouble or after
none in time, and after no other answer. It changes nothing else that is remembered. -/
theorem fetch_run (repository : Repository ν) (question : Question) (memory : Memory ν) :
    ∃ fetch : Fetch, fetch.question = question ∧ fetch.Within 3 ∧
      ∃ network journal, Exchanges repository memory.network fetch.exchanges network ∧
        (repository.fetch question).run.run memory =
          (outcome fetch.last, { memory with network, journal }) :=
  fetchWithin_run repository question 2 memory

/-- The address of the newest listing. -/
def listingUrl : Http.Url where
  scheme := "https"
  host := "api.github.com"
  path := "/repos/github-linguist/linguist/git/trees/HEAD"
  query := some "recursive=1"

theorem request_listing : Http.Request.ofText
    "https://api.github.com/repos/github-linguist/linguist/git/trees/HEAD" (some "recursive=1") none =
      .ok { url := listingUrl } := by
  have hbare : Http.Url.ofText
      "https://api.github.com/repos/github-linguist/linguist/git/trees/HEAD" =
        .ok { listingUrl with query := none } := by decide +kernel
  have hauthority : ({ listingUrl with query := none } : Http.Url).authority = "api.github.com" := by cbv
  have hquery : ({ listingUrl with query := none } : Http.Url).withQuery "recursive=1" =
      .ok listingUrl := by
    rw [Http.Url.withQuery, Http.Url.parts, hauthority]
    decide +kernel
  rw [Http.Request.ofText, hbare]
  change (({ listingUrl with query := none } : Http.Url).withQuery "recursive=1").mapError
    Http.Failure.invalidAddress >>= _ = _
  rw [hquery]
  rfl

theorem treeUrl_head (client : Http.Client ν) : treeUrl { client, ref := "HEAD" } =
    "https://api.github.com/repos/github-linguist/linguist/git/trees/HEAD" := by
  have happend : "https://api.github.com/repos/github-linguist/linguist/git/trees/" ++ "HEAD" =
      "https://api.github.com/repos/github-linguist/linguist/git/trees/HEAD" := by decide +kernel
  exact happend

theorem put_listing (client : Http.Client ν) :
    put { client, ref := "HEAD" } (treeQuestion { client, ref := "HEAD" }) =
      client.get { url := listingUrl } := by
  rw [put, treeQuestion, treeUrl_head, Http.Client.getAt, Option.map_none, request_listing]

end Repository

end Polyglot
