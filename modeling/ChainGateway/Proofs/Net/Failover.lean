import ChainGateway.HttpServices
import ChainGateway.Net.Replay
import ChainGateway.Proofs.Except
import ChainGateway.Proofs.Trace
import Mathlib.Data.List.DropRight
import Mathlib.Data.List.Forall2

/-!
# Failover between dispatch services

A session is asked for at the dispatch services in the order of their urls, until one of them gives
a session.  What one url comes to is an `Attempt`: nothing is sent to a url that cannot be used, and
otherwise there is one request, which is answered or not.  `Attempt.Yields` lists what an attempt
may yield: the session, or one of four failures with the error that goes with it.

The attempts that are made form a trace of the network, whatever the network does (`FailsOver`).
They are made at the first urls of the list, one after the other and each position once.  All but
the last of them fail.  The last one gives the session that is returned; or else it was made at the
last url, and the text of its error is the reason that is returned (`dispatch_fails_over`).

## Strategy

An attempt determines what a single service is found to answer (`dispatchAt_of_posts`), for the
network as well as for the one that keeps a record of its requests (`Network.recorded`).  So the
recursion over the urls can be followed in both of them at once.  The reason that the recursion
carries along never shows, since a list with a url in it has a last attempt that replaces it.
-/

namespace ChainGateway.Net

open Text

variable {σ : Type}

/-! ## Attempts -/

/-- The url that requests for the given url are sent to, if it can be used. -/
def requestUrl? (url : String) : Option String :=
  match Url.ofText? url with
  | none => none
  | some target =>
      if target.host?.isSome && postedSchemes.contains target.scheme then some target.text else none

/-- The reason why a url cannot be used. -/
def unusable (url : String) : String :=
  match Url.ofText? url with
  | none => "builder error"
  | some target => "builder error for url (" ++ target.text ++ ")"

/-- What posting a document to a url comes to. -/
structure Attempt where
  url : String
  /-- The url on the request with what came back for it; there is no request to a url that cannot
  be used. -/
  exchange? : Option (String × Delivery)

namespace Attempt

/-- The answer or the reason why there is none. -/
def answer (attempt : Attempt) : Except String (Nat × Octets) :=
  match attempt.exchange? with
  | none => .error (unusable attempt.url)
  | some (target, .unanswered) => .error ("error sending request for url (" ++ target ++ ")")
  | some (_, .answered status body) => .ok (status, body)

/-- The requests of an attempt. -/
def requests (document : Json.Value) (attempt : Attempt) : List (String × Json.Value) :=
  (attempt.exchange?.map fun (target, _) => (target, document)).toList

/-- What an attempt to dispatch a session yields. -/
inductive Yields (attempt : Attempt) : Except Error Session → Prop
  | session {target : String} {status : Nat} {body : Octets} {session : Session}
      (hexchange : attempt.exchange? = some (target, .answered status body))
      (hstatus : 200 ≤ status ∧ status < 300)
      (hbody : dispatchAnswerSchema.decode body = .ok session) : Yields attempt (.ok session)
  | unusable (hexchange : attempt.exchange? = none) :
      Yields attempt (.error (.network (unusable attempt.url)))
  | unanswered {target : String} (hexchange : attempt.exchange? = some (target, .unanswered)) :
      Yields attempt (.error (.network ("error sending request for url (" ++ target ++ ")")))
  | refused {target : String} {status : Nat} {body : Octets}
      (hexchange : attempt.exchange? = some (target, .answered status body))
      (hstatus : ¬ (200 ≤ status ∧ status < 300)) :
      Yields attempt
        (.error (.dispatchFailed (attempt.url ++ " responded with " ++ statusText status)))
  | undecodable {target : String} {status : Nat} {body : Octets} {error : Json.Error}
      (hexchange : attempt.exchange? = some (target, .answered status body))
      (hstatus : 200 ≤ status ∧ status < 300)
      (hbody : dispatchAnswerSchema.decode body = .error error) :
      Yields attempt (.error (.network "error decoding response body"))

theorem isSuccess_iff {status : Nat} : isSuccess status = true ↔ 200 ≤ status ∧ status < 300 := by
  rw [isSuccess, Bool.and_eq_true, decide_eq_true_eq, decide_eq_true_eq]

/-- An attempt yields what its answer is taken for, and nothing else. -/
theorem yields_iff {attempt : Attempt} {result : Except Error Session} :
    attempt.Yields result ↔ sessionOfAnswer attempt.url attempt.answer = result := by
  constructor
  · intro hyields
    cases hyields with
    | session hexchange hstatus hbody =>
        simp only [answer, hexchange, sessionOfAnswer, isSuccess_iff.mpr hstatus, hbody, if_true]
    | unusable hexchange => simp only [answer, hexchange, sessionOfAnswer]
    | unanswered hexchange => simp only [answer, hexchange, sessionOfAnswer]
    | refused hexchange hstatus =>
        simp only [answer, hexchange, sessionOfAnswer, mt isSuccess_iff.mp hstatus,
          Bool.false_eq_true, if_false]
    | undecodable hexchange hstatus hbody =>
        simp only [answer, hexchange, sessionOfAnswer, isSuccess_iff.mpr hstatus, hbody, if_true]
        rfl
  · rintro rfl
    cases hexchange : attempt.exchange? with
    | none =>
        simp only [answer, hexchange, sessionOfAnswer]
        exact .unusable hexchange
    | some exchange =>
        obtain ⟨target, delivery⟩ := exchange
        cases delivery with
        | unanswered =>
            simp only [answer, hexchange, sessionOfAnswer]
            exact .unanswered hexchange
        | answered status body =>
            simp only [answer, hexchange, sessionOfAnswer]
            by_cases hstatus : 200 ≤ status ∧ status < 300
            · rw [if_pos (isSuccess_iff.mpr hstatus)]
              cases hbody : dispatchAnswerSchema.decode body with
              | ok session => exact .session hexchange hstatus hbody
              | error error => exact .undecodable hexchange hstatus hbody
            · rw [if_neg (mt isSuccess_iff.mp hstatus)]
              exact .refused hexchange hstatus

end Attempt

/-! ## Posting one document -/

/-- An attempt of the network, from one of its states to another. -/
inductive Posts (network : Network σ) (document : Json.Value) : σ → Attempt → σ → Prop
  | unusable {state : σ} {url : String} (hurl : requestUrl? url = none) :
      Posts network document state ⟨url, none⟩ state
  | sent {state after : σ} {url target : String} {delivery : Delivery}
      (hurl : requestUrl? url = some target)
      (hpost : network.post state target document = (delivery, after)) :
      Posts network document state ⟨url, some (target, delivery)⟩ after

/-- The network that keeps a record of all requests, with what is posted. -/
def Network.recorded (network : Network σ) : Network (σ × List (String × Json.Value)) where
  post := fun (state, record) target document =>
    let (delivery, after) := network.post state target document
    (delivery, after, record ++ [(target, document)])

section

variable {network : Network σ} {document : Json.Value} {state after : σ} {attempt : Attempt}

theorem exists_posts (network : Network σ) (document : Json.Value) (state : σ) (url : String) :
    ∃ attempt after, attempt.url = url ∧ Posts network document state attempt after := by
  cases hurl : requestUrl? url with
  | none => exact ⟨_, _, rfl, .unusable hurl⟩
  | some target => exact ⟨_, _, rfl, .sent hurl rfl⟩

/-- What is sent and received is what the attempt says. -/
theorem Posts.send_eq (hposts : Posts network document state attempt after) :
    network.send state attempt.url document = (attempt.answer, after) := by
  cases hposts with
  -- a url that does not parse and one that is not accepted end in the same error
  | @unusable url hurl =>
      unfold requestUrl? at hurl
      simp only [Network.send, Attempt.answer, Net.unusable]
      cases htarget : Url.ofText? url with
      | none => rfl
      | some target =>
          rw [htarget] at hurl
          dsimp only at hurl ⊢
          split at hurl
          · cases hurl
          · next hrefused => rw [if_neg hrefused]
  | @sent _ url target delivery hurl hpost =>
      unfold requestUrl? at hurl
      cases htarget : Url.ofText? url with
      | none =>
          rw [htarget] at hurl
          cases hurl
      | some parsed =>
          rw [htarget] at hurl
          dsimp only at hurl
          split at hurl
          · next haccepted =>
              cases hurl
              simp only [Network.send, htarget, haccepted, if_true, hpost]
              cases delivery with
              | answered status body => rfl
              | unanswered => rfl
          · cases hurl

/-- Keeping a record changes nothing but the record. -/
theorem Posts.recorded (hposts : Posts network document state attempt after)
    (record : List (String × Json.Value)) :
    Posts network.recorded document (state, record) attempt
      (after, record ++ attempt.requests document) := by
  cases hposts with
  | unusable hurl =>
      show Posts _ _ _ _ (_, record ++ [])
      rw [List.append_nil]
      exact .unusable hurl
  | sent hurl hpost =>
      refine .sent hurl ?_
      simp only [Network.recorded, hpost]
      rfl

end

/-! ## Dispatch endpoints -/

/-- The url is that of the dispatch endpoint below the base url, without the slashes at its end. -/
def IsDispatchUrl (base url : String) : Prop :=
  ∃ stem slashes : String, base = stem ++ slashes ∧ (∀ char ∈ slashes.toList, char = '/') ∧
    stem.toList.getLast? ≠ some '/' ∧ url = stem ++ "/v1/client/dispatch"

theorem isDispatchUrl_endpoint (base : String) :
    IsDispatchUrl base (endpoint base dispatchEndpoint) := by
  refine ⟨.ofList (base.toList.rdropWhile (· = '/')), .ofList (base.toList.rtakeWhile (· = '/')),
    ?_, ?_, ?_, rfl⟩
  · rw [← String.ofList_append, List.rdropWhile_append_rtakeWhile, String.ofList_toList]
  · intro char hmem
    rw [String.toList_ofList] at hmem
    simpa using List.mem_rtakeWhile_imp hmem
  · rw [String.toList_ofList]
    intro hlast
    have hne := List.getLast?_isSome.mp (Option.isSome_iff_exists.mpr ⟨_, hlast⟩)
    rw [List.getLast?_eq_some_getLast hne] at hlast
    exact List.rdropWhile_last_not _ _ hne (decide_eq_true (Option.some.inj hlast))

/-! ## One dispatch service after another -/

/-- What asking at several urls comes to. -/
structure FailsOver (network : Network σ) (document : Json.Value) (urls : List String) (state : σ)
    (history : List (Moment σ Attempt)) (result : Except Error Session) (after : σ) : Prop where
  /-- The attempts are made one after the other, each with the same document. -/
  trace : Trace (Posts network document) state history after
  /-- They are made at the first urls, in their order and each position once. -/
  inOrder : List.Forall₂ IsDispatchUrl (urls.take history.length)
    (history.map fun moment => moment.action.url)
  /-- All of them fail, and so give no session (`Attempt.yields_iff`), but possibly the last one,
  which gives the session.  If it fails as well, all positions were tried, and its error is what is
  told. -/
  ends : ∃ failed last, history.map Moment.action = failed ++ [last] ∧
    (∀ attempt ∈ failed, ∃ error, attempt.Yields (.error error)) ∧
    ((∃ session, last.Yields (.ok session) ∧ result = .ok session) ∨
      history.length = urls.length ∧
        ∃ error, last.Yields (.error error) ∧ result = .error (.dispatchFailed error.message))

/-- The requests of attempts, in order. -/
def requestsOf (document : Json.Value) (history : List (Moment σ Attempt)) :
    List (String × Json.Value) :=
  history.flatMap fun moment => moment.action.requests document

theorem requestsOf_cons (document : Json.Value) (moment : Moment σ Attempt)
    (history : List (Moment σ Attempt)) :
    requestsOf document (moment :: history) =
      moment.action.requests document ++ requestsOf document history :=
  List.flatMap_cons

theorem requestsOf_singleton (document : Json.Value) (moment : Moment σ Attempt) :
    requestsOf document [moment] = moment.action.requests document := by
  rw [requestsOf_cons]
  exact List.append_nil _

section

variable {network : Network σ} {document : Json.Value} {base : String} {urls : List String}
  {state next after : σ} {attempt : Attempt} {session : Session} {error : Error}
  {history : List (Moment σ Attempt)} {result : Except Error Session}

/-- The first url gives a session. -/
theorem FailsOver.found (hposts : Posts network document state attempt after)
    (hurl : IsDispatchUrl base attempt.url) (hyields : attempt.Yields (.ok session)) :
    FailsOver network document (base :: urls) state [⟨state, attempt, after⟩] (.ok session)
      after where
  trace := Trace.start.step hposts
  inOrder := .cons hurl .nil
  ends := ⟨[], attempt, rfl, by simp, Or.inl ⟨session, hyields, rfl⟩⟩

/-- The only url fails. -/
theorem FailsOver.exhausted (hposts : Posts network document state attempt after)
    (hurl : IsDispatchUrl base attempt.url) (hyields : attempt.Yields (.error error)) :
    FailsOver network document [base] state [⟨state, attempt, after⟩]
      (.error (.dispatchFailed error.message)) after where
  trace := Trace.start.step hposts
  inOrder := .cons hurl .nil
  ends := ⟨[], attempt, rfl, by simp, Or.inr ⟨rfl, error, hyields, rfl⟩⟩

/-- The first url fails, and what becomes of the others decides. -/
theorem FailsOver.cons (hposts : Posts network document state attempt next)
    (hurl : IsDispatchUrl base attempt.url) (hyields : attempt.Yields (.error error))
    (hrest : FailsOver network document urls next history result after) :
    FailsOver network document (base :: urls) state (⟨state, attempt, next⟩ :: history) result
      after where
  trace := (Trace.start.step hposts).append hrest.trace
  inOrder := .cons hurl hrest.inOrder
  ends := by
    -- the first attempt joins those that failed, whatever the last one was
    obtain ⟨failed, last, hactions, hfailed, hends⟩ := hrest.ends
    refine ⟨attempt :: failed, last, ?_, ?_, ?_⟩
    · rw [List.map_cons, hactions, List.cons_append]
    · intro other hmem
      rcases List.mem_cons.mp hmem with rfl | hmem
      · exact ⟨error, hyields⟩
      · exact hfailed other hmem
    · refine hends.imp_right fun ⟨hlength, hlast⟩ => ⟨?_, hlast⟩
      rw [List.length_cons, List.length_cons, hlength]

end

section

variable {network : Network σ} {state after : σ} {attempt : Attempt} {publicKey chain : String}
  {base reason : String} {urls : List String}

/-- A service is found to answer what the attempt at its endpoint yields. -/
theorem dispatchAt_of_posts {result : Except Error Session}
    (hposts : Posts network (dispatchDocument publicKey chain) state attempt after)
    (hurl : attempt.url = endpoint base dispatchEndpoint) (hyields : attempt.Yields result) :
    dispatchAt network state base publicKey chain = (result, after) := by
  simp only [dispatchAt, ← hurl, hposts.send_eq, Attempt.yields_iff.mp hyields]

/-- The recursion ends with the first session. -/
theorem dispatchFrom_of_session {session : Session}
    (hposts : Posts network (dispatchDocument publicKey chain) state attempt after)
    (hurl : attempt.url = endpoint base dispatchEndpoint)
    (hyields : attempt.Yields (.ok session)) :
    dispatchFrom network publicKey chain reason (base :: urls) state = (.ok session, after) := by
  rw [dispatchFrom, dispatchAt_of_posts hposts hurl hyields]

/-- After a failure the recursion goes on, with the text of the error in place of the reason. -/
theorem dispatchFrom_of_error {error : Error}
    (hposts : Posts network (dispatchDocument publicKey chain) state attempt after)
    (hurl : attempt.url = endpoint base dispatchEndpoint)
    (hyields : attempt.Yields (.error error)) :
    dispatchFrom network publicKey chain reason (base :: urls) state =
      dispatchFrom network publicKey chain error.message urls after := by
  rw [dispatchFrom, dispatchAt_of_posts hposts hurl hyields]

/-- The whole recursion, in the network and in the one that keeps a record. -/
theorem exists_failsOver (hurls : urls ≠ []) (network : Network σ)
    (publicKey chain reason : String) (state : σ) :
    ∃ history result after,
      FailsOver network (dispatchDocument publicKey chain) urls state history result after ∧
      dispatchFrom network publicKey chain reason urls state = (result, after) ∧
      ∀ record, dispatchFrom network.recorded publicKey chain reason urls (state, record) =
        (result, after, record ++ requestsOf (dispatchDocument publicKey chain) history) := by
  -- The recursion replaces the reason with each failure, and the network changes with each attempt.
  induction urls generalizing reason state with
  | nil => exact absurd rfl hurls
  | cons base rest ih =>
      obtain ⟨attempt, next, hurl, hposts⟩ := exists_posts network
        (dispatchDocument publicKey chain) state (endpoint base dispatchEndpoint)
      have hendpoint : IsDispatchUrl base attempt.url := hurl ▸ isDispatchUrl_endpoint base
      cases hresult : sessionOfAnswer attempt.url attempt.answer with
      | ok session =>
          have hyields := Attempt.yields_iff.mpr hresult
          refine ⟨_, _, _, .found hposts hendpoint hyields,
            dispatchFrom_of_session hposts hurl hyields, fun record => ?_⟩
          rw [dispatchFrom_of_session (hposts.recorded record) hurl hyields, requestsOf_singleton]
      | error error =>
          have hyields := Attempt.yields_iff.mpr hresult
          -- Whether this was the last url decides if the error is what is told in the end.
          cases rest with
          | nil =>
              refine ⟨_, _, _, .exhausted hposts hendpoint hyields,
                dispatchFrom_of_error hposts hurl hyields, fun record => ?_⟩
              rw [dispatchFrom_of_error (hposts.recorded record) hurl hyields, dispatchFrom,
                requestsOf_singleton]
          | cons second others =>
              obtain ⟨history, result, after, hrest, hfrom, hrecorded⟩ :=
                ih (List.cons_ne_nil _ _) error.message next
              refine ⟨_, result, after, .cons hposts hendpoint hyields hrest,
                (dispatchFrom_of_error hposts hurl hyields).trans hfrom, fun record => ?_⟩
              rw [dispatchFrom_of_error (hposts.recorded record) hurl hyields, hrecorded,
                requestsOf_cons, List.append_assoc]

end

/-- **Failover.**  Whatever the services do, a session is asked for at the urls in turn: at each
position once, with the same document, and no further than to the first one that gives a session,
which is returned.  If none does, the text of the last error is returned.  Nothing else is
requested, whether the requests are recorded or not. -/
theorem dispatch_fails_over (network : Network σ) {urls : List String} (hurls : urls ≠ [])
    (state : σ) (publicKey chain : String) :
    ∃ history result after,
      dispatch network urls state publicKey chain = (result, after) ∧
      FailsOver network (dispatchDocument publicKey chain) urls state history result after ∧
      ∀ record, dispatch network.recorded urls (state, record) publicKey chain =
        (result, after, record ++ requestsOf (dispatchDocument publicKey chain) history) := by
  obtain ⟨history, result, after, hfails, hfrom, hrecorded⟩ :=
    exists_failsOver hurls network publicKey chain "no dispatch urls" state
  exact ⟨history, result, after, hfrom, hfails, hrecorded⟩

/-- Five services, of which the second cannot be asked. -/
def fiveUrls : List String := ["http://a/", "b b", "http://c//", "http://d", "http://e"]

/-- The first one refuses, the third one sends an empty body and the fourth one a session. -/
def fiveAnswers : Tape where
  answers := [.answered 503 [], .answered 200 [],
    .answered 200 (dispatchAnswerSchema.encode { key := "s" })]

/-- The general statement at these services: the session is that of the fourth one, and nothing is
requested from the fifth. -/
theorem dispatch_fails_over_fourth :
    ∃ history after,
      FailsOver Network.replay (dispatchDocument "pub" "0001") fiveUrls fiveAnswers history
        (.ok { key := "s" }) after ∧
      (requestsOf (dispatchDocument "pub" "0001") history).map Prod.fst =
        ["http://a/v1/client/dispatch", "http://c/v1/client/dispatch",
          "http://d/v1/client/dispatch"] := by
  have hnonempty : fiveUrls ≠ [] := by decide
  obtain ⟨history, result, after, hdispatch, hfails, hrecorded⟩ :=
    dispatch_fails_over Network.replay hnonempty fiveAnswers "pub" "0001"
  have hresult : (dispatch Network.replay fiveUrls fiveAnswers "pub" "0001").1 =
      .ok { key := "s" } := by
    decide +kernel
  have hrequests :
      (dispatch Network.replay.recorded fiveUrls (fiveAnswers, []) "pub" "0001").2.2.map Prod.fst =
        ["http://a/v1/client/dispatch", "http://c/v1/client/dispatch",
          "http://d/v1/client/dispatch"] := by
    decide +kernel
  rw [hdispatch] at hresult
  obtain rfl : result = .ok { key := "s" } := hresult
  rw [hrecorded, List.nil_append] at hrequests
  exact ⟨history, after, hfails, hrequests⟩

end ChainGateway.Net
