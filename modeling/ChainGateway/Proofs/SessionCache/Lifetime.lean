import Mathlib.Data.Finset.Card
import ChainGateway.Proofs.SessionCache.Overlap

/-!
# Sessions are dispatched once per lifetime

Calls for sessions that are made one after another should be answered as by an ideal memory: of each
key it knows the session that was last dispatched for it, and it asks for another one exactly when
the lifetime of that session has passed.  The cache is bounded and this memory is not; but as long
as no more keys are asked for than the cache may hold, nothing is ever evicted, and the two agree.

What has been dispatched is read off the history of a run: the successful answers of the service,
each with the instant at which it came.  Failed dispatches and other keys play no part in it.

## Strategy

`Recalls` says that the cache holds of every key the latest dispatch, with its lifetime.  A call
keeps it so: whoever finds a live session changes nothing, a failed dispatch leaves the entries as
they are, and a dispatched session is written over what its key had.  Eviction would be the only
other effect, and `size_lt_of_absent` excludes it: the keys of the cache are keys that were asked
for, so a new key always finds room.  Since completions come in the order of the clock, that some
dispatch for a key is still live says the same as that the latest one is (`isLive_iff`).
-/

namespace ChainGateway

namespace SessionCache

variable {cache after : SessionCache} {key : SessionKey} {session : Session} {now : Instant}

/-- With room for the key, an insertion only writes its entry. -/
theorem insert_of_room (cache : SessionCache) (key : SessionKey) (session : Session) (now : Instant)
    (hroom : cache.entries.find? key = none → cache.size < cache.settings.capacity.toNat) :
    cache.insert key session now =
      (now.after? cache.settings.lifetime.toNat).map fun expiresAt =>
        { cache with entries := cache.entries.insert key { session, expiresAt } } := by
  have hkept : ¬ (cache.entries.contains key = false ∧
      cache.settings.capacity.toNat ≤ cache.size) := by
    rintro ⟨habsent, hfull⟩
    exact absurd (hroom (Table.contains_eq_false_iff.mp habsent)) (Nat.not_lt.mpr hfull)
  rw [insert, roomFor, if_neg hkept]

end SessionCache

/-- A call for the session under a key that was answered: the services and the state it met, and
its answer. -/
structure Retrieval (σ : Type) where
  backend : Backend σ
  state : State σ
  key : SessionKey
  answer : Answer σ Session

namespace Retrieval

open Calls (Dispatch)

variable {σ : Type}

/-! ## Runs of calls -/

/-- What the service answers if it is asked for the session under a key. -/
def replyTo (backend : Backend σ) (state : State σ) (key : SessionKey) : Reply Session :=
  (backend.dispatch state.services key.publicKey key.chain).1

/-- The session that was dispatched with the call, if the service was asked and did not fail. -/
def dispatch? (retrieval : Retrieval σ) : Option Dispatch :=
  if retrieval.answer.events = [] then none
  else
    let reply := replyTo retrieval.backend retrieval.state retrieval.key
    reply.outcome.toOption.map fun session =>
      { key := retrieval.key, session, completed := retrieval.state.now + reply.delay }

/-- The sessions that have been dispatched, in the order of the calls. -/
def dispatches (history : List (Retrieval σ)) : List Dispatch := history.filterMap dispatch?

/-- The keys that have been asked for. -/
def keys (history : List (Retrieval σ)) : Finset SessionKey :=
  (history.map Retrieval.key).toFinset

/-- The session that was last dispatched for a key. -/
def latest? (history : List (Retrieval σ)) (key : SessionKey) : Option Dispatch :=
  ((dispatches history).filter fun dispatch => dispatch.key = key).getLast?

/-- Has a session been dispatched for the key whose lifetime has not passed? -/
def IsLive (settings : SessionSettings) (history : List (Retrieval σ)) (key : SessionKey)
    (now : Instant) : Prop :=
  ∃ dispatch ∈ dispatches history, dispatch.key = key ∧
    now < dispatch.completed + 1000 * settings.lifetime.toNat

/-- The states that calls made one after another lead to, with their histories.  Between two calls
any time may pass, and each call meets services that answer as they like. -/
inductive Run (start : State σ) : List (Retrieval σ) → State σ → Prop
  | start : Run start [] start
  | wait {history : List (Retrieval σ)} {state : State σ} (ms : Nat)
      (hrun : Run start history state) :
      Run start history { state with now := state.now + ms }
  | call {history : List (Retrieval σ)} {state : State σ} {answer : Answer σ Session}
      (backend : Backend σ) (key : SessionKey) (hrun : Run start history state)
      (hanswer : Gateway.session backend state key.publicKey key.chain = .ok answer) :
      Run start (history ++ [⟨backend, state, key, answer⟩]) answer.state

variable {settings : SessionSettings} {history : List (Retrieval σ)} {retrieval : Retrieval σ}
  {origin state : State σ} {key : SessionKey} {dispatch : Dispatch}

theorem dispatches_snoc (history : List (Retrieval σ)) (retrieval : Retrieval σ) :
    dispatches (history ++ [retrieval]) = dispatches history ++ retrieval.dispatch?.toList := by
  unfold dispatches
  rw [List.filterMap_append, List.filterMap_cons, List.filterMap_nil]
  cases retrieval.dispatch? <;> rfl

theorem keys_snoc (history : List (Retrieval σ)) (retrieval : Retrieval σ) :
    keys (history ++ [retrieval]) = insert retrieval.key (keys history) := by
  ext other
  simp [keys]

theorem latest?_snoc_of_none (hnone : retrieval.dispatch? = none) (key : SessionKey) :
    latest? (history ++ [retrieval]) key = latest? history key := by
  unfold latest?
  rw [dispatches_snoc, hnone, Option.toList_none, List.append_nil]

theorem latest?_snoc_of_some (hsome : retrieval.dispatch? = some dispatch) (key : SessionKey) :
    latest? (history ++ [retrieval]) key =
      if key = dispatch.key then some dispatch else latest? history key := by
  unfold latest?
  rw [dispatches_snoc, hsome, Option.toList_some, List.filter_append]
  by_cases hkey : key = dispatch.key
  · simp [hkey]
  · simp [hkey, Ne.symm hkey]

theorem mem_of_latest? (hlatest : latest? history key = some dispatch) :
    dispatch ∈ dispatches history ∧ dispatch.key = key := by
  have hmem := List.mem_of_getLast? hlatest
  simpa using List.mem_filter.mp hmem

theorem key_mem_of_dispatch (hmem : dispatch ∈ dispatches history) :
    dispatch.key ∈ keys history := by
  obtain ⟨retrieval, hretrieval, hdispatch⟩ := List.mem_filterMap.mp hmem
  have hkey : retrieval.key = dispatch.key := by
    unfold dispatch? at hdispatch
    split at hdispatch
    · cases hdispatch
    · obtain ⟨session, -, rfl⟩ := Option.map_eq_some_iff.mp hdispatch
      rfl
  exact List.mem_toFinset.mpr (List.mem_map.mpr ⟨retrieval, hretrieval, hkey⟩)

/-! ## One call -/

/-- The state in which the service has answered. -/
def asked (backend : Backend σ) (state : State σ) (key : SessionKey) : State σ :=
  { state with
    services := (backend.dispatch state.services key.publicKey key.chain).2
    now := state.now + (replyTo backend state key).delay }

/-- A call that finds a live session asks for nothing. -/
theorem session_of_found (backend : Backend σ) {session : Session}
    (hfound : state.sessions.lookup key state.now = some session) :
    Gateway.session backend state key.publicKey key.chain =
      .ok { result := .ok session, state, events := [] } := by
  simp only [Gateway.session, hfound]

/-- A call that finds none asks the service once, and keeps what is dispatched. -/
theorem session_of_missed (backend : Backend σ)
    (hmissed : state.sessions.lookup key state.now = none) :
    Gateway.session backend state key.publicKey key.chain =
      match (replyTo backend state key).outcome with
      | .error error =>
          .ok { result := .error error, state := asked backend state key
                events := [.dispatched key.publicKey key.chain] }
      | .ok session =>
          (state.sessions.insert key session (asked backend state key).now).map fun sessions =>
            { result := .ok session, state := { asked backend state key with sessions }
              events := [.dispatched key.publicKey key.chain] } := by
  simp only [Gateway.session, hmissed]
  rfl

/-! ## What the cache recalls -/

/-- The entry that a dispatch leaves. -/
def entryOf (settings : SessionSettings) (dispatch : Dispatch) : SessionEntry where
  session := dispatch.session
  expiresAt := dispatch.completed + 1000 * settings.lifetime.toNat

/-- The cache holds of every key what was last dispatched for it, and the dispatches were completed
one after another. -/
structure Recalls (settings : SessionSettings) (history : List (Retrieval σ)) (state : State σ) :
    Prop where
  settings_eq : state.sessions.settings = settings
  find?_eq : ∀ key,
    state.sessions.entries.find? key = (latest? history key).map (entryOf settings)
  completed_le : ∀ dispatch ∈ dispatches history, dispatch.completed ≤ state.now
  sorted : (dispatches history).Pairwise fun first second => first.completed ≤ second.completed

namespace Recalls

/-- No session was dispatched for a key after the latest one. -/
theorem completed_le_latest (hrecalls : Recalls settings history state)
    (hlatest : latest? history key = some dispatch) {other : Dispatch}
    (hother : other ∈ dispatches history) (hkey : other.key = key) :
    other.completed ≤ dispatch.completed := by
  obtain ⟨earlier, hsplit⟩ := List.getLast?_eq_some_iff.mp hlatest
  have hsorted := hrecalls.sorted.sublist
    (List.filter_sublist (p := fun dispatch : Dispatch => decide (dispatch.key = key)))
  have hmem : other ∈ earlier ++ [dispatch] := by
    rw [← hsplit]
    exact List.mem_filter.mpr ⟨hother, by simpa using hkey⟩
  rw [hsplit, List.pairwise_append] at hsorted
  rcases List.mem_append.mp hmem with hearlier | hlast
  · exact hsorted.2.2 other hearlier dispatch (List.mem_singleton_self _)
  · rw [List.mem_singleton.mp hlast]

/-- Some dispatch for the key is live exactly when the latest one is. -/
theorem isLive_iff (hrecalls : Recalls settings history state) :
    IsLive settings history key state.now ↔
      ∃ dispatch, latest? history key = some dispatch ∧
        state.now < (entryOf settings dispatch).expiresAt := by
  constructor
  · rintro ⟨dispatch, hmem, hkey, hlive⟩
    cases hlatest : latest? history key with
    | none =>
        have hnone := List.getLast?_eq_none_iff.mp hlatest
        have hfilter : dispatch ∈ (dispatches history).filter fun dispatch => dispatch.key = key :=
          List.mem_filter.mpr ⟨hmem, by simpa using hkey⟩
        rw [hnone] at hfilter
        cases hfilter
    | some latest =>
        have hle := hrecalls.completed_le_latest hlatest hmem hkey
        exact ⟨latest, rfl, Nat.lt_of_lt_of_le hlive (Nat.add_le_add_right hle _)⟩
  · rintro ⟨dispatch, hlatest, hlive⟩
    obtain ⟨hmem, hkey⟩ := mem_of_latest? hlatest
    exact ⟨dispatch, hmem, hkey, hlive⟩

theorem lookup_eq_some_iff (hrecalls : Recalls settings history state) {session : Session} :
    state.sessions.lookup key state.now = some session ↔
      ∃ dispatch, latest? history key = some dispatch ∧
        state.now < (entryOf settings dispatch).expiresAt ∧ dispatch.session = session := by
  rw [SessionCache.lookup_eq_some_iff, hrecalls.find?_eq]
  simp only [Option.map_eq_some_iff]
  constructor
  · rintro ⟨_, ⟨dispatch, hlatest, rfl⟩, hlive, hsession⟩
    exact ⟨dispatch, hlatest, hlive, hsession⟩
  · rintro ⟨dispatch, hlatest, hlive, hsession⟩
    exact ⟨_, ⟨dispatch, hlatest, rfl⟩, hlive, hsession⟩

/-- A key that is new to the cache finds room: the keys of the cache have been asked for. -/
theorem size_lt_of_absent (hrecalls : Recalls settings history state)
    (habsent : state.sessions.entries.find? key = none)
    (hkeys : (insert key (keys history)).card ≤ settings.capacity.toNat) :
    state.sessions.size < settings.capacity.toNat := by
  have hdistinct : state.sessions.entries.keys.Nodup := state.sessions.entries.distinct
  -- every key in the cache was dispatched in the history, and the new key is not
  -- among them: the cache holds one key less than may be asked for
  have hsub : insert key (state.sessions.entries.keys.toFinset) ⊆ insert key (keys history) := by
    refine Finset.insert_subset_insert _ fun other hother => ?_
    obtain ⟨⟨held, entry⟩, hentry, rfl⟩ := List.mem_map.mp (List.mem_toFinset.mp hother)
    have hfind := Table.find?_of_mem_entries hentry
    rw [hrecalls.find?_eq] at hfind
    obtain ⟨dispatch, hlatest, -⟩ := Option.map_eq_some_iff.mp hfind
    obtain ⟨hmem, rfl⟩ := mem_of_latest? hlatest
    exact key_mem_of_dispatch hmem
  have hnew : key ∉ state.sessions.entries.keys.toFinset := by
    intro hmem
    obtain ⟨⟨held, entry⟩, hentry, rfl⟩ := List.mem_map.mp (List.mem_toFinset.mp hmem)
    rw [Table.find?_of_mem_entries hentry] at habsent
    cases habsent
  have hcard := Finset.card_le_card hsub
  rw [Finset.card_insert_of_notMem hnew, List.toFinset_card_of_nodup hdistinct] at hcard
  have hsize : state.sessions.entries.keys.length = state.sessions.size := List.length_map _
  omega

/-- While no more keys are asked for than the cache may hold, nothing is evicted. -/
theorem insert_eq (hrecalls : Recalls settings history state)
    (hkeys : (insert key (keys history)).card ≤ settings.capacity.toNat) (session : Session)
    (now : Instant) :
    state.sessions.insert key session now =
      (now.after? settings.lifetime.toNat).map fun expiresAt =>
        { state.sessions with
          entries := state.sessions.entries.insert key { session, expiresAt } } := by
  have hroom := fun habsent => hrecalls.size_lt_of_absent habsent hkeys
  rw [← hrecalls.settings_eq] at hroom ⊢
  exact SessionCache.insert_of_room _ _ _ _ hroom

theorem start (horigin : origin.sessions = { settings }) : Recalls settings [] origin where
  settings_eq := by rw [horigin]
  find?_eq := by simp [horigin, latest?, dispatches]
  completed_le := by simp [dispatches]
  sorted := by simp [dispatches]

theorem wait (hrecalls : Recalls settings history state) (ms : Nat) :
    Recalls settings history { state with now := state.now + ms } where
  settings_eq := hrecalls.settings_eq
  find?_eq := hrecalls.find?_eq
  completed_le dispatch hmem := Nat.le_add_right_of_le (hrecalls.completed_le dispatch hmem)
  sorted := hrecalls.sorted

/-- A call with which nothing was dispatched leaves the entries as they are. -/
theorem undispatched (hrecalls : Recalls settings history state) {after : State σ}
    (hnone : retrieval.dispatch? = none) (hsessions : after.sessions = state.sessions)
    (hnow : state.now ≤ after.now) : Recalls settings (history ++ [retrieval]) after := by
  have hsame : dispatches (history ++ [retrieval]) = dispatches history := by
    rw [dispatches_snoc, hnone, Option.toList_none, List.append_nil]
  constructor
  · rw [hsessions, hrecalls.settings_eq]
  · intro key
    rw [hsessions, latest?_snoc_of_none hnone, hrecalls.find?_eq]
  · intro dispatch hmem
    rw [hsame] at hmem
    exact Nat.le_trans (hrecalls.completed_le dispatch hmem) hnow
  · rw [hsame]
    exact hrecalls.sorted

/-- What is dispatched with a call takes the place of what was dispatched before. -/
theorem dispatched (hrecalls : Recalls settings history state) {after : State σ}
    (hsome : retrieval.dispatch? = some dispatch)
    (hsessions : after.sessions = { state.sessions with
      entries := state.sessions.entries.insert dispatch.key (entryOf settings dispatch) })
    (hcompleted : state.now ≤ dispatch.completed) (hnow : after.now = dispatch.completed) :
    Recalls settings (history ++ [retrieval]) after := by
  have hlonger : dispatches (history ++ [retrieval]) = dispatches history ++ [dispatch] := by
    rw [dispatches_snoc, hsome, Option.toList_some]
  have hbefore : ∀ earlier ∈ dispatches history, earlier.completed ≤ dispatch.completed :=
    fun earlier hearlier => Nat.le_trans (hrecalls.completed_le earlier hearlier) hcompleted
  constructor
  · rw [hsessions]
    exact hrecalls.settings_eq
  · intro key
    rw [hsessions, latest?_snoc_of_some hsome]
    show (state.sessions.entries.insert _ _).find? key = _
    rw [Table.find?_insert, hrecalls.find?_eq]
    split <;> rfl
  · intro earlier hearlier
    rw [hlonger, List.mem_append, List.mem_singleton] at hearlier
    rcases hearlier with hearlier | rfl
    · exact hnow ▸ hbefore earlier hearlier
    · exact Nat.le_of_eq hnow.symm
  · -- calls are made one after another, so the new dispatch completes last
    rw [hlonger, List.pairwise_append]
    refine ⟨hrecalls.sorted, List.pairwise_singleton _ _, fun earlier hearlier last hlast => ?_⟩
    rw [List.mem_singleton.mp hlast]
    exact hbefore earlier hearlier

/-- Every call keeps the cache in step with the dispatches, while no more keys are asked for than
it may hold. -/
theorem call (hrecalls : Recalls settings history state) {backend : Backend σ}
    {answer : Answer σ Session}
    (hkeys : (insert key (keys history)).card ≤ settings.capacity.toNat)
    (hanswer : Gateway.session backend state key.publicKey key.chain = .ok answer) :
    Recalls settings (history ++ [⟨backend, state, key, answer⟩]) answer.state := by
  cases hlookup : state.sessions.lookup key state.now with
  -- a cached session is returned, nothing is recorded
  | some session =>
      rw [session_of_found backend hlookup] at hanswer
      cases hanswer
      exact hrecalls.undispatched rfl rfl (Nat.le_refl _)
  | none =>
      rw [session_of_missed backend hlookup] at hanswer
      cases houtcome : (replyTo backend state key).outcome with
      | error error =>
          rw [houtcome] at hanswer
          cases hanswer
          -- a refusal takes its time but leaves the cache as it was
          refine hrecalls.undispatched ?_ rfl (Nat.le_add_right _ _)
          simp [dispatch?, houtcome, Except.toOption]
      | ok session =>
          simp only [houtcome] at hanswer
          obtain ⟨sessions, hinsert, rfl⟩ := map_eq_ok_iff.mp hanswer
          -- there is room, so the insertion evicts nothing
          rw [hrecalls.insert_eq hkeys] at hinsert
          obtain ⟨expiresAt, hexpires, rfl⟩ := map_eq_ok_iff.mp hinsert
          obtain ⟨-, rfl⟩ := Instant.after?_eq_ok_iff.mp hexpires
          have hsome : ∀ answer : Answer σ Session, answer.events ≠ [] →
              dispatch? ⟨backend, state, key, answer⟩ =
                some { key, session, completed := (asked backend state key).now } := by
            intro answer hasked
            rw [dispatch?, if_neg hasked]
            simp only [houtcome]
            rfl
          exact hrecalls.dispatched (hsome _ (List.cons_ne_nil _ _)) rfl (Nat.le_add_right _ _) rfl

end Recalls

/-- Along a run that asks for no more keys than the cache may hold, the cache recalls what was
dispatched. -/
theorem Run.recalls (horigin : origin.sessions = { settings })
    (hrun : Run origin history state) (hkeys : (keys history).card ≤ settings.capacity.toNat) :
    Recalls settings history state := by
  induction hrun with
  | start => exact .start horigin
  | wait ms hrun ih => exact (ih hkeys).wait ms
  | call backend key hrun hanswer ih =>
      rw [keys_snoc] at hkeys
      have hfewer := Nat.le_trans (Finset.card_le_card (Finset.subset_insert _ _)) hkeys
      exact (ih hfewer).call hkeys hanswer

/-- **Sessions are dispatched once per lifetime.**  Let calls be made one after another for no more
keys than the cache may hold.  If some session that was dispatched for the key is live, the next
call returns the latest one and asks for nothing.  If there is none, the call asks the service
exactly once and returns its answer, unless the session would outlast the clock. -/
theorem dispatched_once_per_lifetime (horigin : origin.sessions = { settings })
    (hrun : Run origin history state) (backend : Backend σ) (key : SessionKey)
    (hkeys : (insert key (keys history)).card ≤ settings.capacity.toNat) :
    (IsLive settings history key state.now → ∃ dispatch, latest? history key = some dispatch ∧
      Gateway.session backend state key.publicKey key.chain =
        .ok { result := .ok dispatch.session, state, events := [] }) ∧
      (¬ IsLive settings history key state.now →
        (∃ answer, Gateway.session backend state key.publicKey key.chain = .ok answer ∧
          answer.result = (replyTo backend state key).outcome ∧
          answer.events = [.dispatched key.publicKey key.chain]) ∨
        (∃ session, (replyTo backend state key).outcome = .ok session) ∧
          clockLimit ≤ state.now + (replyTo backend state key).delay +
            1000 * settings.lifetime.toNat ∧
          Gateway.session backend state key.publicKey key.chain = .error .clockOverflow) := by
  have hrecalls := hrun.recalls horigin
    (Nat.le_trans (Finset.card_le_card (Finset.subset_insert _ _)) hkeys)
  constructor
  · intro hlive
    obtain ⟨dispatch, hlatest, hbefore⟩ := hrecalls.isLive_iff.mp hlive
    exact ⟨dispatch, hlatest, session_of_found backend
      (hrecalls.lookup_eq_some_iff.mpr ⟨dispatch, hlatest, hbefore, rfl⟩)⟩
  · intro hended
    -- what the lookup finds is always live, so a dead session is a miss
    have hmissed : state.sessions.lookup key state.now = none := by
      refine Option.eq_none_iff_forall_ne_some.mpr fun session hfound => hended ?_
      obtain ⟨dispatch, hlatest, hbefore, -⟩ := hrecalls.lookup_eq_some_iff.mp hfound
      exact hrecalls.isLive_iff.mpr ⟨dispatch, hlatest, hbefore⟩
    rw [session_of_missed backend hmissed]
    cases houtcome : (replyTo backend state key).outcome with
    | error error => exact Or.inl ⟨_, rfl, rfl, rfl⟩
    | ok session =>
        dsimp only
        rw [hrecalls.insert_eq hkeys]
        -- only the lifetime of the new session can run past the clock
        by_cases hclock :
            (asked backend state key).now + 1000 * settings.lifetime.toNat < clockLimit
        · have hafter : (asked backend state key).now.after? settings.lifetime.toNat = .ok _ :=
            Instant.after?_eq_ok_iff.mpr ⟨hclock, rfl⟩
          rw [hafter]
          exact Or.inl ⟨_, rfl, rfl, rfl⟩
        · refine Or.inr ⟨⟨session, rfl⟩, Nat.not_lt.mp hclock, ?_⟩
          rw [Instant.after?, if_neg hclock]
          rfl

/-! ## At the end of a lifetime -/

/-- Services that answer every dispatch in the same way. -/
def answering (delay : Nat) (outcome : Except Error Session) : Backend Unit where
  dispatch services _ _ := ({ delay, outcome }, services)
  relay services _ := ({ outcome := .error .emptySession }, services)

/-- A gateway that keeps two sessions for a second. -/
def shortLived : State Unit where
  sessions := { settings := { lifetime := 1, capacity := 2 } }
  affinity := {}
  services := ()
  now := 0

/-- Its state after a dispatch that took half a second. -/
def afterDispatch : State Unit where
  sessions :=
    { settings := { lifetime := 1, capacity := 2 }
      entries :=
        Table.empty.insert ⟨"pub", "a"⟩ { session := { key := "first" }, expiresAt := 1500 } }
  affinity := {}
  services := ()
  now := 500

/-- The dispatch, and then a failed one for another key. -/
def callsBefore : List (Retrieval Unit) :=
  [{ backend := answering 500 (.ok { key := "first" }), state := shortLived, key := ⟨"pub", "a"⟩
     answer := { result := .ok { key := "first" }, state := afterDispatch
                 events := [.dispatched "pub" "a"] } },
    { backend := answering 0 (.error .emptySession), state := afterDispatch
      key := ⟨"pub", "b"⟩
      answer := { result := .error .emptySession, state := afterDispatch
                  events := [.dispatched "pub" "b"] } }]

theorem run_callsBefore : Run shortLived callsBefore afterDispatch := by
  have hmissed : shortLived.sessions.lookup ⟨"pub", "a"⟩ shortLived.now = none := rfl
  have hother : afterDispatch.sessions.lookup ⟨"pub", "b"⟩ afterDispatch.now = none := rfl
  have hstart : Run shortLived [] shortLived := .start
  refine (hstart.call _ ⟨"pub", "a"⟩ ?_).call _ ⟨"pub", "b"⟩ ?_
  · rw [session_of_missed _ hmissed]
    rfl
  · rw [session_of_missed _ hother]
    rfl

/-- At the very end of the lifetime the session is asked for again, and a millisecond earlier it is
not. -/
theorem dispatched_once_per_lifetime_boundary :
    shortLived.sessions = { settings := { lifetime := 1, capacity := 2 } } ∧
      Run shortLived callsBefore { afterDispatch with now := 500 + 999 } ∧
      (insert ⟨"pub", "a"⟩ (keys callsBefore)).card ≤ 2 ∧
      Gateway.session (answering 0 (.error .emptySession))
        { afterDispatch with now := 500 + 999 } "pub" "a" =
          .ok { result := .ok { key := "first" }, state := { afterDispatch with now := 1499 }
                events := [] } ∧
      ∃ answer, Gateway.session (answering 0 (.error .emptySession))
          { afterDispatch with now := 500 + 1000 } "pub" "a" = .ok answer ∧
        answer.result = .error .emptySession ∧ answer.events = [.dispatched "pub" "a"] := by
  have hdispatches : dispatches callsBefore =
      [{ key := ⟨"pub", "a"⟩, session := { key := "first" }, completed := 500 }] := rfl
  have hkeys : (insert ⟨"pub", "a"⟩ (keys callsBefore)).card ≤ 2 := by decide
  have horigin : shortLived.sessions = { settings := { lifetime := 1, capacity := 2 } } := rfl
  have hlate := dispatched_once_per_lifetime horigin
    (run_callsBefore.wait 1000) (answering 0 (.error .emptySession)) ⟨"pub", "a"⟩ hkeys
  have hearly := dispatched_once_per_lifetime horigin
    (run_callsBefore.wait 999) (answering 0 (.error .emptySession)) ⟨"pub", "a"⟩ hkeys
  refine ⟨horigin, run_callsBefore.wait 999, hkeys, ?_, ?_⟩
  · obtain ⟨dispatch, hlatest, hsession⟩ := hearly.1
      ⟨_, hdispatches ▸ List.mem_singleton_self _, rfl, by decide⟩
    cases (show some _ = some dispatch from hlatest)
    exact hsession
  · have hended : ¬ IsLive { lifetime := 1, capacity := 2 } callsBefore ⟨"pub", "a"⟩
        (500 + 1000) := by
      rintro ⟨dispatch, hmem, -, hlive⟩
      rw [hdispatches, List.mem_singleton] at hmem
      subst hmem
      exact absurd hlive (by decide)
    rcases hlate.2 hended with hasked | ⟨⟨session, houtcome⟩, -⟩
    · exact hasked
    · cases houtcome

end Retrieval

end ChainGateway
