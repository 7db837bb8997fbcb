import ChainGateway.Gateway
import ChainGateway.Proofs.Except
import ChainGateway.Proofs.SessionCache.Eviction
import ChainGateway.Proofs.Trace
import ChainGateway.SessionCall

/-!
# Calls for sessions that overlap

Any number of calls for sessions share a cache.  A call looks into it, waits for the dispatch
service if it found nothing, and keeps what was dispatched; between any two of these steps other
calls take theirs, and the service answers as it likes and when it likes.  `Calls` is this
system, under a clock that never goes back.

Whatever the order, the cache stays within its bound, every entry is a session that was
dispatched for its key, and every session that a call returns was dispatched for it just now, or
was found while its lifetime had not passed.

## Strategy

What is said of a state is a statement about the steps that led to it: `dispatches` reads off
a history what the service has returned, and `Explained` says what must have happened for a call
to be at its stage.  One insertion is described by `insert_size_le` and `find?_insert_cases`;
`Sound` collects what every step keeps, and `Sound.step` shows that it does, by cases on the
step.
-/

namespace ChainGateway

namespace SessionCache

/-! ## One insertion -/

variable {cache after : SessionCache} {key : SessionKey} {session : Session} {now : Instant}

/-- Making room leaves nothing, or one entry less than there were. -/
theorem size_evict (cache : SessionCache) (now : Instant) :
    (evict cache.entries now).size = 0 ∨ (evict cache.entries now).size < cache.size := by
  have hlive : (cache.live now).size ≤ cache.size := Table.size_filter_le _ _
  cases hfirst : soonest? (cache.live now).entries with
  -- nothing is live, and the sweep has left nothing
  | none =>
      have hempty : (cache.live now).size = 0 :=
        List.length_eq_zero_iff.mpr (soonest?_eq_none_iff.mp hfirst)
      rw [evict_of_live_empty hempty]
      exact Or.inl hempty
  | some first =>
      have hfind := Table.find?_of_mem_entries (soonest?_spec hfirst).1
      have hcontains : (cache.live now).contains first.1 = true := by
        rw [Table.contains, hfind]
        rfl
      rw [evict_eq_erase hfirst]
      exact Or.inr (Nat.lt_of_lt_of_le (Table.size_erase_lt hcontains) hlive)

theorem find?_evict {entries : Table SessionKey SessionEntry} {entry : SessionEntry}
    (hfind : (evict entries now).find? key = some entry) : entries.find? key = some entry := by
  -- what is left was left by the sweep, whether an entry was dropped after it or not
  have hlive : (entries.filter fun _ entry => !entry.isExpired now).find? key = some entry := by
    simp only [evict] at hfind
    split at hfind
    · rw [Table.find?_erase] at hfind
      exact (Option.ite_none_left_eq_some.mp hfind).2
    · exact hfind
  rw [Table.find?_filter] at hlive
  exact (Option.filter_eq_some_iff.mp hlive).1

/-- An insertion keeps the settings, and within the bound it stays there. -/
theorem insert_size_le (hinsert : cache.insert key session now = .ok after) :
    after.settings = cache.settings ∧
      after.size ≤ max cache.size (max 1 cache.settings.capacity.toNat) := by
  unfold insert roomFor at hinsert
  obtain ⟨expiresAt, -, rfl⟩ := map_eq_ok_iff.mp hinsert
  refine ⟨rfl, ?_⟩
  split
  · have hadded := Table.size_insert_le (evict cache.entries now) key { session, expiresAt }
    have hevict := size_evict cache now
    simp only [size] at hevict ⊢
    omega
  · next hroom =>
      have hadded := Table.size_insert_le cache.entries key { session, expiresAt }
      cases hcontains : cache.entries.contains key with
      | true =>
          -- an entry that is replaced makes no room, even if it has ended
          have hreplaced : (cache.entries.insert key { session, expiresAt }).size ≤
              cache.entries.size := Table.size_insert_le_of_contains hcontains
          simp only [size]
          omega
      | false =>
          have hless : ¬ cache.settings.capacity.toNat ≤ cache.size :=
            fun hfull => hroom ⟨hcontains, hfull⟩
          simp only [size] at hless ⊢
          omega

theorem find?_insert_cases (hinsert : cache.insert key session now = .ok after)
    {other : SessionKey} {entry : SessionEntry}
    (hfind : after.entries.find? other = some entry) :
    cache.entries.find? other = some entry ∨
      other = key ∧
        entry = { session, expiresAt := now + 1000 * cache.settings.lifetime.toNat } := by
  unfold insert roomFor at hinsert
  obtain ⟨expiresAt, hexpires, rfl⟩ := map_eq_ok_iff.mp hinsert
  obtain ⟨-, rfl⟩ := Instant.after?_eq_ok_iff.mp hexpires
  simp only [Table.find?_insert] at hfind
  split at hfind
  · next hother => exact Or.inr ⟨hother, (Option.some.inj hfind).symm⟩
  · split at hfind
    · exact Or.inl (find?_evict hfind)
    · exact Or.inl hfind

theorem lookup_eq_some_iff :
    cache.lookup key now = some session ↔
      ∃ entry, cache.entries.find? key = some entry ∧ now < entry.expiresAt ∧
        entry.session = session := by
  unfold lookup
  split
  · next entry hfind => simp [hfind, SessionEntry.isExpired]
  · next hfind => simp [hfind]

end SessionCache

/-! ## The system -/

/-- Calls for sessions that share a cache and a clock. -/
structure Calls where
  cache : SessionCache
  now : Instant
  calls : List SessionCall := []

namespace Calls

/-- What happens to a call, at whatever instant. -/
inductive Event where
  | look
  | answer (outcome : Except Error Session)
  | keep

/-- What happens to a call at an instant. -/
def Event.at (now : Instant) : Event → SessionCall.Action
  | look => .look now
  | answer outcome => .answer outcome now
  | keep => .keep

/-- What can happen among calls.  Calls are named by the order in which they begin. -/
inductive Action where
  /-- Time passes. -/
  | wait (ms : Nat)
  /-- A call begins. -/
  | begin (key : SessionKey)
  /-- A call goes on. -/
  | call (place : Nat) (event : Event)

/-- The state in which no call has begun and nothing is kept. -/
def start (settings : SessionSettings) (now : Instant) : Calls := { cache := { settings }, now }

/-- The calls after an action, if the action is possible. -/
def step (state : Calls) : Action → Except Fault (Option Calls)
  | .wait ms => .ok (some { state with now := state.now + ms })
  | .begin key => .ok (some { state with calls := state.calls ++ [{ key }] })
  | .call place event =>
      match state.calls[place]? with
      | some call =>
          (call.step state.cache (event.at state.now)).map fun result =>
            result.map fun (call, cache) =>
              { state with cache, calls := state.calls.set place call }
      | none => .ok none

/-- The steps of calls. -/
inductive Moves (state : Calls) : Action → Calls → Prop
  | waited (ms : Nat) : Moves state (.wait ms) { state with now := state.now + ms }
  | began (key : SessionKey) :
      Moves state (.begin key) { state with calls := state.calls ++ [{ key }] }
  | called {place : Nat} {event : Event} {call next : SessionCall} {cache : SessionCache}
      (hcall : state.calls[place]? = some call)
      (hmoves : call.Moves state.cache (event.at state.now) next cache) :
      Moves state (.call place event) { state with cache, calls := state.calls.set place next }

theorem moves_of_step {state next : Calls} {action : Action}
    (hstep : StepsOf step state action next) : state.Moves action next := by
  unfold StepsOf step at hstep
  split at hstep
  · cases hstep
    exact .waited _
  · cases hstep
    exact .began _
  · split at hstep
    · next call hcall =>
        obtain ⟨result, hresult, hnext⟩ := map_eq_ok_iff.mp hstep
        obtain ⟨⟨moved, cache⟩, rfl, rfl⟩ := Option.map_eq_some_iff.mp hnext
        exact .called hcall (SessionCall.step_eq_ok_iff.mp hresult)
    · cases hstep

theorem steps_of_moves {state next : Calls} {action : Action}
    (hmoves : state.Moves action next) : StepsOf step state action next := by
  cases hmoves with
  | waited ms => rfl
  | began key => rfl
  | called hcall hmoves =>
      simp [StepsOf, step, hcall, SessionCall.step_eq_ok_iff.mpr hmoves, Except.map]

/-! ## Reading a history -/

/-- A session that the dispatch service returned. -/
structure Dispatch where
  key : SessionKey
  session : Session
  completed : Instant

/-- A step of the calls, with the state before it and the state after it. -/
abbrev Step := Moment Calls Action

/-- The session that the service returned with a step. -/
def dispatch? (moment : Step) : Option Dispatch :=
  match moment.action with
  | .call place (.answer (.ok session)) =>
      moment.before.calls[place]?.map fun call =>
        { key := call.key, session, completed := moment.before.now }
  | _ => none

/-- The sessions that the service has returned. -/
def dispatches (history : List Step) : List Dispatch := history.filterMap dispatch?

/-- Does the step belong to the call at a place? -/
def Concerns (place : Nat) (moment : Step) : Prop := ∃ event, moment.action = .call place event

/-- The call at a place has changed no entry of the cache. -/
def Untouched (history : List Step) (place : Nat) : Prop :=
  ∀ moment ∈ history, Concerns place moment → moment.after.cache = moment.before.cache

/-- The service returned the session to the call at a place. -/
def DispatchedTo (history : List Step) (place : Nat) (dispatch : Dispatch) : Prop :=
  ∃ moment ∈ history, moment.action = .call place (.answer (.ok dispatch.session)) ∧
    dispatch? moment = some dispatch

/-- The call at a place looked into the cache when the service had returned the session less
than a lifetime before. -/
def FoundLive (settings : SessionSettings) (history : List Step) (place : Nat)
    (key : SessionKey) (session : Session) : Prop :=
  ∃ earlier moment later, history = earlier ++ moment :: later ∧
    moment.action = .call place .look ∧
    ∃ dispatch ∈ dispatches earlier, dispatch.key = key ∧ dispatch.session = session ∧
      dispatch.completed ≤ moment.before.now ∧
      moment.before.now < dispatch.completed + 1000 * settings.lifetime.toNat

/-- What has happened if the call at a place is at its stage. -/
def Explained (settings : SessionSettings) (history : List Step) (place : Nat)
    (call : SessionCall) : Prop :=
  match call.stage with
  | .begun | .dispatching => Untouched history place
  | .dispatched session completed =>
      DispatchedTo history place { key := call.key, session, completed } ∧
        Untouched history place
  | .returned session =>
      (∃ completed, DispatchedTo history place { key := call.key, session, completed }) ∨
        FoundLive settings history place call.key session
  | .failed error =>
      (∃ moment ∈ history, moment.action = .call place (.answer (.error error))) ∧
        Untouched history place

theorem dispatches_append (history : List Step) (moment : Step) :
    dispatches (history ++ [moment]) = dispatches history ++ (dispatch? moment).toList := by
  simp [dispatches, List.filterMap_append, List.filterMap_cons]
  cases dispatch? moment <;> rfl

theorem DispatchedTo.append {history : List Step} {place : Nat} {dispatch : Dispatch}
    (hdispatched : DispatchedTo history place dispatch) (moment : Step) :
    DispatchedTo (history ++ [moment]) place dispatch := by
  obtain ⟨own, hmem, hown⟩ := hdispatched
  exact ⟨own, List.mem_append_left _ hmem, hown⟩

theorem FoundLive.append {settings : SessionSettings} {history : List Step} {place : Nat}
    {key : SessionKey} {session : Session} (hfound : FoundLive settings history place key session)
    (moment : Step) : FoundLive settings (history ++ [moment]) place key session := by
  obtain ⟨earlier, look, later, rfl, hlook⟩ := hfound
  exact ⟨earlier, look, later ++ [moment], by simp, hlook⟩

theorem Untouched.append {history : List Step} {place : Nat} {moment : Step}
    (huntouched : Untouched history place)
    (hmoment : Concerns place moment → moment.after.cache = moment.before.cache) :
    Untouched (history ++ [moment]) place := by
  intro other hother
  rcases List.mem_append.mp hother with hearlier | hlast
  · exact huntouched other hearlier
  · rw [List.mem_singleton] at hlast
    subst hlast
    exact hmoment

/-- What happens to other calls explains nothing away. -/
theorem Explained.append {settings : SessionSettings} {history : List Step} {place : Nat}
    {call : SessionCall} {moment : Step} (hexplained : Explained settings history place call)
    (hother : ¬ Concerns place moment) : Explained settings (history ++ [moment]) place call := by
  have hmoment : Concerns place moment → moment.after.cache = moment.before.cache :=
    fun hconcerns => absurd hconcerns hother
  unfold Explained at hexplained ⊢
  split at hexplained
  · exact hexplained.append hmoment
  · exact hexplained.append hmoment
  · exact ⟨hexplained.1.append moment, hexplained.2.append hmoment⟩
  · rcases hexplained with ⟨completed, hdispatched⟩ | hfound
    · exact Or.inl ⟨completed, hdispatched.append moment⟩
    · exact Or.inr (hfound.append moment)
  · obtain ⟨⟨failure, hmem, hfailure⟩, huntouched⟩ := hexplained
    exact ⟨⟨failure, List.mem_append_left _ hmem, hfailure⟩, huntouched.append hmoment⟩

/-! ## What every step keeps -/

/-- What holds of the calls after a history. -/
structure Sound (settings : SessionSettings) (history : List Step) (state : Calls) : Prop where
  settings_eq : state.cache.settings = settings
  size_le : state.cache.size ≤ max 1 settings.capacity.toNat
  dispatched : ∀ key entry, state.cache.entries.find? key = some entry →
    ∃ dispatch ∈ dispatches history, dispatch.key = key ∧ dispatch.session = entry.session ∧
      dispatch.completed + 1000 * settings.lifetime.toNat = entry.expiresAt
  completed_le : ∀ dispatch ∈ dispatches history, dispatch.completed ≤ state.now
  begun : ∀ moment ∈ history, ∀ place, Concerns place moment → place < state.calls.length
  explained : ∀ place call, state.calls[place]? = some call →
    Explained settings history place call

theorem sound_start (settings : SessionSettings) (now : Instant) :
    Sound settings [] (start settings now) where
  settings_eq := rfl
  size_le := Nat.zero_le _
  dispatched := by simp [start]
  completed_le := by simp [dispatches]
  begun := by simp
  explained := by simp [start]

theorem completed_eq_of_dispatch? {moment : Step} {dispatch : Dispatch}
    (hdispatch : dispatch? moment = some dispatch) : dispatch.completed = moment.before.now := by
  unfold dispatch? at hdispatch
  split at hdispatch
  · obtain ⟨call, -, rfl⟩ := Option.map_eq_some_iff.mp hdispatch
    rfl
  · cases hdispatch

namespace Sound

variable {settings : SessionSettings} {history : List Step} {state : Calls}

theorem dispatched_append (hsound : Sound settings history state) (moment : Step)
    {key : SessionKey} {entry : SessionEntry}
    (hfind : state.cache.entries.find? key = some entry) :
    ∃ dispatch ∈ dispatches (history ++ [moment]), dispatch.key = key ∧
      dispatch.session = entry.session ∧
      dispatch.completed + 1000 * settings.lifetime.toNat = entry.expiresAt := by
  obtain ⟨dispatch, hmem, hdispatch⟩ := hsound.dispatched key entry hfind
  rw [dispatches_append]
  exact ⟨dispatch, List.mem_append_left _ hmem, hdispatch⟩

/-- No dispatch completes after the step it completes with. -/
theorem completed_le_append (hsound : Sound settings history state) {action : Action}
    {next : Calls} (hnow : state.now ≤ next.now) :
    ∀ dispatch ∈ dispatches (history ++ [⟨state, action, next⟩]),
      dispatch.completed ≤ next.now := by
  intro dispatch hmem
  rw [dispatches_append] at hmem
  rcases List.mem_append.mp hmem with hearlier | hlast
  · exact Nat.le_trans (hsound.completed_le dispatch hearlier) hnow
  · rw [completed_eq_of_dispatch? (Option.mem_toList.mp hlast)]
    exact hnow

theorem begun_append (hsound : Sound settings history state) {moment : Step} {count : Nat}
    (hcount : state.calls.length ≤ count)
    (hmoment : ∀ place, Concerns place moment → place < count) :
    ∀ other ∈ history ++ [moment], ∀ place, Concerns place other → place < count := by
  intro other hother place hconcerns
  rcases List.mem_append.mp hother with hearlier | hlast
  · exact Nat.lt_of_lt_of_le (hsound.begun other hearlier place hconcerns) hcount
  · rw [List.mem_singleton] at hlast
    subst hlast
    exact hmoment place hconcerns

/-! ### Time passes, and calls begin -/

theorem wait (hsound : Sound settings history state) (ms : Nat) :
    Sound settings (history ++ [⟨state, .wait ms, { state with now := state.now + ms }⟩])
      { state with now := state.now + ms } where
  settings_eq := hsound.settings_eq
  size_le := hsound.size_le
  dispatched _ _ hfind := hsound.dispatched_append _ hfind
  completed_le := hsound.completed_le_append (Nat.le_add_right _ _)
  begun := hsound.begun_append (Nat.le_refl _) (by simp [Concerns])
  explained place call hcall := (hsound.explained place call hcall).append (by simp [Concerns])

/-- A call that begins has done nothing, as no step belongs to its place. -/
theorem begin (hsound : Sound settings history state) (key : SessionKey) :
    Sound settings
      (history ++ [⟨state, .begin key, { state with calls := state.calls ++ [{ key }] }⟩])
      { state with calls := state.calls ++ [{ key }] } where
  settings_eq := hsound.settings_eq
  size_le := hsound.size_le
  dispatched _ _ hfind := hsound.dispatched_append _ hfind
  completed_le := hsound.completed_le_append (Nat.le_refl _)
  begun := hsound.begun_append (by simp) (by simp [Concerns])
  explained := by
    intro place call hcall
    rcases Nat.lt_or_ge place state.calls.length with hless | hnew
    · rw [List.getElem?_append_left hless] at hcall
      exact (hsound.explained place call hcall).append (by simp [Concerns])
    · -- the place is new, so no step so far belongs to it
      have hfresh : Untouched history place := fun moment hmem hconcerns =>
        absurd (hsound.begun moment hmem place hconcerns) (Nat.not_lt.mpr hnew)
      have hcall := List.mem_of_getElem? ((List.getElem?_append_right hnew).symm.trans hcall)
      rw [List.mem_singleton] at hcall
      subst hcall
      exact hfresh.append (by simp [Concerns])

/-! ### A call goes on -/

variable {place : Nat} {event : Event} {call next : SessionCall} {cache : SessionCache}

theorem cache_cases (hmoves : call.Moves state.cache (event.at state.now) next cache) :
    cache = state.cache ∨
      ∃ session completed, call.stage = .dispatched session completed ∧
        state.cache.insert call.key session completed = .ok cache := by
  generalize event.at state.now = action at hmoves
  cases hmoves with
  | kept hstage hinsert => exact Or.inr ⟨_, _, hstage, hinsert⟩
  | found | missed | dispatched | refused => exact Or.inl rfl

/-- A session that is found live was dispatched less than a lifetime ago. -/
theorem foundLive (hsound : Sound settings history state) {key : SessionKey} {session : Session}
    (hlookup : state.cache.lookup key state.now = some session) (after : Calls) :
    FoundLive settings (history ++ [⟨state, .call place .look, after⟩]) place key session := by
  obtain ⟨entry, hfind, hlive, rfl⟩ := SessionCache.lookup_eq_some_iff.mp hlookup
  obtain ⟨dispatch, hmem, hkey, hsession, hexpires⟩ := hsound.dispatched key entry hfind
  exact ⟨history, _, [], rfl, rfl, dispatch, hmem, hkey, hsession,
    hsound.completed_le dispatch hmem, Nat.lt_of_lt_of_eq hlive hexpires.symm⟩

/-- What a call has done explains the stage it gets to. -/
theorem explained_next (hsound : Sound settings history state)
    (hcall : state.calls[place]? = some call)
    (hmoves : call.Moves state.cache (event.at state.now) next cache) (after : Calls)
    (hcache : after.cache = cache) :
    Explained settings (history ++ [⟨state, .call place event, after⟩]) place next := by
  -- the stage before the event is explained, and the event adds what is missing
  have hbefore := hsound.explained place call hcall
  unfold Explained at hbefore
  cases event with
  | look =>
      cases hmoves with
      | found hstage hlookup => exact Or.inr (hsound.foundLive hlookup after)
      | missed hstage hlookup =>
          rw [hstage] at hbefore
          exact hbefore.append fun _ => hcache
  | answer outcome =>
      cases hmoves with
      | @dispatched session now hstage =>
          rw [hstage] at hbefore
          -- the dispatch that explains the stage is the event itself
          refine ⟨⟨_, List.mem_append_right _ (List.mem_singleton_self _), rfl, ?_⟩,
            hbefore.append fun _ => hcache⟩
          simp [dispatch?, hcall, SessionCall.goTo]
      | refused hstage =>
          rw [hstage] at hbefore
          exact ⟨⟨_, List.mem_append_right _ (List.mem_singleton_self _), rfl⟩,
            hbefore.append fun _ => hcache⟩
  | keep =>
      cases hmoves with
      | kept hstage hinsert =>
          rw [hstage] at hbefore
          exact Or.inl ⟨_, hbefore.1.append _⟩

/-- A call goes on: what it finds is explained by the entries, and what it keeps by what was
dispatched to it. -/
theorem goOn (hsound : Sound settings history state)
    (hcall : state.calls[place]? = some call)
    (hmoves : call.Moves state.cache (event.at state.now) next cache) :
    Sound settings
      (history ++ [⟨state, .call place event,
        { state with cache, calls := state.calls.set place next }⟩])
      { state with cache, calls := state.calls.set place next } where
  settings_eq := by
    rcases cache_cases hmoves with rfl | ⟨session, completed, -, hinsert⟩
    · exact hsound.settings_eq
    · exact (SessionCache.insert_size_le hinsert).1.trans hsound.settings_eq
  size_le := by
    rcases cache_cases hmoves with rfl | ⟨session, completed, -, hinsert⟩
    · exact hsound.size_le
    · have hbound := (SessionCache.insert_size_le hinsert).2
      rw [hsound.settings_eq] at hbound
      exact Nat.le_trans hbound (Nat.max_le.mpr ⟨hsound.size_le, Nat.le_refl _⟩)
  dispatched := by
    intro key entry hfind
    rcases cache_cases hmoves with rfl | ⟨session, completed, hstage, hinsert⟩
    · exact hsound.dispatched_append _ hfind
    rcases SessionCache.find?_insert_cases hinsert hfind with hkept | ⟨rfl, rfl⟩
    · exact hsound.dispatched_append _ hkept
    · -- what the call keeps was dispatched to it, so the history has that dispatch
      have hexplained := hsound.explained place call hcall
      unfold Explained at hexplained
      rw [hstage] at hexplained
      obtain ⟨⟨moment, hmem, -, hdispatch⟩, -⟩ := hexplained
      refine ⟨{ key := call.key, session, completed }, ?_, rfl, rfl, by rw [hsound.settings_eq]⟩
      rw [dispatches_append]
      exact List.mem_append_left _ (List.mem_filterMap.mpr ⟨moment, hmem, hdispatch⟩)
  completed_le := hsound.completed_le_append (Nat.le_refl _)
  begun := by
    refine hsound.begun_append (by simp) fun other hconcerns => ?_
    obtain ⟨own, hown⟩ := hconcerns
    cases hown
    simpa using (List.getElem?_eq_some_iff.mp hcall).1
  explained := by
    intro other moved hmoved
    rcases Decidable.em (other = place) with rfl | hne
    · rw [List.getElem?_set_self (List.getElem?_eq_some_iff.mp hcall).1] at hmoved
      cases hmoved
      exact hsound.explained_next hcall hmoves _ rfl
    · rw [List.getElem?_set_ne (Ne.symm hne)] at hmoved
      refine (hsound.explained other moved hmoved).append fun hconcerns => hne ?_
      obtain ⟨own, hown⟩ := hconcerns
      cases hown
      rfl

theorem step {action : Action} {next : Calls} (hsound : Sound settings history state)
    (hstep : StepsOf Calls.step state action next) :
    Sound settings (history ++ [⟨state, action, next⟩]) next := by
  cases moves_of_step hstep with
  | waited ms => exact hsound.wait ms
  | began key => exact hsound.begin key
  | called hcall hmoves => exact hsound.goOn hcall hmoves

end Sound

variable {settings : SessionSettings} {now : Instant} {history : List Step} {state : Calls}

theorem sound_of_trace (htrace : Trace (StepsOf step) (start settings now) history state) :
    Sound settings history state := by
  induction htrace with
  | start => exact sound_start settings now
  | step htrace hstep ih => exact ih.step hstep

/-- The service's failure ends the call with the same error and changes no entry. -/
theorem failure_of_step {place : Nat} {error : Error} {next : Calls}
    (hstep : StepsOf step state (.call place (.answer (.error error))) next) :
    next.cache = state.cache ∧
      ∃ call, next.calls[place]? = some call ∧ call.stage = .failed error := by
  cases moves_of_step hstep with
  | called hcall hmoves =>
      cases hmoves with
      | refused hstage =>
          have hless := (List.getElem?_eq_some_iff.mp hcall).1
          exact ⟨rfl, _, List.getElem?_set_self hless, rfl⟩

/-- **Calls that overlap are served soundly.**  After any steps of any calls, the keys of the
cache are distinct and within the bound; every entry is a session that was dispatched for its
key, and ends a lifetime after that; every call is where its own dispatch, or an entry that it
found live, has brought it; and a failed dispatch is returned as it is and leaves the cache
alone. -/
theorem overlapping_calls_sound
    (htrace : Trace (StepsOf step) (start settings now) history state) :
    state.cache.entries.keys.Nodup ∧
      state.cache.size ≤ max 1 settings.capacity.toNat ∧
      (∀ key entry, state.cache.entries.find? key = some entry →
        ∃ dispatch ∈ dispatches history, dispatch.key = key ∧
          dispatch.session = entry.session ∧
          dispatch.completed + 1000 * settings.lifetime.toNat = entry.expiresAt) ∧
      (∀ place call, state.calls[place]? = some call →
        Explained settings history place call) ∧
      ∀ moment ∈ history, ∀ place error,
        moment.action = .call place (.answer (.error error)) →
        moment.after.cache = moment.before.cache ∧
          ∃ call, moment.after.calls[place]? = some call ∧ call.stage = .failed error := by
  have hsound := sound_of_trace htrace
  refine ⟨state.cache.entries.distinct, hsound.size_le, hsound.dispatched, hsound.explained, ?_⟩
  intro moment hmem place error haction
  have hstep := htrace.steps_of_mem hmem
  rw [haction] at hstep
  exact failure_of_step hstep

/-! ## The call of a request -/

/-- The stage of a call that has returned. -/
def ended : Except Error Session → SessionCall.Stage
  | .ok session => .returned session
  | .error error => .failed error

/-- A call that goes on alone. -/
theorem steps_alone {cache after : SessionCache} {call next : SessionCall} {now : Instant}
    (event : Event) (hmoves : call.Moves cache (event.at now) next after) :
    StepsOf step { cache, now, calls := [call] } (.call 0 event)
      { cache := after, now, calls := [next] } :=
  steps_of_moves (.called rfl hmoves)

/-- A request obtains its session by a call of this kind, with nothing else going on. -/
theorem trace_of_session {σ : Type} {backend : Backend σ} {state : State σ}
    {publicKey chain : String} {answer : Answer σ Session}
    (hanswer : Gateway.session backend state publicKey chain = .ok answer) :
    ∃ history,
      Trace (StepsOf step)
        { cache := state.sessions, now := state.now, calls := [{ key := { publicKey, chain } }] }
        history
        { cache := answer.state.sessions, now := answer.state.now,
          calls := [{ key := { publicKey, chain }, stage := ended answer.result }] } := by
  simp only [Gateway.session] at hanswer
  split at hanswer
  · next session hlookup =>
      cases hanswer
      exact ⟨_, Trace.start.step (steps_alone .look (.found rfl hlookup))⟩
  · next hlookup =>
      -- the lookup misses, the answer takes its time, and then it ends the call or is kept
      have hasked := Trace.start.step
        (steps_alone .look
          (@SessionCall.Moves.missed { key := { publicKey, chain } } _ _ rfl hlookup))
      have hwaited := hasked.step (steps_of_moves
        (.waited (backend.dispatch state.services publicKey chain).1.delay))
      split at hanswer
      · next error houtcome =>
          cases hanswer
          exact ⟨_, hwaited.step (steps_alone (.answer (.error error)) (.refused rfl))⟩
      · next session houtcome =>
          obtain ⟨sessions, hinsert, rfl⟩ := map_eq_ok_iff.mp hanswer
          have hdispatched :=
            hwaited.step (steps_alone (.answer (.ok session)) (.dispatched rfl))
          exact ⟨_, hdispatched.step (steps_alone .keep (.kept rfl hinsert))⟩

/-! ## Calls that overlap around an eviction -/

/-- The first two calls look and miss before either is answered.  The second one's session is
kept first and is dropped for the first one's; the third call finds the latter live, and the
fourth one finds it ended, and its dispatch fails. -/
def crossing : List Action :=
  [.begin ⟨"pub", "a"⟩, .begin ⟨"pub", "b"⟩, .call 0 .look, .call 1 .look,
    .call 0 (.answer (.ok { key := "on a" })), .wait 500,
    .call 1 (.answer (.ok { key := "on b" })), .call 1 .keep, .call 0 .keep,
    .begin ⟨"pub", "a"⟩, .wait 400, .call 2 .look, .wait 200, .begin ⟨"pub", "a"⟩, .call 3 .look,
    .call 3 (.answer (.error (.dispatchFailed "unreachable")))]

/-- The general statement at a cache for one session. -/
theorem overlapping_calls_sound_crossing :
    ∃ history state,
      Trace (StepsOf step) (start { lifetime := 1, capacity := 1 } 0) history state ∧
        state.calls.map SessionCall.stage =
          [.returned { key := "on a" }, .returned { key := "on b" }, .returned { key := "on a" },
            .failed (.dispatchFailed "unreachable")] ∧
        state.cache.size = 1 ∧
        ∀ place call, state.calls[place]? = some call →
          Explained { lifetime := 1, capacity := 1 } history place call := by
  have hends : (takeAll (unlessFault step) (start { lifetime := 1, capacity := 1 } 0) crossing).map
      (fun taken => (taken.2.calls.map SessionCall.stage, taken.2.cache.size)) =
        some ([.returned { key := "on a" }, .returned { key := "on b" },
          .returned { key := "on a" }, .failed (.dispatchFailed "unreachable")], 1) := by
    decide
  obtain ⟨⟨history, state⟩, htaken, hends⟩ := Option.map_eq_some_iff.mp hends
  obtain ⟨hstages, hsize⟩ := Prod.mk.inj hends
  have htrace := (Trace.of_takeAll htaken).mono Possible.stepsOf
  obtain ⟨-, -, -, hexplained, -⟩ := overlapping_calls_sound htrace
  exact ⟨history, state, htrace, hstages, hsize, hexplained⟩

end Calls

end ChainGateway
