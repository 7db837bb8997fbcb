import ChainGateway.Error
import ChainGateway.SessionCache

/-!
# Calls for a session

A call for a session looks into the cache.  If there is no live session, one is asked for from
the dispatch service, and what the service returns is kept before the call returns it.  The
cache is held only while it is looked into and while a session is put there, so other calls may
change it while a session is being dispatched.  The steps of a call are therefore separate here,
and between any two of them anything may happen to the cache.
-/

namespace ChainGateway

/-- How far a call for a session is. -/
inductive SessionCall.Stage where
  /-- It has not looked into the cache. -/
  | begun
  /-- The cache held no live session, and one has been asked for. -/
  | dispatching
  /-- The service returned a session at the instant, and it is to be kept. -/
  | dispatched (session : Session) (completed : Instant)
  | returned (session : Session)
  | failed (error : Error)
  deriving DecidableEq, Repr

/-- A call for the session under a key. -/
structure SessionCall where
  key : SessionKey
  stage : SessionCall.Stage := .begun
  deriving DecidableEq, Repr

namespace SessionCall

/-- What a call does, or what is answered to it. -/
inductive Action where
  | look (now : Instant)
  | answer (outcome : Except Error Session) (now : Instant)
  | keep

def goTo (call : SessionCall) (stage : Stage) : SessionCall := { call with stage }

/-- Is the call at a point where it can be given up? -/
def isPending (call : SessionCall) : Bool :=
  match call.stage with
  | .begun | .dispatching => true
  | .dispatched _ _ | .returned _ | .failed _ => false

/-- The call and the cache after an action, if the action is possible. -/
def step (call : SessionCall) (cache : SessionCache) :
    Action → Except Fault (Option (SessionCall × SessionCache))
  | .look now =>
      match call.stage with
      | .begun =>
          match cache.lookup call.key now with
          | some session => .ok (some (call.goTo (.returned session), cache))
          | none => .ok (some (call.goTo .dispatching, cache))
      | _ => .ok none
  | .answer outcome now =>
      match call.stage, outcome with
      | .dispatching, .ok session => .ok (some (call.goTo (.dispatched session now), cache))
      | .dispatching, .error error => .ok (some (call.goTo (.failed error), cache))
      | _, _ => .ok none
  | .keep =>
      match call.stage with
      | .dispatched session completed =>
          (cache.insert call.key session completed).map fun cache =>
            some (call.goTo (.returned session), cache)
      | _ => .ok none

/-- What is left of the cache when the call breaks down: it has made room for the session that it
was about to keep. -/
def wreckage (call : SessionCall) (cache : SessionCache) : SessionCache :=
  match call.stage with
  | .dispatched _ completed => { cache with entries := cache.roomFor call.key completed }
  | _ => cache

/-! ## What a step can be -/

/-- The steps of a call: the call and the cache after each action that is possible. -/
inductive Moves (call : SessionCall) (cache : SessionCache) :
    Action → SessionCall → SessionCache → Prop
  | found {session : Session} {now : Instant} (hstage : call.stage = .begun)
      (hlookup : cache.lookup call.key now = some session) :
      Moves call cache (.look now) (call.goTo (.returned session)) cache
  | missed {now : Instant} (hstage : call.stage = .begun)
      (hlookup : cache.lookup call.key now = none) :
      Moves call cache (.look now) (call.goTo .dispatching) cache
  | dispatched {session : Session} {now : Instant} (hstage : call.stage = .dispatching) :
      Moves call cache (.answer (.ok session) now) (call.goTo (.dispatched session now)) cache
  | refused {error : Error} {now : Instant} (hstage : call.stage = .dispatching) :
      Moves call cache (.answer (.error error) now) (call.goTo (.failed error)) cache
  | kept {session : Session} {completed : Instant} {after : SessionCache}
      (hstage : call.stage = .dispatched session completed)
      (hinsert : cache.insert call.key session completed = .ok after) :
      Moves call cache .keep (call.goTo (.returned session)) after

theorem step_eq_ok_iff {call next : SessionCall} {cache after : SessionCache} {action : Action} :
    call.step cache action = .ok (some (next, after)) ↔ Moves call cache action next after := by
  constructor
  · intro hstep
    cases action with
    | look now =>
        simp only [step] at hstep
        split at hstep
        · next hstage =>
            split at hstep <;> cases hstep
            · next hlookup => exact .found hstage hlookup
            · next hlookup => exact .missed hstage hlookup
        · cases hstep
    | answer outcome now =>
        simp only [step] at hstep
        split at hstep <;> cases hstep
        · next hstage => exact .dispatched hstage
        · next hstage => exact .refused hstage
    | keep =>
        simp only [step] at hstep
        split at hstep
        · next session completed hstage =>
            cases hinsert : cache.insert call.key session completed <;> rw [hinsert] at hstep <;>
              cases hstep
            exact .kept hstage hinsert
        · cases hstep
  · intro hmoves
    cases hmoves with
    | found hstage hlookup => simp [step, hstage, hlookup]
    | missed hstage hlookup => simp [step, hstage, hlookup]
    | dispatched hstage => simp [step, hstage]
    | refused hstage => simp [step, hstage]
    | kept hstage hinsert => simp [step, hstage, hinsert, Except.map]

/-- A call breaks down only as it keeps a session that outlives the clock. -/
theorem step_eq_error_iff {call : SessionCall} {cache : SessionCache} {action : Action}
    {fault : Fault} :
    call.step cache action = .error fault ↔
      action = .keep ∧ ∃ session completed, call.stage = .dispatched session completed ∧
        cache.insert call.key session completed = .error fault := by
  cases action with
  | look now =>
      -- looking and answering never break down
      refine iff_of_false ?_ nofun
      simp only [step]
      split
      · split <;> nofun
      · nofun
  | answer outcome now =>
      refine iff_of_false ?_ nofun
      simp only [step]
      split <;> nofun
  | keep =>
      rw [and_iff_right rfl]
      constructor
      · intro hfault
        simp only [step] at hfault
        split at hfault
        · next session completed hstage =>
            refine ⟨session, completed, hstage, ?_⟩
            cases hinsert : cache.insert call.key session completed <;> rw [hinsert] at hfault <;>
              cases hfault
            rfl
        · cases hfault
      · rintro ⟨session, completed, hstage, hinsert⟩
        simp [step, hstage, hinsert, Except.map]

end SessionCall

end ChainGateway
