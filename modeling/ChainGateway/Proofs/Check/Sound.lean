import ChainGateway.Check.Rank
import ChainGateway.Proofs.Trace

/-!
# What holds in every state of a check

Probes hold permits that are neither lost nor made: those held and those free are as many as
there were at the start.  A probe whose relay is on the way holds one, and a probe that knows
what to report holds none.  On each channel there are as many senders left as there are tasks
that have not ended, and there is room for a message from each of them.

## Strategy

Each level has its own statement about its steps (`Probe.Moves.permits`, `Probing.permits_step`,
`ChainTask.Moves.permits`) and its own invariant (`Probe.Sound`, `Probing.Sound`,
`ChainTask.Sound`), by cases on the steps of that level.  `State.Sound` puts them together for all
tasks, and `State.Sound.after` is all that induction needs.
-/

namespace ChainGateway.Check

/-! ## Sums over lists -/

section Total

variable {α : Type} {count other : α → Nat} {items : List α}

theorem total_le_total (hle : ∀ item ∈ items, count item ≤ other item) :
    total count items ≤ total other items := by
  induction items with
  | nil => exact Nat.le_refl _
  | cons item items ih =>
      rw [total_cons, total_cons]
      exact Nat.add_le_add (hle item List.mem_cons_self)
        (ih fun later hlater => hle later (List.mem_cons_of_mem _ hlater))

theorem total_eq_zero_iff : total count items = 0 ↔ ∀ item ∈ items, count item = 0 := by
  induction items with
  | nil => simp
  | cons item items ih => simp [ih]

theorem exists_of_total_ne_zero (htotal : total count items ≠ 0) :
    ∃ item ∈ items, count item ≠ 0 := by
  refine Decidable.byContradiction fun hnone => htotal (total_eq_zero_iff.mpr ?_)
  intro item hmem
  exact Decidable.byContradiction fun hne => hnone ⟨item, hmem, hne⟩

theorem le_total (count : α → Nat) {item : α} (hmem : item ∈ items) :
    count item ≤ total count items := by
  induction items with
  | nil => simp at hmem
  | cons first rest ih =>
      rw [total_cons]
      rcases List.mem_cons.mp hmem with rfl | hrest
      · exact Nat.le_add_right _ _
      · exact Nat.le_trans (ih hrest) (Nat.le_add_left _ _)

theorem countP_eq_total (test : α → Bool) (items : List α) :
    items.countP test = total (fun item => if test item then 1 else 0) items := by
  induction items with
  | nil => rfl
  | cons item items ih => rw [List.countP_cons, ih, total_cons, Nat.add_comm]

theorem total_map {β : Type} (change : β → α) (items : List β) :
    total count (items.map change) = total (fun item => count (change item)) items := by
  induction items with
  | nil => rfl
  | cons item items ih => rw [List.map_cons, total_cons, total_cons, ih]

theorem total_const (items : List α) : total (fun _ => 1) items = items.length := by
  induction items with
  | nil => rfl
  | cons item items ih => rw [total_cons, ih, List.length_cons, Nat.add_comm]

/-- Replacing an item by one with the same image leaves the images as they are. -/
theorem map_set_of_eq {β : Type} {image : α → β} {place : Nat} {item replaced : α}
    (hitem : items[place]? = some replaced) (himage : image item = image replaced) :
    (items.set place item).map image = items.map image := by
  have hless := (List.getElem?_eq_some_iff.mp hitem).1
  have hsame : items[place] = replaced := (List.getElem?_eq_some_iff.mp hitem).2
  rw [List.map_set, himage, ← hsame, ← List.getElem_map image (h := by simpa using hless),
    List.set_getElem_self]

end Total

/-! ## Channels -/

namespace Channel

variable {α : Type} {channel after : Channel α} {senders : Nat} {message : α}

/-- So many senders are left, and there is room for a message from each of them. -/
structure Sound (channel : Channel α) (senders : Nat) : Prop where
  senders_eq : channel.senders = senders
  room : channel.queue.length + senders ≤ channel.capacity

theorem sound_ofSenders (senders : Nat) : (ofSenders senders : Channel α).Sound senders where
  senders_eq := rfl
  room := by
    simp only [ofSenders, List.length_nil]
    omega

theorem Sound.send? (hsound : channel.Sound (senders + 1))
    (hsend : channel.send? message = some after) : after.Sound senders := by
  obtain ⟨hroom, hafter⟩ := Option.ite_none_right_eq_some.mp hsend
  cases hafter
  refine ⟨by simp [leave, hsound.senders_eq], ?_⟩
  have := hsound.room
  -- one message more, and one sender fewer
  simp only [leave, List.length_append, List.length_singleton]
  omega

theorem Sound.leave (hsound : channel.Sound (senders + 1)) : channel.leave.Sound senders where
  senders_eq := by simp [Channel.leave, hsound.senders_eq]
  room := Nat.le_trans (Nat.le_succ _) hsound.room

theorem Sound.receive? (hsound : channel.Sound senders)
    (hreceive : channel.receive? = some (message, after)) : after.Sound senders := by
  unfold Channel.receive? at hreceive
  split at hreceive
  · cases hreceive
  · next hqueue =>
      cases hreceive
      refine ⟨hsound.senders_eq, ?_⟩
      have := hsound.room
      rw [hqueue, List.length_cons] at this
      simp only
      omega

/-- A sender that is left can send. -/
theorem Sound.exists_send? (hsound : channel.Sound (senders + 1)) (message : α) :
    ∃ after, channel.send? message = some after := by
  have := hsound.room
  refine ⟨_, if_pos ?_⟩
  omega

/-- What has been sent can be received. -/
theorem exists_receive? (hqueue : channel.queue ≠ []) :
    ∃ message after, channel.receive? = some (message, after) := by
  obtain ⟨message, queue, hcons⟩ := List.exists_cons_of_ne_nil hqueue
  exact ⟨message, _, by rw [receive?, hcons]⟩

theorem isClosed_iff : channel.isClosed = true ↔ channel.senders = 0 ∧ channel.queue = [] := by
  simp [isClosed]

end Channel

/-! ## Probes -/

/-- One for a probe that has not reported. -/
def Probe.running (probe : Probe) : Nat :=
  match probe.stage with
  | .ended => 0
  | _ => 1

/-- A probe holds a permit while its relay is on the way, and none once it knows what to
report. -/
def Probe.Sound (probe : Probe) : Prop :=
  match probe.stage with
  | .waiting => True
  | .relaying => probe.permit = true
  | .judged _ | .ended => probe.permit = false

namespace Probe.Moves

variable {chain : Blockchain} {cancelled : Bool} {probe next : Probe}
  {commons after : ProbeCommons} {action : ProbeAction}

theorem sound (hmoves : probe.Moves chain cancelled commons action next after)
    (hsound : probe.Sound) : next.Sound := by
  unfold Probe.Sound at hsound
  cases hmoves with
  | granted hstage hpermit hfree => simp [Probe.Sound, hstage]
  | launched hstage hpermit hcancelled => exact hpermit
  | answered outcome hstage hcancelled => rfl
  | dropped hstage hcancelled => rfl
  | reported hstage hsend =>
      rw [hstage] at hsound
      exact hsound

theorem relay_eq (hmoves : probe.Moves chain cancelled commons action next after) :
    next.relay = probe.relay := by
  cases hmoves <;> rfl

theorem node_eq (hmoves : probe.Moves chain cancelled commons action next after) :
    next.node = probe.node := by
  rw [Probe.node, Probe.node, hmoves.relay_eq]

/-- A permit that the probe gets was free, and one that it gives back is. -/
theorem permits (hmoves : probe.Moves chain cancelled commons action next after) :
    next.permits + after.free = probe.permits + commons.free := by
  cases hmoves with
  | granted hstage hpermit hfree =>
      simp only [Probe.permits, hpermit]
      simp only [if_true, Bool.false_eq_true, if_false]
      omega
  | launched hstage hpermit hcancelled => rfl
  | answered outcome hstage hcancelled =>
      simp only [Probe.permits, Bool.false_eq_true, if_false]
      omega
  | dropped hstage hcancelled =>
      simp only [Probe.permits, Bool.false_eq_true, if_false]
      omega
  | reported hstage hsend => rfl

theorem reports (hmoves : probe.Moves chain cancelled commons action next after) :
    after.reports = commons.reports ∧ next.running = probe.running ∨
      ∃ supporting?, commons.reports.send? supporting? = some after.reports ∧
        probe.running = 1 ∧ next.running = 0 := by
  cases hmoves with
  | granted hstage hpermit hfree => exact Or.inl ⟨rfl, rfl⟩
  | launched hstage hpermit hcancelled => exact Or.inl ⟨rfl, by simp [Probe.running, hstage]⟩
  | answered outcome hstage hcancelled =>
      exact Or.inl ⟨rfl, by simp [Probe.running, hstage]⟩
  | dropped hstage hcancelled =>
      refine Or.inl ⟨rfl, ?_⟩
      rcases hstage with hstage | hstage <;> simp [Probe.running, hstage]
  | reported hstage hsend => exact Or.inr ⟨_, hsend, by simp [Probe.running, hstage], rfl⟩

end Probe.Moves

/-! ## The probes of a session -/

def Probing.permits (probing : Probing) : Nat := total Probe.permits probing.probes

/-- What holds of the probes of a session. -/
structure Probing.Sound (probing : Probing) : Prop where
  probes : ∀ probe ∈ probing.probes, probe.Sound
  nodes : probing.probes.map Probe.node = probing.session.nodes
  reports : probing.reports.Sound (total Probe.running probing.probes)

namespace Probing

variable {chain : Blockchain} {cancelled : Bool} {probing next : Probing} {free after : Nat}
  {place : Nat} {action : ProbeAction}

theorem sound_ofSession (token : Token) (chain : Blockchain) (session : Session) :
    (ofSession token chain session).Sound where
  probes := by simp [ofSession, Probe.Sound]
  nodes := by simp [ofSession, Function.comp_def, Probe.node, probeRelay]
  reports := by
    have hrunning : total Probe.running (ofSession token chain session).probes =
        session.nodes.length := by
      simp only [ofSession, total_map]
      exact total_const _
    rw [hrunning]
    exact Channel.sound_ofSenders _

theorem permits_ofSession (token : Token) (chain : Blockchain) (session : Session) :
    (ofSession token chain session).permits = 0 := by
  simp [permits, ofSession, total_eq_zero_iff, Probe.permits]

theorem permits_step (hstep : probing.step chain cancelled free place action =
    some (next, after)) : next.permits + after = probing.permits + free := by
  obtain ⟨probe, moved, reports, hprobe, hmoves, rfl⟩ := step_eq_some_iff.mp hstep
  have hpermits := hmoves.permits
  have htotal := total_set Probe.permits hprobe moved
  simp only [permits] at hpermits ⊢
  omega

namespace Sound

theorem step (hsound : probing.Sound)
    (hstep : probing.step chain cancelled free place action = some (next, after)) :
    next.Sound := by
  obtain ⟨probe, moved, reports, hprobe, hmoves, rfl⟩ := step_eq_some_iff.mp hstep
  have htotal := total_set Probe.running hprobe moved
  refine ⟨?_, ?_, ?_⟩
  · intro other hother
    rcases List.mem_or_eq_of_mem_set hother with hmem | rfl
    · exact hsound.probes other hmem
    · exact hmoves.sound (hsound.probes probe (List.mem_of_getElem? hprobe))
  · exact (map_set_of_eq hprobe hmoves.node_eq).trans hsound.nodes
  · -- the probe has not reported with this step, or it reports and is one sender fewer
    rcases hmoves.reports with ⟨hreports, hrunning⟩ | ⟨supporting?, hsend, hbefore, hafter⟩
    · have hsame : total Probe.running (probing.probes.set place moved) =
          total Probe.running probing.probes := by omega
      simp only at hreports ⊢
      rw [hsame, hreports]
      exact hsound.reports
    · have hless : total Probe.running probing.probes =
          total Probe.running (probing.probes.set place moved) + 1 := by omega
      have hreports := hsound.reports
      rw [hless] at hreports
      exact hreports.send? hsend

theorem receive? (hsound : probing.Sound) (hreceive : probing.receive? = some next) :
    next.Sound := by
  obtain ⟨⟨supporting?, reports⟩, hmessage, rfl⟩ := Option.map_eq_some_iff.mp hreceive
  exact ⟨hsound.probes, hsound.nodes, hsound.reports.receive? hmessage⟩

/-- When all reports have been taken in, every probe has ended and holds no permit. -/
theorem of_isClosed (hsound : probing.Sound) (hclosed : probing.reports.isClosed = true) :
    ∀ probe ∈ probing.probes, probe.stage = .ended ∧ probe.permits = 0 := by
  have hnone := (Channel.isClosed_iff.mp hclosed).1
  rw [hsound.reports.senders_eq, total_eq_zero_iff] at hnone
  intro probe hmem
  -- no sender is left, so no probe is running
  have hended : probe.stage = .ended := by
    have hrunning := hnone probe hmem
    unfold Probe.running at hrunning
    split at hrunning
    · assumption
    · cases hrunning
  have hpermit := hsound.probes probe hmem
  rw [Probe.Sound, hended] at hpermit
  exact ⟨hended, by simp [Probe.permits, hpermit]⟩

end Sound

/-- Relays on the way are backed by permits. -/
theorem inFlight_le_permits (hsound : probing.Sound) : probing.inFlight ≤ probing.permits := by
  rw [inFlight, countP_eq_total]
  refine total_le_total fun probe hmem => ?_
  have hprobe := hsound.probes probe hmem
  unfold Probe.Sound at hprobe
  split
  · next hrelaying =>
      rw [of_decide_eq_true hrelaying] at hprobe
      simp [Probe.permits, hprobe]
  · exact Nat.zero_le _

end Probing

/-! ## Tasks -/

/-- One for a task that has not ended. -/
def ChainTask.running (task : ChainTask) : Nat :=
  match task.stage with
  | .ended => 0
  | _ => 1

def ChainTask.permits (task : ChainTask) : Nat :=
  match task.stage with
  | .probing probing => probing.permits
  | _ => 0

def ChainTask.probe? (task : ChainTask) (position : Nat) : Option Probe :=
  match task.stage with
  | .probing probing => probing.probes[position]?
  | _ => none

/-- A task that still calls for its session has neither got one nor an error, and the probes of a
session are sound. -/
def ChainTask.Sound (task : ChainTask) : Prop :=
  match task.stage with
  | .retrieving call =>
      (∀ session, call.stage ≠ .returned session) ∧ ∀ error, call.stage ≠ .failed error
  | .probing probing => probing.Sound
  | .probed _ _ | .ended => True

theorem ChainTask.inFlight_le_permits {task : ChainTask} (hsound : task.Sound) :
    task.inFlight ≤ task.permits := by
  unfold Sound at hsound
  unfold inFlight permits
  split
  · next hstage =>
      simp only [hstage] at hsound ⊢
      exact Probing.inFlight_le_permits hsound
  · exact Nat.zero_le _

namespace ChainTask.Moves

variable {cancelled : Bool} {task next : ChainTask} {commons after : TaskCommons}
  {action : TaskAction}

theorem sound (hmoves : task.Moves cancelled commons action next after)
    (hsound : task.Sound) : next.Sound := by
  unfold ChainTask.Sound at hsound
  cases hmoves with
  | called hstage hwaits hcall hreturned hfailed => exact ⟨hreturned, hfailed⟩
  | obtained hstage hwaits hcall hreturned => exact Probing.sound_ofSession _ _ _
  | probed hstage hprobe =>
      rw [hstage] at hsound
      exact Probing.Sound.step hsound hprobe
  | received hstage hreceive =>
      rw [hstage] at hsound
      exact Probing.Sound.receive? hsound hreceive
  | unobtained | crashed | abandoned | concluded | delivered => exact True.intro

theorem permits (hmoves : task.Moves cancelled commons action next after)
    (hsound : task.Sound) : next.permits + after.free = task.permits + commons.free := by
  unfold ChainTask.Sound at hsound
  cases hmoves with
  | obtained hstage hwaits hcall hreturned =>
      simp [ChainTask.permits, ChainTask.startProbes, ChainTask.goTo, hstage,
        Probing.permits_ofSession]
  | probed hstage hprobe =>
      simpa [ChainTask.permits, ChainTask.goTo, hstage] using Probing.permits_step hprobe
  | received hstage hreceive =>
      obtain ⟨⟨supporting?, reports⟩, -, rfl⟩ := Option.map_eq_some_iff.mp hreceive
      simp [ChainTask.permits, ChainTask.goTo, hstage, Probing.permits]
  | @concluded probing hstage hclosed =>
      rw [hstage] at hsound
      have hnone : probing.permits = 0 := total_eq_zero_iff.mpr fun probe hmem =>
        (Probing.Sound.of_isClosed hsound hclosed probe hmem).2
      simp [ChainTask.permits, ChainTask.goTo, hstage, hnone]
  | called hstage | unobtained hstage | crashed hstage | abandoned hstage | delivered hstage =>
      simp [ChainTask.permits, ChainTask.goTo, hstage]

/-- A task leaves the deliveries when it ends, and only then. -/
theorem deliveries {others : Nat} (hmoves : task.Moves cancelled commons action next after)
    (hdeliveries : commons.deliveries.Sound (others + task.running)) :
    after.deliveries.Sound (others + next.running) := by
  cases hmoves with
  | called hstage | obtained hstage | probed hstage | received hstage | concluded hstage =>
      simpa [ChainTask.running, ChainTask.startProbes, ChainTask.goTo, hstage] using hdeliveries
  | unobtained hstage | crashed hstage | abandoned hstage =>
      rw [ChainTask.running, hstage] at hdeliveries
      exact hdeliveries.leave
  | delivered hstage hsend =>
      rw [ChainTask.running, hstage] at hdeliveries
      exact hdeliveries.send? hsend

end ChainTask.Moves

/-! ## The check -/

/-- The permits that the probes of all tasks hold. -/
def State.permits (state : State) : Nat := total ChainTask.permits state.tasks

/-- The probe at a position of the task at a place. -/
def State.probe? (state : State) (place position : Nat) : Option Probe :=
  state.tasks[place]?.bind fun task => task.probe? position

/-- What holds in every state of a check with so many permits. -/
structure State.Sound (permits : Nat) (state : State) : Prop where
  tasks : ∀ task ∈ state.tasks, task.Sound
  permits_eq : state.permits + state.commons.free = permits
  deliveries : state.commons.deliveries.Sound (total ChainTask.running state.tasks)

namespace State

variable {permits : Nat} {state next : State} {action : Action}

theorem Moves.cancelled_eq (hmoves : state.Moves action next) (hother : action ≠ .cancel) :
    next.cancelled = state.cancelled := by
  cases hmoves with
  | cancelled => exact absurd rfl hother
  | task | collected => rfl

/-- A cancellation is for ever. -/
theorem Moves.cancelled_eq_false (hmoves : state.Moves action next)
    (hcancelled : next.cancelled = false) : state.cancelled = false := by
  cases hmoves with
  | cancelled hnot => exact hnot
  | task htask hmoves => exact hcancelled
  | collected hreceive => exact hcancelled

theorem sound_initial (token : Token) (chains : List Blockchain) (permits : Nat)
    (sessions : SessionCache) : (initial token chains permits sessions).Sound permits where
  tasks := by simp [initial, ChainTask.ofChain, ChainTask.Sound]
  permits_eq := by
    have hnone : (initial token chains permits sessions).permits = 0 := by
      simp [State.permits, initial, ChainTask.ofChain, ChainTask.permits, total_eq_zero_iff]
    rw [hnone, Nat.zero_add]
    rfl
  deliveries := by
    have hrunning :
        total ChainTask.running (initial token chains permits sessions).tasks = chains.length := by
      simp only [initial, total_map]
      exact total_const _
    rw [hrunning]
    exact Channel.sound_ofSenders _

namespace Sound

/-- Every step keeps what holds at the start. -/
theorem after (hsound : state.Sound permits) (hmoves : state.Moves action next) :
    next.Sound permits := by
  cases hmoves with
  | cancelled hcancelled => exact ⟨hsound.tasks, hsound.permits_eq, hsound.deliveries⟩
  | @task place task moved commons action htask hmoves =>
      have htaskSound := hsound.tasks task (List.mem_of_getElem? htask)
      refine ⟨?_, ?_, ?_⟩
      · intro other hother
        rcases List.mem_or_eq_of_mem_set hother with hmem | rfl
        · exact hsound.tasks other hmem
        · exact hmoves.sound htaskSound
      · -- what the task takes is missing among the free permits, and what it gives back is there
        have hpermits := hmoves.permits htaskSound
        have htotal := total_set ChainTask.permits htask moved
        have hbefore := hsound.permits_eq
        simp only [State.permits] at hbefore ⊢
        omega
      · have htotal := total_set ChainTask.running htask moved
        -- the other tasks are as many senders as before
        obtain ⟨others, hothers⟩ := Nat.exists_eq_add_of_le
          (le_total ChainTask.running (List.mem_of_getElem? htask))
        have hdeliveries := hsound.deliveries
        rw [hothers, Nat.add_comm] at hdeliveries
        have hafter := hmoves.deliveries hdeliveries
        have hsame : others + moved.running =
            total ChainTask.running (state.tasks.set place moved) := by omega
        rwa [hsame] at hafter
  | collected hreceive =>
      exact ⟨hsound.tasks, hsound.permits_eq, hsound.deliveries.receive? hreceive⟩

theorem of_trace {start : State} {history : List (Moment State Action)}
    (hstart : start.Sound permits)
    (htrace : Trace (Possible step) start history state) : state.Sound permits :=
  htrace.invariant hstart fun hsound hstep => hsound.after (step_eq_some_iff.mp hstep)

/-- No more relays are on the way than there are permits. -/
theorem inFlight_le (hsound : state.Sound permits) : state.inFlight ≤ permits := by
  have hle : state.inFlight ≤ state.permits :=
    total_le_total fun task hmem => ChainTask.inFlight_le_permits (hsound.tasks task hmem)
  have := hsound.permits_eq
  omega

/-- When a check has returned, every task has ended and all deliveries are collected. -/
theorem of_isOver (hsound : state.Sound permits) (hover : state.isOver = true) :
    (∀ task ∈ state.tasks, task.stage = .ended) ∧ state.commons.deliveries.queue = [] := by
  obtain ⟨hnone, hqueue⟩ := Channel.isClosed_iff.mp hover
  rw [hsound.deliveries.senders_eq, total_eq_zero_iff] at hnone
  refine ⟨fun task hmem => ?_, hqueue⟩
  have hrunning := hnone task hmem
  unfold ChainTask.running at hrunning
  split at hrunning
  · assumption
  · cases hrunning

/-- When a check has returned, all permits are free. -/
theorem free_eq_of_isOver (hsound : state.Sound permits) (hover : state.isOver = true) :
    state.commons.free = permits := by
  have hnone : state.permits = 0 := total_eq_zero_iff.mpr fun task hmem => by
    rw [ChainTask.permits, (hsound.of_isOver hover).1 task hmem]
  have := hsound.permits_eq
  omega

end Sound

end State

end ChainGateway.Check
