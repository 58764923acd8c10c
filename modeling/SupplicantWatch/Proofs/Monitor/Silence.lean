import Mathlib.Tactic.Common
import SupplicantWatch.Proofs.Monitor.SingleReader

/-!
# Silence after everything was stopped

Stopping everything gives the connection up and switches the monitoring of every interface off. From
then on, until somebody starts or stops an interface or switches its monitoring on, nothing that
callers, readers and lines do reaches a handler, and a reader that is still there receives one more
line at most. Main statement: `silent_after_stopAll`.
-/

namespace SupplicantWatch

/-- Whether a section leaves the monitoring of interfaces switched off. Stopping an interface does
not: its handlers are told with the monitoring switched on. -/
def Action.keepsQuiet {η : Type} : Action η → Bool
  | start _ | startCrash _ | stop _ => false
  | setMonitoring _ enabled => !enabled
  | _ => true

/-- Whether the wait of a reader ends in a section, by a line or by a crash. -/
def Action.endsWait {η : Type} : Action η → Bool
  | receive .. | crash _ => true
  | _ => false

/-- Whether a reader will wait for a line before it looks again whether one is wanted. -/
def Reader.mayReceive {κ : Type} : Reader κ → Bool
  | ready | waiting _ => true
  | _ => false

namespace Registry

variable {η : Type} {r : Registry η}

/-- While no interface is monitored an event is given to nobody. -/
lemma dispatch_eq_nil (h : ∀ i, r.isMonitoring i = false) (target : Option String)
    (event : Event) : r.dispatch target event = [] := by
  have hnone : r.dispatch none event = [] := by
    have hm : r.monitored = [] := by
      apply List.eq_nil_iff_forall_not_mem.2
      intro i hi
      rw [mem_monitored, h i] at hi
      cases hi
    rw [dispatch_none, hm, List.flatMap_nil]
  cases target with
  | none => exact hnone
  | some i =>
    cases hr : r.isRegistered i with
    | false => rw [dispatch_of_not_isRegistered hr, hnone]
    | true =>
      rw [dispatch_of_isRegistered hr, h i]
      rfl

end Registry

namespace Monitor

variable {η σ κ : Type} {t : Transport σ κ} {m m' : Monitor η σ κ}

/-- The connection is given up and no interface is monitored. -/
structure Silent (m : Monitor η σ κ) : Prop where
  disconnected : m.connected = false
  unmonitored : ∀ i, m.registry.isMonitoring i = false

namespace Silent

lemma stopAll (m : Monitor η σ κ) : Silent m.stopAll where
  disconnected := rfl
  unmonitored := Registry.isMonitoring_clearMonitoring m.registry

lemma deliveries_eq_nil (h : Silent m) (classified : Classified) :
    m.deliveries classified = [] := by
  unfold deliveries
  cases classified.event with
  | none => rfl
  | some event => exact Registry.dispatch_eq_nil h.unmonitored classified.interface event

/-- What is not about the connection and the monitoring leaves the monitor silent. -/
lemma congr (h : Silent m) (hc : m'.connected = m.connected)
    (hr : m'.registry.monitoring = m.registry.monitoring) : Silent m' := by
  constructor
  · exact hc.trans h.disconnected
  · intro i
    have hi := h.unmonitored i
    rw [Registry.isMonitoring] at hi ⊢
    rw [hr]
    exact hi

/-- A section that keeps quiet makes no call and leaves the monitor silent. -/
lemma of_transition (h : Silent m) {action : Action η} {calls : List (Call η)}
    (hq : action.keepsQuiet = true) (ht : Transition t m action calls m') :
    calls = [] ∧ Silent m' := by
  cases ht with
  | startConnected | startReached | startFailed | startCrash | stop => cases hq
  | stopAll => exact ⟨rfl, .stopAll m⟩
  | setMonitoring interface enabled =>
    refine ⟨rfl, h.disconnected, ?_⟩
    intro i
    have he : enabled = false := by simpa [Action.keepsQuiet] using hq
    rw [setMonitoring, Registry.isMonitoring_setMonitoring, he, h.unmonitored i, ite_self]
  | broadcast interface event =>
    exact ⟨Registry.dispatch_eq_nil h.unmonitored interface event, h⟩
  | processGoOn | handleGoOn => exact ⟨h.deliveries_eq_nil _, h.congr rfl rfl⟩
  | processTerminate | handleTerminate =>
    exact ⟨h.deliveries_eq_nil _, rfl, (h.congr rfl rfl : Silent m).unmonitored⟩
  | checkOn hr hc =>
    -- Without a connection no reader goes on.
    rw [h.disconnected] at hc
    cases hc
  | receive line =>
    refine ⟨rfl, h.congr (connected_receive m _ _ line) ?_⟩
    rw [registry_receive]
  | giveUp =>
    exact ⟨Registry.dispatch_eq_nil h.unmonitored none .supplicantDisconnection, rfl,
      h.unmonitored⟩
  | _ => exact ⟨rfl, h.congr rfl rfl⟩

end Silent

/-- The number of lines that readers may yet receive without looking whether they are wanted. -/
def receiptsLeft (m : Monitor η σ κ) : Nat :=
  m.readers.countP Reader.mayReceive

lemma receiptsLeft_endReader_le (m : Monitor η σ κ) (i : Nat) :
    (m.endReader i).receiptsLeft ≤ m.receiptsLeft :=
  (m.readers.eraseIdx_sublist i).countP_le

/-- Without a connection a wait that ends uses up one of the lines that may yet be received, and no
section adds to them. -/
lemma receiptsLeft_of_transition (hs : SingleReader m) (hc : m.connected = false)
    {action : Action η} {calls : List (Call η)} (ht : Transition t m action calls m') :
    (if action.endsWait then 1 else 0) + m'.receiptsLeft ≤ m.receiptsLeft := by
  cases ht with
  | startReached interface transport =>
    have hl : ((m.onConnected transport).setMonitoring interface true).receiptsLeft
        = m.receiptsLeft := by
      unfold receiptsLeft setMonitoring onConnected
      dsimp only
      split
      · rfl
      · -- A reader that starts looks first whether it is wanted.
        simp [Reader.mayReceive]
    rw [hl]
    exact Nat.le_of_eq (Nat.zero_add _)
  | checkOn hr hon =>
    rw [hc] at hon
    cases hon
  | receive line hr =>
    -- There is one reader, so the line that it receives is the one that was left.
    obtain ⟨hm, rfl⟩ := hs.readers_eq hr
    simp [receiptsLeft, hm, Reader.mayReceive, Action.endsWait]
  | await hr | crash hr | handleGoOn hr | handleCrash _ hr =>
    obtain ⟨hm, rfl⟩ := hs.readers_eq hr
    simp [receiptsLeft, Monitor.await, Monitor.crash, Monitor.handleCrash, breakOff, withClassifier,
      moveReader, hm, Reader.mayReceive, Action.endsWait]
  | checkEnd | handleTerminate | giveUp =>
    exact Nat.le_trans (Nat.le_of_eq (Nat.zero_add _)) (receiptsLeft_endReader_le _ _)
  | _ => exact Nat.le_of_eq (Nat.zero_add _)

/-- A silent monitor stays silent for as long as only quiet sections are gone through. -/
lemma Silent.of_steps (h : Silent m) (hs : SingleReader m) {actions : List (Action η)}
    {calls : List (Call η)} (hq : ∀ action ∈ actions, action.keepsQuiet = true)
    (hr : m.steps t actions = some (calls, m')) :
    calls = [] ∧ Silent m' ∧ actions.countP Action.endsWait + m'.receiptsLeft ≤ m.receiptsLeft := by
  induction actions generalizing m calls with
  | nil =>
    obtain ⟨rfl, rfl⟩ : [] = calls ∧ m = m' := by simpa [Monitor.steps] using hr
    exact ⟨rfl, h, Nat.le_of_eq (Nat.zero_add _)⟩
  | cons action actions ih =>
    obtain ⟨calls₁, m₁, calls₂, h₁, h₂, rfl⟩ := steps_cons_eq_some_iff.1 hr
    have ht := Transition.of_step h₁
    rw [List.forall_mem_cons] at hq
    obtain ⟨rfl, hsilent⟩ := h.of_transition hq.1 ht
    -- What one section uses up and what the others use up come out of the same store.
    have hle := receiptsLeft_of_transition hs h.disconnected ht
    obtain ⟨rfl, hsilent', hle'⟩ := ih hsilent (hs.of_transition ht) hq.2 h₂
    refine ⟨rfl, hsilent', ?_⟩
    rw [List.countP_cons]
    omega

/-- In whatever state everything is stopped: until somebody starts or stops an interface or switches
its monitoring on, no handler is called, no interface is monitored, there is no connection, and of
all waits for a line at most one more ends. -/
theorem silent_after_stopAll {config : Config} {transport : σ} (h : Reachable t config transport m)
    {actions : List (Action η)} {calls : List (Call η)}
    (hq : ∀ action ∈ actions, action.keepsQuiet = true)
    (hr : m.stopAll.steps t actions = some (calls, m')) :
    calls = [] ∧ (∀ i, m'.registry.isMonitoring i = false) ∧ m'.connected = false
      ∧ actions.countP Action.endsWait ≤ 1 := by
  have hstop : m.step t .stopAll = some ([], m.stopAll) := rfl
  have hs : SingleReader m.stopAll := .of_reachable (h.step hstop)
  obtain ⟨hcalls, hsilent, hle⟩ := (Silent.stopAll m).of_steps hs hq hr
  refine ⟨hcalls, hsilent.unmonitored, hsilent.disconnected, ?_⟩
  -- A single reader can receive a single line before it looks.
  have hreaders : m.stopAll.receiptsLeft ≤ 1 :=
    Nat.le_trans List.countP_le_length hs.atMostOne
  omega

/-- A terminal line that was on its way when everything was stopped, and all that comes after it,
reaches none of the handlers. -/
theorem silent_after_stopAll_terminalLine :
    ∃ m m' : Monitor Nat Unit Unit, Reachable Replay.transport {} () m
      ∧ m.readers = [.waiting ()] ∧ m.registry.isMonitoring "wlan0" = true
      ∧ m.stopAll.steps Replay.transport
          [.register "wlan0" .supplicantDisconnection 1, .broadcast none .supplicantDisconnection,
            .receive 0 "CTRL-EVENT-TERMINATING - signal 15", .handle 0,
            .processLine "CTRL-EVENT-SCAN-RESULTS "] = some ([], m')
      ∧ (∀ i, m'.registry.isMonitoring i = false) ∧ m'.connected = false := by
  have hs : (new {} () : Monitor Nat Unit Unit).steps Replay.transport
      [.register "wlan0" .supplicantDisconnection 0, .start "wlan0", .check 0, .await 0]
      = some (_, _) := rfl
  have h := Reachable.new.steps hs
  have hq : ∀ action ∈ ([.register "wlan0" .supplicantDisconnection 1,
      .broadcast none .supplicantDisconnection, .receive 0 "CTRL-EVENT-TERMINATING - signal 15",
      .handle 0, .processLine "CTRL-EVENT-SCAN-RESULTS "] : List (Action Nat)),
      action.keepsQuiet = true := by decide
  refine ⟨_, _, h, rfl, rfl, rfl, ?_⟩
  obtain ⟨-, hm, hc, -⟩ := silent_after_stopAll h hq rfl
  exact ⟨hm, hc⟩

end Monitor

end SupplicantWatch
