import Mathlib.Tactic.Common
import SupplicantWatch.Proofs.Monitor.Teardown

/-!
# How monitoring starts

A start without a connection tries to connect until that succeeds, at most as often as the
configuration says. If it succeeds, the connection is as good as new while what is known of the
interfaces stays; if it does not, nothing is left of the start but the attempts. Main statement:
`starts_of_reachable`.
-/

namespace SupplicantWatch.Monitor

variable {η σ κ : Type} {t : Transport σ κ} {config : Config} {interface : String}

/-! ### Attempts -/

/-- How attempts to connect come out, one after the other. -/
def outcome (t : Transport σ κ) : σ → Nat → Bool
  | state, 0 => (t.connect state).1
  | state, n + 1 => outcome t (t.connect state).2 n

/-- If every attempt fails, all of them are made. -/
lemma tryConnect_of_forall_outcome {attempts : Nat} (state : List ConnectionStep × σ)
    (hfail : ∀ n < attempts, outcome t state.2 n = false) :
    ∃ state', tryConnect t.recorded attempts state
      = (false, state.1 ++ List.replicate attempts (.connect false), state') := by
  induction attempts generalizing state with
  | zero =>
    refine ⟨state.2, ?_⟩
    rw [List.replicate_zero, List.append_nil]
    rfl
  | succ attempts ih =>
    have hfirst : (t.connect state.2).1 = false := hfail 0 (Nat.succ_pos attempts)
    have hrest : ∀ n < attempts, outcome t (t.connect state.2).2 n = false :=
      fun n hn => hfail (n + 1) (Nat.succ_lt_succ hn)
    obtain ⟨state', h⟩ := ih (state.1 ++ [.connect false], _) hrest
    refine ⟨state', ?_⟩
    rw [tryConnect_recorded_succ, hfirst, if_neg Bool.false_ne_true, h, List.append_assoc]
    rfl

/-- If some attempts fail and the next one succeeds, it is the last. -/
lemma tryConnect_of_outcome {attempts k : Nat} (state : List ConnectionStep × σ)
    (hk : k < attempts) (hfail : ∀ n < k, outcome t state.2 n = false)
    (hreached : outcome t state.2 k = true) :
    ∃ state', tryConnect t.recorded attempts state
      = (true, state.1 ++ (List.replicate k (.connect false) ++ [.connect true]), state') := by
  -- By induction on the attempts that are left; the number of those that fail shrinks along with
  -- them.
  induction attempts generalizing k state with
  | zero => exact absurd hk (Nat.not_lt_zero k)
  | succ attempts ih =>
    rw [tryConnect_recorded_succ]
    cases k with
    | zero => exact ⟨_, if_pos hreached⟩
    | succ k =>
      have hfirst : (t.connect state.2).1 = false := hfail 0 (Nat.succ_pos k)
      have hrest : ∀ n < k, outcome t (t.connect state.2).2 n = false :=
        fun n hn => hfail (n + 1) (Nat.succ_lt_succ hn)
      obtain ⟨state', h⟩ :=
        ih (state.1 ++ [.connect false], _) (Nat.lt_of_succ_lt_succ hk) hrest hreached
      refine ⟨state', ?_⟩
      rw [hfirst, if_neg Bool.false_ne_true, h, List.append_assoc]
      rfl

/-! ### Starts -/

variable {m : Monitor η (List ConnectionStep × σ) κ}

/-- What a start comes to that does not reach the supplicant: every attempt has failed, and for the
rest everything is as it was. -/
structure Fails (attempts : Nat) (m : Monitor η (List ConnectionStep × σ) κ)
    (result : Except MonitorError Unit) (m' : Monitor η (List ConnectionStep × σ) κ) : Prop where
  result_eq : result = .error (.connectFailed attempts)
  record_eq : m'.record = m.record ++ List.replicate attempts (.connect false)
  isMonitoring_eq : ∀ i, m'.registry.isMonitoring i = m.registry.isMonitoring i
  handlers_eq : m'.registry.handlers = m.registry.handlers
  disconnected : m'.connected = false
  readerRunning_eq : m'.readerRunning = m.readerRunning
  readers_eq : m'.readers = m.readers
  classifier_eq : m'.classifier = m.classifier
  log_eq : m'.log = m.log

/-- What a start comes to that connects, after some attempts that failed. -/
structure Connects (failed : Nat) (interface : String) (m : Monitor η (List ConnectionStep × σ) κ)
    (result : Except MonitorError Unit) (m' : Monitor η (List ConnectionStep × σ) κ) : Prop where
  result_eq : result = .ok ()
  record_eq : m'.record = m.record ++ (List.replicate failed (.connect false) ++ [.connect true])
  connected : m'.connected = true
  receiveErrors_eq : m'.classifier.receiveErrors = 0
  lastConnected_eq : m'.classifier.lastConnected = m.classifier.lastConnected
  monitored : m'.registry.isMonitoring interface = true
  isMonitoring_eq : ∀ i ≠ interface, m'.registry.isMonitoring i = m.registry.isMonitoring i
  handlers_eq : m'.registry.handlers = m.registry.handlers
  log_eq : m'.log = m.log
  /-- A reader starts where there is none. -/
  spawned : m.readerRunning = false → m.readers = [] ∧ m'.readers = [.checking]
  /-- The reader that there is goes on. -/
  kept : m.readerRunning = true → m'.readers = m.readers

lemma config_of_reachable {m : Monitor η σ κ} {transport : σ}
    (h : Reachable t config transport m) : m.config = config := by
  induction h with
  | new => rfl
  | step _ hs ih => rw [config_of_transition (.of_step hs), ih]

/-- Switching the monitoring of an interface on and back leaves it as it was. -/
lemma isMonitoring_setMonitoring_restored (r : Registry η) (interface i : String) :
    ((r.setMonitoring interface true).setMonitoring interface
      (r.isMonitoring interface)).isMonitoring i = r.isMonitoring i := by
  rw [Registry.isMonitoring_setMonitoring, Registry.isMonitoring_setMonitoring]
  split_ifs with hi
  · rw [hi]
  · rfl

/-- Once it has failed to connect a monitor is as it was. -/
lemma Fails.of_transport {transport : List ConnectionStep × σ} {attempts : Nat}
    (hc : m.connected = false)
    (hr : transport.1 = m.record ++ List.replicate attempts (.connect false)) :
    Fails attempts m (.error (.connectFailed attempts))
      (({ m with transport }).setMonitoring interface true |>.setMonitoring interface
        (m.registry.isMonitoring interface)) where
  result_eq := rfl
  record_eq := hr
  isMonitoring_eq := isMonitoring_setMonitoring_restored m.registry interface
  handlers_eq := rfl
  disconnected := hc
  readerRunning_eq := rfl
  readers_eq := rfl
  classifier_eq := rfl
  log_eq := rfl

/-- Once it has connected a monitor has a reader, the one that it had or a new one. -/
lemma Connects.of_transport {transport : List ConnectionStep × σ} {failed : Nat}
    (hs : SingleReader m)
    (hr : transport.1 = m.record ++ (List.replicate failed (.connect false) ++ [.connect true])) :
    Connects failed interface m (.ok ())
      ((m.onConnected transport).setMonitoring interface true) where
  result_eq := rfl
  record_eq := hr
  connected := rfl
  receiveErrors_eq := rfl
  lastConnected_eq := rfl
  monitored := (m.registry.isMonitoring_setMonitoring interface interface true).trans (if_pos rfl)
  isMonitoring_eq i hi :=
    (m.registry.isMonitoring_setMonitoring interface i true).trans (if_neg hi.symm)
  handlers_eq := rfl
  log_eq := rfl
  spawned hrunning := by
    have hnil : m.readers = [] := by
      by_contra hne
      cases hrunning.symm.trans (hs.running_iff.2 hne)
    simp [setMonitoring, onConnected, hrunning, hnil]
  kept hrunning := if_pos hrunning

/-- Where there is a connection, a start makes no attempt to connect and succeeds. Where there is
none, it makes one after the other until one succeeds, at most as many as configured. If none does,
the start fails and nothing else has changed; if one does, the interface is monitored over the new
connection and its reader. -/
theorem starts_of_reachable {transport : σ} (h : Reachable t.recorded config ([], transport) m)
    (interface : String) :
    let (result, _, m') := m.start t.recorded interface
    (m.connected = true → result = .ok () ∧ m'.record = m.record)
      ∧ (m.connected = false →
        (∀ n < config.connectAttempts, outcome t m.transport.2 n = false) →
        Fails config.connectAttempts m result m')
      ∧ (m.connected = false → ∀ k < config.connectAttempts,
        (∀ n < k, outcome t m.transport.2 n = false) → outcome t m.transport.2 k = true →
        Connects k interface m result m') := by
  rw [← config_of_reachable h]
  -- The three cases of a start exclude each other, and the hypotheses of each part pick one.
  generalize hstart : m.start t.recorded interface = r
  refine ⟨?_, ?_, ?_⟩
  · intro hc
    rw [start_of_connected hc] at hstart
    subst hstart
    exact ⟨rfl, rfl⟩
  · intro hc hfail
    obtain ⟨state, ht⟩ := tryConnect_of_forall_outcome m.transport hfail
    rw [start_of_not_reached hc ht] at hstart
    subst hstart
    exact .of_transport hc rfl
  · intro hc k hk hfail hreached
    obtain ⟨state, ht⟩ := tryConnect_of_outcome m.transport hk hfail hreached
    rw [start_of_reached hc ht] at hstart
    subst hstart
    exact .of_transport (.of_reachable h) rfl

/-- A way to a supplicant that never answers, on which attempts to connect come out as listed and
fail after that. -/
def scripted : Transport (List Bool) Unit where
  connect outcomes := (outcomes.headD false, outcomes.tail)
  query outcomes _ := (none, outcomes)
  disconnect outcomes := outcomes
  take outcomes := ((), outcomes)
  release _ outcomes := outcomes

/-- The reader of a connection that was given up still waits, through a start that fails as through
one that succeeds with the third attempt. -/
theorem starts_of_reachable_waiting :
    (∃ m : Monitor Nat (List ConnectionStep × List Bool) Unit,
        Reachable scripted.recorded {} ([], [true]) m ∧ m.readers = [.waiting ()]
        ∧ Fails 5 m (m.start scripted.recorded "wlan1").1
          (m.start scripted.recorded "wlan1").2.2)
      ∧ ∃ m : Monitor Nat (List ConnectionStep × List Bool) Unit,
        Reachable scripted.recorded {} ([], [true, false, false, true]) m
        ∧ Connects 2 "wlan1" m (m.start scripted.recorded "wlan1").1
          (m.start scripted.recorded "wlan1").2.2
        ∧ (m.start scripted.recorded "wlan1").2.2.readers = [.waiting ()] := by
  constructor
  · have hrun : (new {} ([], [true]) : Monitor Nat (List ConnectionStep × List Bool) Unit).steps
        scripted.recorded [.start "wlan0", .check 0, .await 0, .stopAll] = some (_, _) := rfl
    have h := Reachable.new.steps hrun
    exact ⟨_, h, rfl, (starts_of_reachable h "wlan1").2.1 rfl (by decide)⟩
  · have hrun : (new {} ([], [true, false, false, true]) :
        Monitor Nat (List ConnectionStep × List Bool) Unit).steps
        scripted.recorded [.start "wlan0", .check 0, .await 0, .stopAll] = some (_, _) := rfl
    have h := Reachable.new.steps hrun
    have hconnects :=
      (starts_of_reachable h "wlan1").2.2 rfl 2 (by decide) (by decide) (by decide)
    exact ⟨_, h, hconnects, hconnects.kept rfl⟩

end SupplicantWatch.Monitor
