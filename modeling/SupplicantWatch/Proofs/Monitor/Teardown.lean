import Mathlib.Tactic.Common
import SupplicantWatch.Proofs.Classifier.ReceiveErrors
import SupplicantWatch.Proofs.Monitor.Notification
import SupplicantWatch.Proofs.Monitor.SingleReader
import SupplicantWatch.Replay

/-!
# How a reader gives the connection up

A reader ends in one of three ways: it sees that the connection is no longer wanted, it handles a
terminal line, or it has crashed. In the last two it gives the connection up, and only there is the
supplicant disconnected. Over a way to the supplicant that keeps a record, this can be counted: no
more disconnects than readers that were started, and no more of these than attempts to connect that
succeeded. Main statement: `teardowns_of_steps`.
-/

namespace SupplicantWatch

open Registry (Operation registered)

/-- Whether a section starts the monitoring of an interface, or crashes at it. -/
def Action.isStart {η : Type} : Action η → Bool
  | start _ | startCrash _ => true
  | _ => false

/-! ### The record -/

/-- What a monitor does to the connection to the supplicant. -/
inductive ConnectionStep where
  /-- An attempt to connect. -/
  | connect (reached : Bool)
  | disconnect
deriving DecidableEq, Repr

/-- Whether it is an attempt to connect. -/
def ConnectionStep.isConnect : ConnectionStep → Bool
  | connect _ => true
  | disconnect => false

lemma count_disconnect_eq_zero {made : List ConnectionStep}
    (h : ∀ done ∈ made, done.isConnect = true) : made.count .disconnect = 0 := by
  apply List.count_eq_zero.2
  intro hmem
  cases h _ hmem

/-- A way to the supplicant that also keeps a record of what is done to the connection. -/
def Transport.recorded {σ κ : Type} (t : Transport σ κ) :
    Transport (List ConnectionStep × σ) κ where
  connect := fun (record, state) =>
    let (reached, state) := t.connect state
    (reached, record ++ [.connect reached], state)
  query := fun (record, state) command =>
    let (reply, state) := t.query state command
    (reply, record, state)
  disconnect := fun (record, state) => (record ++ [.disconnect], t.disconnect state)
  take := fun (record, state) =>
    let (source, state) := t.take state
    (source, record, state)
  release := fun source (record, state) => (record, t.release source state)

/-- Questions are not on record. -/
lemma Dialogue.record_run {α σ κ : Type} (t : Transport σ κ) (d : Dialogue α)
    (state : List ConnectionStep × σ) : (d.run t.recorded.query state).2.2.1 = state.1 := by
  induction d generalizing state with
  | done result => rfl
  | ask command next ih => exact ih _ _

lemma Transport.record_after {σ κ : Type} (t : Transport σ κ) (commands : List String)
    (state : List ConnectionStep × σ) : (t.recorded.after commands state).1 = state.1 := by
  induction commands generalizing state with
  | nil => rfl
  | cons command commands ih => exact ih _

namespace Monitor

variable {η σ κ : Type} {t : Transport σ κ}

/-- An attempt to connect goes on record, and unless it succeeds the others follow. -/
lemma tryConnect_recorded_succ (t : Transport σ κ) (attempts : Nat)
    (state : List ConnectionStep × σ) :
    tryConnect t.recorded (attempts + 1) state
      = if (t.connect state.2).1 then (true, state.1 ++ [.connect true], (t.connect state.2).2)
        else tryConnect t.recorded attempts
          (state.1 ++ [.connect false], (t.connect state.2).2) := by
  obtain ⟨⟨reached, state'⟩, hc⟩ : ∃ r, t.connect state.2 = r := ⟨_, rfl⟩
  have hr : t.recorded.connect state = (reached, state.1 ++ [.connect reached], state') := by
    simp only [Transport.recorded, hc]
  rw [tryConnect, hr, hc]
  cases reached <;> rfl

/-- Attempts to connect go on record, of which the last succeeds if any does. -/
lemma exists_made_tryConnect (t : Transport σ κ) (attempts : Nat)
    (state : List ConnectionStep × σ) :
    ∃ made, (tryConnect t.recorded attempts state).2.1 = state.1 ++ made
      ∧ (∀ done ∈ made, done.isConnect = true)
      ∧ made.count (.connect true) = (tryConnect t.recorded attempts state).1.toNat
      ∧ (0 < attempts → made ≠ []) := by
  induction attempts generalizing state with
  | zero => exact ⟨[], (List.append_nil _).symm, by simp, rfl, by simp⟩
  | succ attempts ih =>
    rw [tryConnect_recorded_succ]
    split_ifs with hreached
    · exact ⟨[.connect true], rfl, by simp [ConnectionStep.isConnect], by simp, by simp⟩
    · obtain ⟨made, hmade, hall, hcount, -⟩ :=
        ih (state.1 ++ [.connect false], (t.connect state.2).2)
      refine ⟨.connect false :: made, ?_, ?_, ?_, by simp⟩
      · simpa using hmade
      · simpa [ConnectionStep.isConnect] using hall
      · simpa using hcount

variable {m m' : Monitor η (List ConnectionStep × σ) κ}

/-- What has been done to the connection. -/
def record (m : Monitor η (List ConnectionStep × σ) κ) : List ConnectionStep :=
  m.transport.1

/-! ### Sections -/

/-- Whether a section is one in which a reader gives the connection up: it handles a terminal line,
or it has crashed. -/
def isTeardown (t : Transport σ κ) (m : Monitor η σ κ) : Action η → Bool
  | .handle i =>
    match m.readers[i]? with
    | some (.holding line) => (m.classifyLine t line).1 == .terminate
    | _ => false
  | .giveUp _ => true
  | _ => false

lemma record_of_classifies {line : String} {classified : Classified} {classifier : Classifier}
    {transport : List ConnectionStep × σ}
    (h : m.Classifies t.recorded line classified classifier transport) :
    transport.1 = m.record := by
  obtain ⟨exchanges, hrun⟩ := h
  have hrecord := Dialogue.record_run t (m.classifier.classify m.registry.isRegistered line)
    m.transport
  rw [hrun] at hrecord
  exact hrecord

lemma isTeardown_handle {t : Transport σ κ} {m : Monitor η σ κ} {i : Nat} {line : String}
    {classified : Classified} {classifier : Classifier} {transport : σ}
    (hr : m.readers[i]? = some (.holding line))
    (h : m.Classifies t line classified classifier transport) :
    m.isTeardown t (.handle i) = (classified.signal == .terminate) := by
  rw [isTeardown, hr]
  dsimp only
  rw [classifyLine_of_classifies h]

/-- What a section does to the connection. -/
inductive Makes (t : Transport σ κ) (m : Monitor η (List ConnectionStep × σ) κ)
    (action : Action η) (m' : Monitor η (List ConnectionStep × σ) κ) :
    List ConnectionStep → Prop where
  /-- A reader that gives the connection up disconnects, and ends. -/
  | teardown (ht : m.isTeardown t.recorded action = true)
      (hr : m'.record = m.record ++ [.disconnect])
      (hl : m'.readers.length + 1 = m.readers.length) : Makes t m action m' [.disconnect]
  /-- No other section disconnects, and it starts a reader only if an attempt to connect
  succeeds. -/
  | other {made : List ConnectionStep} (ht : m.isTeardown t.recorded action = false)
      (hr : m'.record = m.record ++ made) (hall : ∀ done ∈ made, done.isConnect = true)
      (hl : m'.readers.length ≤ m.readers.length + made.count (.connect true)) :
    Makes t m action m' made

lemma Makes.nothing {action : Action η} (ht : m.isTeardown t.recorded action = false)
    (hr : m'.record = m.record) (hl : m'.readers.length ≤ m.readers.length) :
    Makes t m action m' [] :=
  .other ht (by rw [hr, List.append_nil]) (by simp) hl

/-- A reader that gives the connection up ends. -/
lemma length_readers_endReader {i : Nat} {place : Reader κ} (hr : m.readers[i]? = some place) :
    (m.endReader i).readers.length + 1 = m.readers.length := by
  obtain ⟨hi, -⟩ := List.getElem?_eq_some_iff.1 hr
  have hlength := List.length_eraseIdx_of_lt hi
  rw [endReader, hlength]
  omega

lemma length_readers_onConnected_le (m : Monitor η σ κ) (transport : σ) :
    (m.onConnected transport).readers.length ≤ m.readers.length + 1 := by
  unfold onConnected
  dsimp only
  split
  · exact Nat.le_succ _
  · exact Nat.le_of_eq List.length_append

lemma exists_makes_of_transition {action : Action η} {calls : List (Call η)}
    (ht : Transition t.recorded m action calls m') : ∃ made, Makes t m action m' made := by
  cases ht with
  | startReached interface transport hc ht =>
    -- The attempt that succeeds pays for the reader that starts.
    obtain ⟨made, hmade, hall, hcount, -⟩ :=
      exists_made_tryConnect t m.config.connectAttempts m.transport
    rw [ht] at hmade hcount
    refine ⟨made, .other rfl hmade hall ?_⟩
    rw [hcount]
    exact length_readers_onConnected_le m transport
  | startFailed interface transport hc ht =>
    obtain ⟨made, hmade, hall, -⟩ :=
      exists_made_tryConnect t m.config.connectAttempts m.transport
    rw [ht] at hmade
    exact ⟨made, .other rfl hmade hall (Nat.le_add_right _ _)⟩
  | @startCrash attempts transport hc hn ht =>
    obtain ⟨made, hmade, hall, -⟩ := exists_made_tryConnect t attempts m.transport
    rw [ht] at hmade
    exact ⟨made, .other rfl hmade hall (Nat.le_add_right _ _)⟩
  | processGoOn line h | processTerminate line h =>
    exact ⟨[], .nothing rfl (record_of_classifies h) (Nat.le_refl _)⟩
  | processCrash commands =>
    exact ⟨[], .nothing rfl (t.record_after commands m.transport) (Nat.le_refl _)⟩
  -- A reader that ends here has seen that it is not wanted, and disconnects nothing.
  | checkEnd hr hc => exact ⟨[], .nothing rfl rfl (m.readers.eraseIdx_sublist _).length_le⟩
  | checkOn | await | crash => exact ⟨[], .nothing rfl rfl (Nat.le_of_eq List.length_set)⟩
  | receive line =>
    refine ⟨[], .nothing rfl ?_ ?_⟩
    · rw [record, transport_receive]
      rfl
    · exact Nat.le_of_eq ((congrArg List.length (readers_receive ..)).trans List.length_set)
  | handleGoOn hr h hs =>
    refine ⟨[], .nothing ?_ (record_of_classifies h) (Nat.le_of_eq List.length_set)⟩
    rw [isTeardown_handle hr h, hs]
    rfl
  | handleTerminate hr h hs =>
    -- The record does not change while the line is classified, only at the end.
    refine ⟨[.disconnect], .teardown ?_ ?_ (length_readers_endReader hr)⟩
    · rw [isTeardown_handle hr h, hs]
      rfl
    · rw [← record_of_classifies h]
      rfl
  | handleCrash commands hr =>
    exact ⟨[], .nothing rfl (t.record_after commands m.transport) (Nat.le_of_eq List.length_set)⟩
  | giveUp hr => exact ⟨[.disconnect], .teardown rfl rfl (length_readers_endReader hr)⟩
  | _ => exact ⟨[], .nothing rfl rfl (Nat.le_refl _)⟩

/-! ### Runs -/

/-- The number of readers that some sections start. -/
def readersStarted (t : Transport σ κ) (m : Monitor η σ κ) : List (Action η) → Nat
  | [] => 0
  | action :: actions =>
    match m.step t action with
    | some (_, m') => (m'.readers.length - m.readers.length) + readersStarted t m' actions
    | none => 0

/-- Over any sections, a reader that has ended accounts for every disconnect, and an attempt to
connect that has succeeded for every reader that was started. -/
lemma count_record_of_steps {actions : List (Action η)} {calls : List (Call η)}
    (h : m.steps t.recorded actions = some (calls, m')) :
    m'.record.count .disconnect + m'.readers.length
        ≤ m.record.count .disconnect + m.readers.length + readersStarted t.recorded m actions
      ∧ m.record.count (.connect true) + readersStarted t.recorded m actions
        ≤ m'.record.count (.connect true) := by
  induction actions generalizing m calls with
  | nil =>
    obtain ⟨rfl, rfl⟩ : [] = calls ∧ m = m' := by simpa [Monitor.steps] using h
    exact ⟨Nat.le_refl _, Nat.le_refl _⟩
  | cons action actions ih =>
    obtain ⟨calls₁, m₁, calls₂, h₁, h₂, rfl⟩ := steps_cons_eq_some_iff.1 h
    obtain ⟨hdisconnects, hconnects⟩ := ih h₂
    rw [readersStarted, h₁]
    dsimp only
    obtain ⟨made, hmakes⟩ := exists_makes_of_transition (.of_step h₁)
    -- A teardown trades a reader for a disconnect; the other sections pay for a reader with a
    -- connection.
    cases hmakes with
    | teardown ht hr hl =>
      rw [hr, List.count_append] at hdisconnects hconnects
      rw [List.count_singleton_self] at hdisconnects
      omega
    | other ht hr hall hl =>
      have hnone := count_disconnect_eq_zero hall
      rw [hr, List.count_append] at hdisconnects hconnects
      omega

/-! ### After a reader gave the connection up -/

/-- There is neither a connection nor a reader. -/
structure Idle (m : Monitor η σ κ) : Prop where
  disconnected : m.connected = false
  stopped : m.readerRunning = false
  readers_eq : m.readers = []

namespace Idle

variable {m m' : Monitor η σ κ}

/-- Until the monitoring of an interface is started there is neither a connection nor a reader. -/
lemma of_transition (h : Idle m) {action : Action η} {calls : List (Call η)}
    (hn : action.isStart = false) (ht : Transition t m action calls m') : Idle m' := by
  have hnone {i : Nat} {place : Reader κ} : m.readers[i]? ≠ some place := by
    rw [h.readers_eq]
    exact nofun
  cases ht with
  | startConnected | startReached | startFailed | startCrash => cases hn
  | stopAll | processTerminate => exact ⟨rfl, h.stopped, h.readers_eq⟩
  | checkOn hr | checkEnd hr | await hr | receive _ hr | crash hr | handleGoOn hr
  | handleTerminate hr | handleCrash _ hr | giveUp hr => exact absurd hr hnone
  | _ => exact ⟨h.disconnected, h.stopped, h.readers_eq⟩

lemma of_steps (h : Idle m) {actions : List (Action η)} {calls : List (Call η)}
    (hn : ∀ action ∈ actions, action.isStart = false)
    (hs : m.steps t actions = some (calls, m')) : Idle m' := by
  induction actions generalizing m calls with
  | nil =>
    obtain ⟨rfl, rfl⟩ : [] = calls ∧ m = m' := by simpa [Monitor.steps] using hs
    exact h
  | cons action actions ih =>
    obtain ⟨calls₁, m₁, calls₂, h₁, h₂, rfl⟩ := steps_cons_eq_some_iff.1 hs
    rw [List.forall_mem_cons] at hn
    exact ih (h.of_transition hn.1 (.of_step h₁)) hn.2 h₂

end Idle

lemma config_of_transition {m m' : Monitor η σ κ} {action : Action η} {calls : List (Call η)}
    (h : Transition t m action calls m') : m'.config = m.config := by
  cases h with
  | receive line =>
    unfold Monitor.receive
    split <;> rfl
  | _ => rfl

lemma config_of_steps {m m' : Monitor η σ κ} {actions : List (Action η)} {calls : List (Call η)}
    (h : m.steps t actions = some (calls, m')) : m'.config = m.config := by
  induction actions generalizing m calls with
  | nil =>
    obtain ⟨rfl, rfl⟩ : [] = calls ∧ m = m' := by simpa [Monitor.steps] using h
    rfl
  | cons action actions ih =>
    obtain ⟨calls₁, m₁, calls₂, h₁, h₂, rfl⟩ := steps_cons_eq_some_iff.1 h
    rw [ih h₂, config_of_transition (.of_step h₁)]

/-- Where there is neither a connection nor a reader, starting the monitoring of an interface takes
attempts to connect, and a reader starts with the connection. -/
lemma Idle.start (h : Idle m) (ha : 0 < m.config.connectAttempts) (interface : String) :
    (∃ made, made ≠ [] ∧ (∀ done ∈ made, done.isConnect = true)
        ∧ (m.start t.recorded interface).2.2.record = m.record ++ made)
      ∧ ((m.start t.recorded interface).1 = .ok () →
        (m.start t.recorded interface).2.2.readers = [.checking]) := by
  obtain ⟨made, hmade, hall, -, hne⟩ :=
    exists_made_tryConnect t m.config.connectAttempts m.transport
  -- There is no connection to start on, so attempts are made, whatever they come to.
  rcases start_cases t.recorded m interface with
    ⟨hc, -⟩ | ⟨transport, -, ht, hstart⟩ | ⟨transport, -, ht, hstart⟩
  · rw [h.disconnected] at hc
    cases hc
  · rw [ht] at hmade
    rw [hstart]
    refine ⟨⟨made, hne ha, hall, hmade⟩, ?_⟩
    intro _
    simp [setMonitoring, onConnected, h.stopped, h.readers_eq]
  · rw [ht] at hmade
    rw [hstart]
    refine ⟨⟨made, hne ha, hall, hmade⟩, ?_⟩
    intro hok
    cases hok

/-- A terminal line is told to every monitored interface. -/
lemma deliveries_of_terminate {m : Monitor η σ κ} {line : String} {classified : Classified}
    {classifier : Classifier} {transport : σ}
    (h : m.Classifies t line classified classifier transport)
    (hs : classified.signal = .terminate) :
    m.deliveries classified = m.registry.dispatch none .supplicantDisconnection := by
  obtain ⟨exchanges, hrun⟩ := h
  have hsettles := Classifier.settles_classify t.query m.transport m.classifier
    m.registry.isRegistered line
  rw [hrun] at hsettles
  obtain ⟨hinterface, hevent⟩ := hsettles.disconnection_of_terminate hs
  rw [deliveries, hinterface, hevent]
  rfl

/-- A reader that gives the connection up tells every monitored interface, and leaves neither a
connection nor a reader. -/
lemma of_isTeardown {m m' : Monitor η σ κ} (hs : SingleReader m) {action : Action η}
    {calls : List (Call η)} (h : m.isTeardown t action = true)
    (ht : Transition t m action calls m') :
    calls = m.registry.dispatch none .supplicantDisconnection ∧ Idle m' := by
  cases ht with
  | handleTerminate hr hc hsignal =>
    obtain ⟨hm, rfl⟩ := hs.readers_eq hr
    refine ⟨deliveries_of_terminate hc hsignal, rfl, rfl, ?_⟩
    simp [endReader, disconnected, withClassifier, hm]
  | giveUp hr =>
    obtain ⟨hm, rfl⟩ := hs.readers_eq hr
    refine ⟨rfl, rfl, rfl, ?_⟩
    simp [endReader, disconnected, hm]
  | handleGoOn hr hc hsignal =>
    rw [isTeardown_handle hr hc, hsignal] at h
    cases h
  | _ => cases h

/-- A reader ends nowhere else but where it looks whether the connection is still wanted. -/
lemma isCheck_of_length_lt {m m' : Monitor η σ κ} {action : Action η} {calls : List (Call η)}
    (h : m.isTeardown t action = false) (ht : Transition t m action calls m')
    (hl : m'.readers.length < m.readers.length) : ∃ i, action = .check i := by
  cases ht with
  | checkOn | checkEnd => exact ⟨_, rfl⟩
  | startReached interface transport =>
    have hle : m.readers.length ≤ (m.onConnected transport).readers.length := by
      unfold onConnected
      dsimp only
      split
      · exact Nat.le_refl _
      · exact (List.sublist_append_left _ _).length_le
    exact absurd hl (Nat.not_lt_of_le hle)
  | receive line hr =>
    rw [readers_receive, List.length_set] at hl
    exact absurd hl (Nat.lt_irrefl _)
  | await | crash | handleGoOn | handleCrash =>
    -- These replace the reader by itself at another place.
    exact absurd hl (Nat.not_lt_of_le (Nat.le_of_eq List.length_set.symm))
  | handleTerminate hr hc hsignal =>
    rw [isTeardown_handle hr hc, hsignal] at h
    cases h
  | giveUp => cases h
  | _ => exact absurd hl (Nat.lt_irrefl _)

/-- What is so once a reader has given the connection up, after some sections. -/
structure TornDown (t : Transport σ κ) (past : List (Action η))
    (m : Monitor η (List ConnectionStep × σ) κ) (calls : List (Call η))
    (m' : Monitor η (List ConnectionStep × σ) κ) : Prop where
  /-- Every monitored interface is told, once for each registration. -/
  told : ∃ names : List String, names.Pairwise (· < ·)
    ∧ (∀ i, i ∈ names ↔ m.registry.isMonitoring i = true)
    ∧ calls = names.flatMap fun i => callsOfHandlers past i .supplicantDisconnection
  record_eq : m'.record = m.record ++ [.disconnect]
  disconnected : m'.connected = false
  stopped : m'.readerRunning = false
  /-- Whatever happens next, the next start takes attempts to connect, and with the connection a
  reader starts. -/
  restarts : 0 < m.config.connectAttempts → ∀ (later : List (Action η)) (calls' : List (Call η))
    (m'' : Monitor η (List ConnectionStep × σ) κ), (∀ action ∈ later, action.isStart = false) →
    m'.steps t.recorded later = some (calls', m'') → ∀ interface,
    (∃ made, made ≠ [] ∧ (∀ done ∈ made, done.isConnect = true)
        ∧ (m''.start t.recorded interface).2.2.record = m''.record ++ made)
      ∧ m''.readers = []
      ∧ ((m''.start t.recorded interface).1 = .ok () →
        (m''.start t.recorded interface).2.2.readers = [.checking])

/-- A reader that gives the connection up tears it down. -/
lemma TornDown.of_step {config : Config} {transport : σ} {past : List (Action η)}
    {calls calls' : List (Call η)}
    (h : (new config ([], transport)).steps t.recorded past = some (calls, m))
    {action : Action η} (hs : m.step t.recorded action = some (calls', m'))
    (ht : m.isTeardown t.recorded action = true) : TornDown t past m calls' m' := by
  have hreader : SingleReader m := .of_reachable (Reachable.new.steps h)
  have htransition := Transition.of_step hs
  obtain ⟨hcalls, hidle⟩ := of_isTeardown hreader ht htransition
  obtain ⟨made, hmakes⟩ := exists_makes_of_transition htransition
  constructor
  case told =>
    refine ⟨m.registry.monitored, m.registry.pairwise_monitored,
      fun i => Registry.mem_monitored, ?_⟩
    -- The handlers of the state are those that the run registered.
    have hm : m.registry.handlers = (Registry.ofHistory (registrations past)).handlers :=
      handlers_of_steps h rfl
    rw [hcalls, Registry.dispatch_none]
    congr 1
    funext i
    rw [Registry.handlersFor_congr hm, Registry.handlersFor_ofHistory]
    rfl
  case record_eq =>
    cases hmakes with
    | teardown _ hr => exact hr
    | other hn =>
      rw [ht] at hn
      cases hn
  case disconnected => exact hidle.disconnected
  case stopped => exact hidle.stopped
  case restarts =>
    -- Nothing but a start ends the idleness that the reader has left behind.
    intro ha later calls'' m'' hn hlater interface
    have hidle'' := hidle.of_steps hn hlater
    have hconfig : m''.config = m.config :=
      (config_of_steps hlater).trans (config_of_transition htransition)
    obtain ⟨hmade, hreaders⟩ := hidle''.start (hconfig ▸ ha) interface
    exact ⟨hmade, hidle''.readers_eq, hreaders⟩

/-- Over any sections there are no more disconnects than readers were started, and no more of these
than attempts to connect that succeeded. A reader that ends because of a terminal line or a crash
tells every monitored interface, disconnects once, and leaves it to the next start to connect anew;
no other section disconnects, and a reader that ends in another has seen that it is not wanted. -/
theorem teardowns_of_steps {config : Config} {transport : σ} {past : List (Action η)}
    {calls : List (Call η)}
    (h : (new config ([], transport)).steps t.recorded past = some (calls, m)) :
    m.record.count .disconnect ≤ readersStarted t.recorded (new config ([], transport)) past
      ∧ readersStarted t.recorded (new config ([], transport)) past
        ≤ m.record.count (.connect true)
      ∧ ∀ (action : Action η) (calls' : List (Call η))
          (m' : Monitor η (List ConnectionStep × σ) κ),
          m.step t.recorded action = some (calls', m') →
        (m.isTeardown t.recorded action = true → TornDown t past m calls' m')
        ∧ (m.isTeardown t.recorded action = false →
          m'.record.count .disconnect = m.record.count .disconnect
          ∧ (m'.readers.length < m.readers.length → ∃ i, action = .check i)) := by
  obtain ⟨hdisconnects, hconnects⟩ := count_record_of_steps h
  have hnew : (new config ([], transport) : Monitor η (List ConnectionStep × σ) κ).record = [] :=
    rfl
  have hnone : (new config ([], transport) : Monitor η (List ConnectionStep × σ) κ).readers = [] :=
    rfl
  rw [hnew, hnone, List.count_nil] at hdisconnects
  rw [hnew, List.count_nil] at hconnects
  -- Before anything has happened the record and the readers are empty, which turns the balance of a
  -- run into the two bounds.
  refine ⟨?_, ?_, ?_⟩
  · simp only [List.length_nil] at hdisconnects
    omega
  · omega
  · intro action calls' m' hs
    refine ⟨.of_step h hs, ?_⟩
    intro ht
    have htransition := Transition.of_step hs
    refine ⟨?_, isCheck_of_length_lt ht htransition⟩
    obtain ⟨made, hmakes⟩ := exists_makes_of_transition htransition
    cases hmakes with
    | teardown hyes =>
      rw [ht] at hyes
      cases hyes
    | other _ hr hall =>
      rw [hr, List.count_append, count_disconnect_eq_zero hall, Nat.add_zero]

/-- A handler that registered twice is told twice that the reader has crashed, and one of an
interface that is not monitored is not told; the next start connects anew and starts a reader. -/
theorem teardowns_of_steps_crashed :
    ∃ m m' : Monitor Nat (List ConnectionStep × Unit) Unit,
      (new {} ([], ())).steps Replay.transport.recorded
          [.register "wlan0" .supplicantDisconnection 0,
            .register "wlan1" .supplicantDisconnection 1,
            .register "wlan0" .supplicantDisconnection 0, .start "wlan0", .check 0, .await 0,
            .crash 0] = some ([], m)
      ∧ m.step Replay.transport.recorded (.giveUp 0)
        = some ([⟨0, .supplicantDisconnection⟩, ⟨0, .supplicantDisconnection⟩], m')
      ∧ m'.record = [.connect true, .disconnect]
      ∧ (m'.start Replay.transport.recorded "wlan1").2.2.readers = [.checking] := by
  have h : (new {} ([], ()) : Monitor Nat (List ConnectionStep × Unit) Unit).steps
      Replay.transport.recorded
      [.register "wlan0" .supplicantDisconnection 0, .register "wlan1" .supplicantDisconnection 1,
        .register "wlan0" .supplicantDisconnection 0, .start "wlan0", .check 0, .await 0,
        .crash 0] = some ([], _) := rfl
  refine ⟨_, _, h, rfl, ?_⟩
  obtain ⟨-, -, hstep⟩ := teardowns_of_steps h
  have htorn := (hstep (.giveUp 0) _ _ rfl).1 rfl
  obtain ⟨-, -, hreaders⟩ := htorn.restarts (by decide) [] _ _ (by simp) rfl "wlan1"
  exact ⟨htorn.record_eq, hreaders rfl⟩

end Monitor

end SupplicantWatch
