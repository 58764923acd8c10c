import SupplicantWatch.Monitor.Step

/-!
# What a section can do

Every section that can be gone through, with the ways in which it can come out: what each needs,
which calls it makes and the state that it leaves. Main statement: `Transition.of_step`, a step of
the monitor is one of these. Facts about runs are proved by cases on it.
-/

namespace SupplicantWatch.Monitor

variable {η σ κ : Type} {t : Transport σ κ} {m m' : Monitor η σ κ}

/-- The monitor after a line has been classified. -/
def withClassifier (m : Monitor η σ κ) (classifier : Classifier) (transport : σ) :
    Monitor η σ κ :=
  { m with classifier, transport }

/-- The monitor that has lost its connection. -/
def disconnected (m : Monitor η σ κ) (transport : σ) : Monitor η σ κ :=
  { m with connected := false, transport }

/-- The calls that deliver the event of a line, if it has one. -/
def deliveries (m : Monitor η σ κ) (classified : Classified) : List (Call η) :=
  classified.event.elim [] (m.registry.dispatch classified.interface)

/-- A line is classified so, to this classifier and this state of the way to the supplicant. -/
def Classifies (t : Transport σ κ) (m : Monitor η σ κ) (line : String) (classified : Classified)
    (classifier : Classifier) (transport : σ) : Prop :=
  ∃ exchanges, (m.classifier.classify m.registry.isRegistered line).run t.query m.transport
    = ((classified, classifier), exchanges, transport)

/-- What a section can do. -/
inductive Transition (t : Transport σ κ) (m : Monitor η σ κ) :
    Action η → List (Call η) → Monitor η σ κ → Prop where
  | register (interface : String) (kind : EventKind) (handler : η) :
    Transition t m (.register interface kind handler) [] (m.register interface kind handler)
  | startConnected (interface : String) (hc : m.connected = true) :
    Transition t m (.start interface)
      ((m.setMonitoring interface true).registry.dispatch (some interface) .supplicantConnection)
      (m.setMonitoring interface true)
  | startReached (interface : String) (transport : σ) (hc : m.connected = false)
      (ht : tryConnect t m.config.connectAttempts m.transport = (true, transport)) :
    Transition t m (.start interface)
      ((m.setMonitoring interface true).registry.dispatch (some interface) .supplicantConnection)
      ((m.onConnected transport).setMonitoring interface true)
  | startFailed (interface : String) (transport : σ) (hc : m.connected = false)
      (ht : tryConnect t m.config.connectAttempts m.transport = (false, transport)) :
    Transition t m (.start interface)
      ((m.setMonitoring interface true).registry.dispatch (some interface) .supplicantDisconnection)
      ((({ m with transport }).setMonitoring interface true).setMonitoring interface
        (m.registry.isMonitoring interface))
  | startCrash {attempts : Nat} (transport : σ) (hc : m.connected = false)
      (hn : attempts < m.config.connectAttempts)
      (ht : tryConnect t attempts m.transport = (false, transport)) :
    Transition t m (.startCrash attempts) [] { m with transport }
  | stop (interface : String) :
    Transition t m (.stop interface) (m.stop interface).1 (m.stop interface).2
  | stopAll : Transition t m .stopAll [] m.stopAll
  | setMonitoring (interface : String) (enabled : Bool) :
    Transition t m (.setMonitoring interface enabled) [] (m.setMonitoring interface enabled)
  | broadcast (interface : Option String) (event : Event) :
    Transition t m (.broadcast interface event) (m.broadcast interface event) m
  | processGoOn (line : String) {classified : Classified} {classifier : Classifier} {transport : σ}
      (h : m.Classifies t line classified classifier transport) (hs : classified.signal = .goOn) :
    Transition t m (.processLine line) (m.deliveries classified)
      (m.withClassifier classifier transport)
  | processTerminate (line : String) {classified : Classified} {classifier : Classifier}
      {transport : σ} (h : m.Classifies t line classified classifier transport)
      (hs : classified.signal = .terminate) :
    Transition t m (.processLine line) (m.deliveries classified)
      ((m.withClassifier classifier transport).disconnected transport)
  | processCrash (commands : List String) :
    Transition t m (.processCrash commands) [] (m.breakOff t commands)
  | join : Transition t m .join [] m
  | checkOn {i : Nat} (hr : m.readers[i]? = some .checking) (hc : m.connected = true) :
    Transition t m (.check i) [] (m.moveReader i .ready)
  | checkEnd {i : Nat} (hr : m.readers[i]? = some .checking) (hc : m.connected = false) :
    Transition t m (.check i) [] (m.endReader i)
  | await {i : Nat} (hr : m.readers[i]? = some .ready) :
    Transition t m (.await i) [] (m.await t i)
  | receive {i : Nat} {source : κ} (line : String) (hr : m.readers[i]? = some (.waiting source)) :
    Transition t m (.receive i line) [] (m.receive t i source line)
  | crash {i : Nat} {source : κ} (hr : m.readers[i]? = some (.waiting source)) :
    Transition t m (.crash i) [] (m.crash t i source)
  | handleGoOn {i : Nat} {line : String} {classified : Classified} {classifier : Classifier}
      {transport : σ} (hr : m.readers[i]? = some (.holding line))
      (h : m.Classifies t line classified classifier transport) (hs : classified.signal = .goOn) :
    Transition t m (.handle i) (m.deliveries classified)
      ((m.withClassifier classifier transport).moveReader i .checking)
  | handleTerminate {i : Nat} {line : String} {classified : Classified} {classifier : Classifier}
      {transport : σ} (hr : m.readers[i]? = some (.holding line))
      (h : m.Classifies t line classified classifier transport)
      (hs : classified.signal = .terminate) :
    Transition t m (.handle i) (m.deliveries classified)
      (((m.withClassifier classifier transport).disconnected (t.disconnect transport)).endReader i)
  | handleCrash {i : Nat} {line : String} (commands : List String)
      (hr : m.readers[i]? = some (.holding line)) :
    Transition t m (.handleCrash i commands) [] (m.handleCrash t i commands)
  | giveUp {i : Nat} (hr : m.readers[i]? = some .crashed) :
    Transition t m (.giveUp i) (m.registry.dispatch none .supplicantDisconnection)
      ((m.disconnected (t.disconnect m.transport)).endReader i)

/-! ### The receipt of a line -/

@[simp] theorem readers_receive (m : Monitor η σ κ) (i : Nat) (source : κ) (line : String) :
    (m.receive t i source line).readers = m.readers.set i (.holding line) := by
  unfold receive
  split <;> rfl

@[simp] theorem connected_receive (m : Monitor η σ κ) (i : Nat) (source : κ) (line : String) :
    (m.receive t i source line).connected = m.connected := by
  unfold receive
  split <;> rfl

@[simp] theorem registry_receive (m : Monitor η σ κ) (i : Nat) (source : κ) (line : String) :
    (m.receive t i source line).registry = m.registry := by
  unfold receive
  split <;> rfl

@[simp] theorem transport_receive (m : Monitor η σ κ) (i : Nat) (source : κ) (line : String) :
    (m.receive t i source line).transport = t.release source m.transport := by
  unfold receive
  split <;> rfl

/-! ### Sections with more than one way to come out -/

/-- Monitoring starts on the connection there is. -/
theorem start_of_connected (hc : m.connected = true) (interface : String) :
    m.start t interface
      = (.ok (), (m.setMonitoring interface true).registry.dispatch (some interface)
          .supplicantConnection, m.setMonitoring interface true) := by
  have h : m.ensureConnected t = (true, m) := by rw [ensureConnected, if_pos hc]
  rw [start, h]

/-- Monitoring starts on a connection that is made. -/
theorem start_of_reached {transport : σ} (hc : m.connected = false)
    (ht : tryConnect t m.config.connectAttempts m.transport = (true, transport))
    (interface : String) :
    m.start t interface
      = (.ok (), (m.setMonitoring interface true).registry.dispatch (some interface)
          .supplicantConnection, (m.onConnected transport).setMonitoring interface true) := by
  have h : m.ensureConnected t = (true, m.onConnected transport) := by
    simp [ensureConnected, hc, ht]
  rw [start, h]
  rfl

/-- Monitoring fails to start where no connection can be made. -/
theorem start_of_not_reached {transport : σ} (hc : m.connected = false)
    (ht : tryConnect t m.config.connectAttempts m.transport = (false, transport))
    (interface : String) :
    m.start t interface
      = (.error (.connectFailed m.config.connectAttempts),
          (m.setMonitoring interface true).registry.dispatch (some interface)
            .supplicantDisconnection,
          (({ m with transport }).setMonitoring interface true).setMonitoring interface
            (m.registry.isMonitoring interface)) := by
  have h : m.ensureConnected t = (false, { m with transport }) := by
    simp [ensureConnected, hc, ht]
  rw [start, h]
  rfl

/-- Monitoring starts on the connection there is, or on one that is made, or it fails to start. -/
theorem start_cases (t : Transport σ κ) (m : Monitor η σ κ) (interface : String) :
    (m.connected = true
      ∧ m.start t interface
        = (.ok (), (m.setMonitoring interface true).registry.dispatch (some interface)
            .supplicantConnection, m.setMonitoring interface true))
    ∨ (∃ transport, m.connected = false
      ∧ tryConnect t m.config.connectAttempts m.transport = (true, transport)
      ∧ m.start t interface
        = (.ok (), (m.setMonitoring interface true).registry.dispatch (some interface)
            .supplicantConnection, (m.onConnected transport).setMonitoring interface true))
    ∨ ∃ transport, m.connected = false
      ∧ tryConnect t m.config.connectAttempts m.transport = (false, transport)
      ∧ m.start t interface
        = (.error (.connectFailed m.config.connectAttempts),
            (m.setMonitoring interface true).registry.dispatch (some interface)
              .supplicantDisconnection,
            (({ m with transport }).setMonitoring interface true).setMonitoring interface
              (m.registry.isMonitoring interface)) := by
  by_cases hc : m.connected = true
  · exact .inl ⟨hc, start_of_connected hc interface⟩
  · rw [Bool.not_eq_true] at hc
    -- The connection is missing, so all depends on how the attempts to make one come out.
    obtain ⟨⟨reached, transport⟩, ht⟩ :
        ∃ r, tryConnect t m.config.connectAttempts m.transport = r := ⟨_, rfl⟩
    cases reached with
    | true => exact .inr (.inl ⟨transport, hc, ht, start_of_reached hc ht interface⟩)
    | false => exact .inr (.inr ⟨transport, hc, ht, start_of_not_reached hc ht interface⟩)

theorem classifyLine_of_classifies {line : String} {classified : Classified}
    {classifier : Classifier} {transport : σ}
    (h : m.Classifies t line classified classifier transport) :
    m.classifyLine t line = (classified.signal, m.deliveries classified,
      m.withClassifier classifier transport) := by
  obtain ⟨exchanges, hrun⟩ := h
  rw [classifyLine, hrun]
  rfl

/-- What a line is classified to decides what its classification does to the monitor. -/
theorem exists_classifies (t : Transport σ κ) (m : Monitor η σ κ) (line : String) :
    ∃ classified classifier transport, m.Classifies t line classified classifier transport ∧
      m.classifyLine t line = (classified.signal, m.deliveries classified,
        m.withClassifier classifier transport) := by
  obtain ⟨⟨⟨classified, classifier⟩, exchanges, transport⟩, hrun⟩ :
      ∃ r, (m.classifier.classify m.registry.isRegistered line).run t.query m.transport = r :=
    ⟨_, rfl⟩
  have h : m.Classifies t line classified classifier transport := ⟨exchanges, hrun⟩
  exact ⟨classified, classifier, transport, h, classifyLine_of_classifies h⟩

private theorem of_start {interface : String} :
    Transition t m (.start interface) (m.start t interface).2.1 (m.start t interface).2.2 := by
  rcases start_cases t m interface with ⟨hc, h⟩ | ⟨transport, hc, ht, h⟩ | ⟨transport, hc, ht, h⟩
  · rw [h]
    exact .startConnected interface hc
  · rw [h]
    exact .startReached interface transport hc ht
  · rw [h]
    exact .startFailed interface transport hc ht

private theorem of_connectCrash {attempts : Nat} (h : m.connectCrash? t attempts = some m') :
    Transition t m (.startCrash attempts) [] m' := by
  rw [connectCrash?] at h
  split at h
  · cases h
  · next hn =>
    rw [not_or, Bool.not_eq_true, Nat.not_le] at hn
    split at h
    · cases h
    · next transport ht =>
      cases h
      exact .startCrash transport hn.1 hn.2 ht

private theorem of_processLine {line : String} :
    Transition t m (.processLine line) (m.processLine t line).2.1 (m.processLine t line).2.2 := by
  obtain ⟨classified, classifier, transport, h, hl⟩ := exists_classifies t m line
  rw [processLine, hl]
  cases hs : classified.signal with
  | goOn => exact .processGoOn line h hs
  | terminate => exact .processTerminate line h hs

private theorem of_check {i : Nat} (hr : m.readers[i]? = some .checking) :
    Transition t m (.check i) [] (m.check i) := by
  rw [check]
  split
  · next hc => exact .checkOn hr hc
  · next hc => exact .checkEnd hr (Bool.not_eq_true _ ▸ hc)

private theorem of_handle {i : Nat} {line : String} (hr : m.readers[i]? = some (.holding line)) :
    Transition t m (.handle i) (m.handle t i line).1 (m.handle t i line).2 := by
  obtain ⟨classified, classifier, transport, h, hl⟩ := exists_classifies t m line
  rw [handle, hl]
  cases hs : classified.signal with
  | goOn => exact .handleGoOn hr h hs
  | terminate => exact .handleTerminate hr h hs

/-- A step of the monitor is one of the things that its section can do. -/
theorem Transition.of_step {action : Action η} {calls : List (Call η)}
    (h : m.step t action = some (calls, m')) : Transition t m action calls m' := by
  cases action with
  | register interface kind handler =>
    -- The sections of callers can always be gone through, so `step` only has to be computed.
    obtain ⟨rfl, rfl⟩ : [] = calls ∧ _ = m' := by simpa [step] using h
    exact .register interface kind handler
  | start interface =>
    obtain ⟨rfl, rfl⟩ : (m.start t interface).2.1 = calls ∧ (m.start t interface).2.2 = m' := by
      simpa [step, Prod.ext_iff] using h
    exact of_start
  | startCrash attempts =>
    -- The exception among them: there must be an attempt to crash.
    obtain ⟨m₁, h₁, hm⟩ := Option.map_eq_some_iff.1 h
    cases hm
    exact of_connectCrash h₁
  | stop interface =>
    obtain ⟨rfl, rfl⟩ : (m.stop interface).1 = calls ∧ (m.stop interface).2 = m' := by
      simpa [step, Prod.ext_iff] using h
    exact .stop interface
  | stopAll =>
    obtain ⟨rfl, rfl⟩ : [] = calls ∧ m.stopAll = m' := by simpa [step] using h
    exact .stopAll
  | setMonitoring interface enabled =>
    obtain ⟨rfl, rfl⟩ : [] = calls ∧ _ = m' := by simpa [step] using h
    exact .setMonitoring interface enabled
  | broadcast interface event =>
    obtain ⟨rfl, rfl⟩ : m.broadcast interface event = calls ∧ m = m' := by simpa [step] using h
    exact .broadcast interface event
  | processLine line =>
    obtain ⟨rfl, rfl⟩ :
        (m.processLine t line).2.1 = calls ∧ (m.processLine t line).2.2 = m' := by
      simpa [step, Prod.ext_iff] using h
    exact of_processLine
  | processCrash commands =>
    obtain ⟨rfl, rfl⟩ : [] = calls ∧ m.breakOff t commands = m' := by simpa [step] using h
    exact .processCrash commands
  | join =>
    obtain ⟨rfl, rfl⟩ : [] = calls ∧ m = m' := by simpa [step] using h
    exact .join
  | check i =>
    -- From here on a reader must stand at the right place. Elsewhere there is no step, which is the
    -- second case of every split.
    simp only [step] at h
    split at h
    · next hr =>
      obtain ⟨rfl, rfl⟩ : [] = calls ∧ m.check i = m' := by simpa using h
      exact of_check hr
    · cases h
  | await i =>
    simp only [step] at h
    split at h
    · next hr =>
      obtain ⟨rfl, rfl⟩ : [] = calls ∧ m.await t i = m' := by simpa using h
      exact .await hr
    · cases h
  | receive i line =>
    simp only [step] at h
    split at h
    · next source hr =>
      obtain ⟨rfl, rfl⟩ : [] = calls ∧ m.receive t i source line = m' := by simpa using h
      exact .receive line hr
    · cases h
  | crash i =>
    simp only [step] at h
    split at h
    · next source hr =>
      obtain ⟨rfl, rfl⟩ : [] = calls ∧ m.crash t i source = m' := by simpa using h
      exact .crash hr
    · cases h
  | handle i =>
    -- What the reader does next is for the line to say; `of_handle` tells the two ways apart.
    simp only [step] at h
    split at h
    · next line hr =>
      obtain ⟨rfl, rfl⟩ : (m.handle t i line).1 = calls ∧ (m.handle t i line).2 = m' := by
        simpa [Prod.ext_iff] using h
      exact of_handle hr
    · cases h
  | handleCrash i commands =>
    simp only [step] at h
    split at h
    · next line hr =>
      obtain ⟨rfl, rfl⟩ : [] = calls ∧ m.handleCrash t i commands = m' := by simpa using h
      exact .handleCrash commands hr
    · cases h
  | giveUp i =>
    simp only [step] at h
    split at h
    · next hr =>
      obtain ⟨rfl, rfl⟩ : (m.giveUp t i).1 = calls ∧ (m.giveUp t i).2 = m' := by
        simpa [Prod.ext_iff] using h
      exact .giveUp hr
    · cases h

/-! ### Runs -/

/-- A run of some sections is a step and a run of the others. -/
theorem steps_cons_eq_some_iff {action : Action η} {actions : List (Action η)}
    {calls : List (Call η)} :
    m.steps t (action :: actions) = some (calls, m')
      ↔ ∃ calls₁ m₁ calls₂, m.step t action = some (calls₁, m₁)
        ∧ m₁.steps t actions = some (calls₂, m') ∧ calls = calls₁ ++ calls₂ := by
  constructor
  · intro h
    simp only [steps, Option.bind_eq_bind, Option.bind_eq_some_iff, Option.pure_def,
      Option.some.injEq, Prod.mk.injEq] at h
    obtain ⟨⟨calls₁, m₁⟩, h₁, ⟨calls₂, m₂⟩, h₂, rfl, rfl⟩ := h
    exact ⟨calls₁, m₁, calls₂, h₁, h₂, rfl⟩
  · rintro ⟨calls₁, m₁, calls₂, h₁, h₂, rfl⟩
    simp [steps, h₁, h₂]

/-- A run leads from a reachable state to a reachable one. -/
theorem Reachable.steps {config : Config} {transport : σ} {actions : List (Action η)}
    {calls : List (Call η)} (h : Reachable t config transport m)
    (hs : m.steps t actions = some (calls, m')) : Reachable t config transport m' := by
  induction actions generalizing m calls with
  | nil =>
    obtain ⟨rfl, rfl⟩ : [] = calls ∧ m = m' := by simpa [Monitor.steps] using hs
    exact h
  | cons action actions ih =>
    obtain ⟨calls₁, m₁, calls₂, h₁, h₂, rfl⟩ := steps_cons_eq_some_iff.1 hs
    exact ih (h.step h₁) h₂

end SupplicantWatch.Monitor
