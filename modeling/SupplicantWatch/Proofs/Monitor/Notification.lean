import Mathlib.Tactic.Common
import SupplicantWatch.Proofs.Monitor.Transition
import SupplicantWatch.Proofs.Registry.History
import SupplicantWatch.Replay

/-!
# Who is told that monitoring starts or stops

Starting the monitoring of an interface tells whether the supplicant was reached, stopping it that
the supplicant is gone. Either notification is given out like any other event, with the interface
monitored for as long as that takes, so it goes to the handlers of the interface if it has any, and
astray if it has none. Main statement: `givenToHandlers_iff`, when a notification goes to the
handlers of the interface and to no other.
-/

namespace SupplicantWatch

open Registry (Operation registered)

/-- The registration that a section makes, if it makes one. -/
def Action.registration? {η : Type} : Action η → Option (Operation η)
  | register interface kind handler => some (.register interface kind handler)
  | _ => none

namespace Registry

variable {η : Type} {r r' : Registry η}

lemma isRegistered_congr (h : r.handlers = r'.handlers) (i : String) :
    r.isRegistered i = r'.isRegistered i := by
  rw [isRegistered, isRegistered, h]

lemma handlersFor_congr (h : r.handlers = r'.handlers) (i : String) (k : EventKind) :
    r.handlersFor i k = r'.handlersFor i k := by
  rw [handlersFor, handlersFor, handlersOf, handlersOf, h]

/-- What an operation does to the handlers depends on nothing but the handlers. -/
lemma handlers_apply_congr (h : r.handlers = r'.handlers) (op : Operation η) :
    (r.apply op).handlers = (r'.apply op).handlers := by
  cases op with
  | register interface kind handler =>
    simp only [apply, register, handlersOf, h]
  | setMonitoring interface enabled => exact h
  | clearMonitoring => exact h

end Registry

namespace Monitor

variable {η σ κ : Type} {t : Transport σ κ} {m m' : Monitor η σ κ}

/-- The registrations among some sections, in order. -/
def registrations (actions : List (Action η)) : List (Operation η) :=
  actions.filterMap Action.registration?

/-- The calls that give an event to the handlers registered for an interface, once for each
registration and in order, and to no other handler. -/
def callsOfHandlers (actions : List (Action η)) (i : String) (event : Event) : List (Call η) :=
  (registered (registrations actions) i event.kind).map (⟨·, event⟩)

/-- The event that tells how an attempt to start monitoring came out. -/
def outcomeEvent : Except MonitorError Unit → Event
  | .ok () => .supplicantConnection
  | .error _ => .supplicantDisconnection

/-! ### The handlers after a run -/

/-- No section but a registration does anything to the handlers. -/
lemma handlers_of_transition {action : Action η} {calls : List (Call η)}
    (h : Transition t m action calls m') :
    m'.registry.handlers
      = (action.registration?.toList.foldl Registry.apply m.registry).handlers := by
  cases h with
  | receive line =>
    unfold Monitor.receive
    split
    · rfl
    · rfl
  | _ => rfl

/-- The handlers after a run are those that its registrations alone lead to. -/
lemma handlers_of_steps {actions : List (Action η)} {calls : List (Call η)} {r : Registry η}
    (h : m.steps t actions = some (calls, m')) (hr : m.registry.handlers = r.handlers) :
    m'.registry.handlers = ((registrations actions).foldl Registry.apply r).handlers := by
  induction actions generalizing m calls r with
  | nil =>
    obtain ⟨rfl, rfl⟩ : [] = calls ∧ m = m' := by simpa [Monitor.steps] using h
    exact hr
  | cons action actions ih =>
    obtain ⟨calls₁, m₁, calls₂, h₁, h₂, rfl⟩ := steps_cons_eq_some_iff.1 h
    have hm := handlers_of_transition (.of_step h₁)
    cases ha : action.registration? with
    | none =>
      rw [ha] at hm
      rw [registrations, List.filterMap_cons_none ha]
      exact ih h₂ (hm.trans hr)
    | some op =>
      rw [ha] at hm
      rw [registrations, List.filterMap_cons_some ha, List.foldl_cons]
      exact ih h₂ (hm.trans (Registry.handlers_apply_congr hr op))

/-! ### Notifications -/

/-- The calls of a notification about an interface, which is monitored for as long as they take. -/
def notify (m : Monitor η σ κ) (i : String) (event : Event) : List (Call η) :=
  (m.setMonitoring i true).registry.dispatch (some i) event

lemma calls_start (m : Monitor η σ κ) (t : Transport σ κ) (i : String) :
    (m.start t i).2.1 = m.notify i (outcomeEvent (m.start t i).1) := by
  rcases start_cases t m i with ⟨-, h⟩ | ⟨transport, -, -, h⟩ | ⟨transport, -, -, h⟩
  · rw [h]
    rfl
  · rw [h]
    rfl
  · rw [h]
    rfl

lemma notify_of_isRegistered {i : String} (h : m.registry.isRegistered i = true) (event : Event) :
    m.notify i event = (m.registry.handlersFor i event.kind).map (⟨·, event⟩) := by
  have hr : (m.setMonitoring i true).registry.isRegistered i = true := h
  have hi : (m.setMonitoring i true).registry.isMonitoring i = true := by
    rw [setMonitoring, Registry.isMonitoring_setMonitoring, if_pos rfl]
  rw [notify, Registry.dispatch_of_isRegistered hr, if_pos hi]
  rfl

/-- A notification about an interface without handlers is given to nobody exactly if no interface
that is monitored has handlers for it. -/
lemma notify_eq_nil_iff {i : String} (h : m.registry.isRegistered i = false) (event : Event) :
    m.notify i event = []
      ↔ ∀ j, m.registry.isMonitoring j = true → m.registry.handlersFor j event.kind = [] := by
  have hr : (m.setMonitoring i true).registry.isRegistered i = false := h
  rw [notify, Registry.dispatch_of_not_isRegistered hr, Registry.dispatch_none,
    List.flatMap_eq_nil_iff]
  constructor
  · intro hn j hj
    refine List.map_eq_nil_iff.1 (hn j ?_)
    rw [Registry.mem_monitored, setMonitoring, Registry.isMonitoring_setMonitoring]
    split_ifs
    · rfl
    · exact hj
  · intro hn j hj
    rw [Registry.mem_monitored, setMonitoring, Registry.isMonitoring_setMonitoring] at hj
    rw [List.map_eq_nil_iff]
    split_ifs at hj with hij
    · subst hij
      exact Registry.handlersFor_eq_nil h event.kind
    · exact hn j hj

/-- A notification after a run is given to the handlers of its interface and to no other exactly if
the interface was registered for, or no monitored interface has handlers for it. -/
lemma notify_eq_callsOfHandlers_iff {config : Config} {transport : σ} {actions : List (Action η)}
    {calls : List (Call η)} (h : (new config transport).steps t actions = some (calls, m))
    (i : String) (event : Event) :
    m.notify i event = callsOfHandlers actions i event
      ↔ (registrations actions).any (Operation.registersFor i) = true
        ∨ ∀ j, m.registry.isMonitoring j = true →
            registered (registrations actions) j event.kind = [] := by
  have hm : m.registry.handlers = (Registry.ofHistory (registrations actions)).handlers :=
    handlers_of_steps h rfl
  have hf (j : String) : m.registry.handlersFor j event.kind
      = registered (registrations actions) j event.kind := by
    rw [Registry.handlersFor_congr hm, Registry.handlersFor_ofHistory]
  have hr := Registry.isRegistered_congr hm i
  rw [Registry.isRegistered_ofHistory] at hr
  cases ha : (registrations actions).any (Operation.registersFor i) with
  | true =>
    rw [notify_of_isRegistered (hr.trans ha), hf]
    exact iff_of_true rfl (.inl rfl)
  | false =>
    have hn : callsOfHandlers actions i event = [] := by
      rw [callsOfHandlers, ← hf, Registry.handlersFor_eq_nil (hr.trans ha)]
      rfl
    rw [hn, notify_eq_nil_iff (hr.trans ha)]
    simp only [hf, Bool.false_eq_true, false_or]

/-- Whatever happened before, what is told when the monitoring of an interface is started or stopped
goes to the handlers registered for the interface, once for each registration and in order, and to
no other, exactly if the interface was ever registered for or no monitored interface has handlers
for it. -/
theorem givenToHandlers_iff {config : Config} {transport : σ} {actions : List (Action η)}
    {calls : List (Call η)} (h : (new config transport).steps t actions = some (calls, m))
    (i : String) :
    ((m.start t i).2.1 = callsOfHandlers actions i (outcomeEvent (m.start t i).1)
      ↔ (registrations actions).any (Operation.registersFor i) = true
        ∨ ∀ j, m.registry.isMonitoring j = true →
            registered (registrations actions) j (outcomeEvent (m.start t i).1).kind = [])
    ∧ ((m.stop i).1 = callsOfHandlers actions i .supplicantDisconnection
      ↔ (registrations actions).any (Operation.registersFor i) = true
        ∨ ∀ j, m.registry.isMonitoring j = true →
            registered (registrations actions) j .supplicantDisconnection = []) := by
  refine ⟨?_, notify_eq_callsOfHandlers_iff h i .supplicantDisconnection⟩
  rw [calls_start]
  exact notify_eq_callsOfHandlers_iff h i _

/-- The handlers of an interface hear of its start and of its stop, one that registered twice hears
twice, and those of another monitored interface hear nothing. -/
theorem givenToHandlers_registeredTwice :
    ∃ m : Monitor Nat Unit Unit,
      (new {} ()).steps Replay.transport
          [.register "wlan0" .supplicantConnection 0, .register "wlan1" .supplicantConnection 1,
            .setMonitoring "wlan1" true, .register "wlan0" .supplicantDisconnection 2,
            .register "wlan0" .supplicantConnection 0]
        = some ([], m)
      ∧ (m.start Replay.transport "wlan0").2.1
        = [⟨0, .supplicantConnection⟩, ⟨0, .supplicantConnection⟩]
      ∧ (m.stop "wlan0").1 = [⟨2, .supplicantDisconnection⟩] := by
  have h : (new {} () : Monitor Nat Unit Unit).steps Replay.transport
      [.register "wlan0" .supplicantConnection 0, .register "wlan1" .supplicantConnection 1,
        .setMonitoring "wlan1" true, .register "wlan0" .supplicantDisconnection 2,
        .register "wlan0" .supplicantConnection 0] = some ([], _) := rfl
  obtain ⟨hstart, hstop⟩ := givenToHandlers_iff h "wlan0"
  exact ⟨_, h, hstart.2 (.inl rfl), hstop.2 (.inl rfl)⟩

/-- Nobody registered for the interface that is stopped, but a handler of another one is told that
the supplicant is gone. -/
theorem stop_goes_astray :
    ∃ m : Monitor Nat Unit Unit,
      (new {} ()).steps Replay.transport
          [.register "wlan0" .supplicantDisconnection 0, .setMonitoring "wlan0" true]
        = some ([], m)
      ∧ callsOfHandlers
          [.register "wlan0" .supplicantDisconnection 0, .setMonitoring "wlan0" true]
          "wlan9" .supplicantDisconnection = []
      ∧ (m.stop "wlan9").1 = [⟨0, .supplicantDisconnection⟩] :=
  ⟨_, rfl, rfl, rfl⟩

end Monitor

end SupplicantWatch
