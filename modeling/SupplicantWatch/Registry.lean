import SupplicantWatch.Event.Basic

/-!
# Handlers and who hears what

Handlers register for one kind of event on one interface. An event for an interface with handlers
goes to those of its kind there, while the interface is monitored; any other event goes to the
handlers of its kind on every monitored interface, in the order of the names. Main statements: what
each operation does to the handlers of an interface and to its monitoring, and whom an event
reaches (`dispatch_of_isRegistered`, `dispatch_of_not_isRegistered`, `dispatch_none`).
-/

namespace SupplicantWatch

/-- The handlers of one interface: those of each kind of event in the order of registration. -/
abbrev Handlers (η : Type) : Type :=
  EventKind → List η

def Handlers.none {η : Type} : Handlers η :=
  fun _ => []

def Handlers.add {η : Type} (handlers : Handlers η) (kind : EventKind) (handler : η) :
    Handlers η :=
  fun k => if k = kind then handlers k ++ [handler] else handlers k

/-- For each interface that has ever been registered for its handlers, and for each one that was
ever switched whether it is monitored. -/
structure Registry (η : Type) where
  handlers : Table (Handlers η)
  monitoring : Table Bool

structure Call (η : Type) where
  handler : η
  event : Event
deriving DecidableEq

namespace Registry

variable {η : Type}

def empty : Registry η :=
  ⟨.empty, .empty⟩

def handlersOf (r : Registry η) (interface : String) : Handlers η :=
  (r.handlers.get? interface).getD .none

/-- Adds a handler. A handler that is registered twice is called twice. -/
def register (r : Registry η) (interface : String) (kind : EventKind) (handler : η) : Registry η :=
  { r with handlers := r.handlers.insert interface ((r.handlersOf interface).add kind handler) }

def registerAll (r : Registry η) (interface : String) (handler : η) : Registry η :=
  EventKind.all.foldl (fun r kind => r.register interface kind handler) r

def setMonitoring (r : Registry η) (interface : String) (enabled : Bool) : Registry η :=
  { r with monitoring := r.monitoring.insert interface enabled }

def isMonitoring (r : Registry η) (interface : String) : Bool :=
  (r.monitoring.get? interface).getD false

def clearMonitoring (r : Registry η) : Registry η :=
  { r with monitoring := r.monitoring.mapValues fun _ => false }

/-- Whether a handler was ever registered for an interface. -/
def isRegistered (r : Registry η) (interface : String) : Bool :=
  (r.handlers.get? interface).isSome

/-- The monitored interfaces in the order of their names. -/
def monitored (r : Registry η) : List String :=
  (r.monitoring.toList.filter (·.2)).map (·.1)

/-- The handlers of an interface for a kind of event, in the order of registration. -/
def handlersFor (r : Registry η) (interface : String) (kind : EventKind) : List η :=
  r.handlersOf interface kind

/-- The handlers that an event of the given kind for the given interface goes to. -/
def targets (r : Registry η) (interface : Option String) (kind : EventKind) : List η :=
  -- An interface that nobody has registered for is as good as none.
  match interface.filter r.isRegistered with
  | some interface => if r.isMonitoring interface then r.handlersFor interface kind else []
  | none => r.monitored.flatMap fun interface => r.handlersFor interface kind

/-- The calls that deliver an event for an interface, or for every interface. -/
def dispatch (r : Registry η) (interface : Option String) (event : Event) : List (Call η) :=
  (r.targets interface event.kind).map fun handler => ⟨handler, event⟩

/-! ### Handlers -/

@[simp] theorem handlersFor_empty (interface : String) (kind : EventKind) :
    (empty : Registry η).handlersFor interface kind = [] := rfl

@[simp] theorem isRegistered_empty (interface : String) :
    (empty : Registry η).isRegistered interface = false := rfl

/-- A registration adds a handler behind those of its interface and kind, and no other. -/
theorem handlersFor_register (r : Registry η) (interface i : String) (kind k : EventKind)
    (handler : η) :
    (r.register interface kind handler).handlersFor i k
      = r.handlersFor i k ++ if interface = i ∧ kind = k then [handler] else [] := by
  simp only [handlersFor, handlersOf, register, Table.get?_insert]
  by_cases hi : i = interface
  · subst hi
    by_cases hk : k = kind
    · simp [Handlers.add, hk]
    · simp [Handlers.add, hk, Ne.symm hk]
  · simp [hi, Ne.symm hi]

@[simp] theorem handlersFor_setMonitoring (r : Registry η) (interface i : String) (enabled : Bool)
    (kind : EventKind) :
    (r.setMonitoring interface enabled).handlersFor i kind = r.handlersFor i kind := rfl

@[simp] theorem handlersFor_clearMonitoring (r : Registry η) (i : String) (kind : EventKind) :
    r.clearMonitoring.handlersFor i kind = r.handlersFor i kind := rfl

theorem isRegistered_register (r : Registry η) (interface i : String) (kind : EventKind)
    (handler : η) :
    (r.register interface kind handler).isRegistered i
      = (decide (interface = i) || r.isRegistered i) := by
  simp only [isRegistered, register, Table.get?_insert]
  by_cases hi : i = interface
  · simp [hi]
  · simp [hi, Ne.symm hi]

@[simp] theorem isRegistered_setMonitoring (r : Registry η) (interface i : String)
    (enabled : Bool) : (r.setMonitoring interface enabled).isRegistered i = r.isRegistered i := rfl

@[simp] theorem isRegistered_clearMonitoring (r : Registry η) (i : String) :
    r.clearMonitoring.isRegistered i = r.isRegistered i := rfl

/-- Handlers for some kinds stand as often behind those of a kind as it is among them. -/
theorem handlersFor_foldl_register (r : Registry η) (interface i : String) (handler : η)
    (kinds : List EventKind) (k : EventKind) :
    (kinds.foldl (fun r kind => r.register interface kind handler) r).handlersFor i k
      = r.handlersFor i k
        ++ if interface = i then List.replicate (kinds.count k) handler else [] := by
  induction kinds generalizing r with
  | nil => simp
  | cons kind kinds ih =>
    rw [List.foldl_cons, ih, handlersFor_register, List.append_assoc]
    by_cases hi : interface = i
    · by_cases hk : kind = k
      · simp [hi, hk, List.replicate_succ]
      · simp [hi, hk]
    · simp [hi]

/-- A handler for every kind stands once behind those of each kind of its interface. -/
theorem handlersFor_registerAll (r : Registry η) (interface i : String) (handler : η)
    (k : EventKind) :
    (r.registerAll interface handler).handlersFor i k
      = r.handlersFor i k ++ if interface = i then [handler] else [] := by
  rw [registerAll, handlersFor_foldl_register, EventKind.count_all]
  rfl

theorem isRegistered_foldl_register (r : Registry η) (interface i : String) (handler : η)
    (kinds : List EventKind) :
    (kinds.foldl (fun r kind => r.register interface kind handler) r).isRegistered i
      = (decide (kinds ≠ [] ∧ interface = i) || r.isRegistered i) := by
  induction kinds generalizing r with
  | nil => simp
  | cons kind kinds ih =>
    rw [List.foldl_cons, ih, isRegistered_register]
    by_cases hi : interface = i <;> simp [hi]

theorem isRegistered_registerAll (r : Registry η) (interface i : String) (handler : η) :
    (r.registerAll interface handler).isRegistered i
      = (decide (interface = i) || r.isRegistered i) := by
  have hne : EventKind.all ≠ [] := List.cons_ne_nil _ _
  rw [registerAll, isRegistered_foldl_register]
  simp [hne]

/-- Registrations switch no monitoring. -/
theorem monitoring_registerAll (r : Registry η) (interface : String) (handler : η) :
    (r.registerAll interface handler).monitoring = r.monitoring := by
  rw [registerAll]
  induction EventKind.all generalizing r with
  | nil => rfl
  | cons kind kinds ih => rw [List.foldl_cons, ih, register]

/-- An interface that was never registered for has no handlers. -/
theorem handlersFor_eq_nil {r : Registry η} {i : String} (h : r.isRegistered i = false)
    (kind : EventKind) : r.handlersFor i kind = [] := by
  have hn : r.handlers.get? i = none := by simpa [isRegistered] using h
  simp [handlersFor, handlersOf, hn, Handlers.none]

/-! ### Monitoring -/

@[simp] theorem isMonitoring_empty (i : String) : (empty : Registry η).isMonitoring i = false := rfl

@[simp] theorem isMonitoring_register (r : Registry η) (interface i : String) (kind : EventKind)
    (handler : η) : (r.register interface kind handler).isMonitoring i = r.isMonitoring i := rfl

theorem isMonitoring_setMonitoring (r : Registry η) (interface i : String) (enabled : Bool) :
    (r.setMonitoring interface enabled).isMonitoring i
      = if interface = i then enabled else r.isMonitoring i := by
  simp only [isMonitoring, setMonitoring, Table.get?_insert]
  by_cases hi : i = interface
  · simp [hi]
  · simp [hi, Ne.symm hi]

@[simp] theorem isMonitoring_clearMonitoring (r : Registry η) (i : String) :
    r.clearMonitoring.isMonitoring i = false := by
  simp only [isMonitoring, clearMonitoring, Table.get?_mapValues]
  cases r.monitoring.get? i <;> rfl

theorem mem_monitored {r : Registry η} {i : String} :
    i ∈ r.monitored ↔ r.isMonitoring i = true := by
  have h : i ∈ r.monitored ↔ r.monitoring.get? i = some true := by
    simp [monitored, Table.get?_eq_some_iff]
  rw [h, isMonitoring]
  cases r.monitoring.get? i <;> simp

/-- The monitored interfaces stand in the order of their names, each once. -/
theorem pairwise_monitored (r : Registry η) : r.monitored.Pairwise (· < ·) := by
  refine List.pairwise_map.2 (List.Pairwise.filter _ ?_)
  exact r.monitoring.sorted

/-! ### Deliveries -/

/-- An event for an interface with handlers goes to those of its kind there, if it is monitored. -/
theorem dispatch_of_isRegistered {r : Registry η} {i : String} (h : r.isRegistered i = true)
    (event : Event) :
    r.dispatch (some i) event
      = if r.isMonitoring i then (r.handlersFor i event.kind).map (⟨·, event⟩) else [] := by
  have ht : r.targets (some i) event.kind
      = if r.isMonitoring i then r.handlersFor i event.kind else [] := by
    simp [targets, Option.filter, h]
  rw [dispatch, ht]
  split <;> rfl

/-- An event for no interface goes to every monitored one. -/
theorem dispatch_none (r : Registry η) (event : Event) :
    r.dispatch none event
      = r.monitored.flatMap fun i => (r.handlersFor i event.kind).map (⟨·, event⟩) := by
  rw [dispatch, targets, Option.filter_none, List.map_flatMap]

/-- An event for an interface without handlers goes to every monitored one. -/
theorem dispatch_of_not_isRegistered {r : Registry η} {i : String} (h : r.isRegistered i = false)
    (event : Event) : r.dispatch (some i) event = r.dispatch none event := by
  simp [dispatch, targets, Option.filter, h]

end Registry

inductive CallEnd where
  | returned
  | crashed
deriving DecidableEq, Repr

/-- What a handler does to its surroundings when it is called, and how the call ends. -/
abbrev Behaviour (η σ : Type) : Type :=
  Call η → σ → CallEnd × σ

/-- Makes some calls in order. A call that crashes ends itself alone. -/
def Call.perform {η σ : Type} (act : Behaviour η σ) : List (Call η) → σ → List CallEnd × σ
  | [], state => ([], state)
  | call :: calls, state =>
    let (ending, state) := act call state
    let (endings, state) := perform act calls state
    (ending :: endings, state)

end SupplicantWatch
