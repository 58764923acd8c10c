import Mathlib.Tactic.Common
import Mathlib.Data.List.Induction
import SupplicantWatch.Proofs.Text.ByteOrder
import SupplicantWatch.Registry

/-!
# Deliveries and the history of a registry

A registry has no memory of its own order beyond that of the operations it went through: what it
delivers can be read off the list of them, oldest first. Main statement: `performed_ofHistory`, the
calls that are made for an event after any history.
-/

namespace SupplicantWatch

namespace Registry

variable {η σ : Type}

/-- What can be done to a registry. -/
inductive Operation (η : Type) where
  | register (interface : String) (kind : EventKind) (handler : η)
  | setMonitoring (interface : String) (enabled : Bool)
  | clearMonitoring
deriving DecidableEq

namespace Operation

/-- Whether an operation registers a handler for an interface. -/
def registersFor (i : String) : Operation η → Bool
  | register interface _ _ => interface = i
  | _ => false

/-- The handler that an operation registers for an interface and a kind of event. -/
def handler? (i : String) (k : EventKind) : Operation η → Option η
  | register interface kind handler => if interface = i ∧ kind = k then some handler else none
  | _ => none

/-- What an operation switches the monitoring of an interface to. -/
def switch? (i : String) : Operation η → Option Bool
  | register .. => none
  | setMonitoring interface enabled => if interface = i then some enabled else none
  | clearMonitoring => some false

end Operation

/-- The handlers that a history registers for an interface and a kind of event. -/
def registered (past : List (Operation η)) (i : String) (k : EventKind) : List η :=
  past.filterMap (Operation.handler? i k)

/-- What the latest operation that switches the monitoring of an interface switched it to. -/
def switchedOn (past : List (Operation η)) (i : String) : Bool :=
  (past.reverse.findSome? (Operation.switch? i)).getD false

/-- The registry after an operation. -/
def apply (r : Registry η) : Operation η → Registry η
  | .register interface kind handler => r.register interface kind handler
  | .setMonitoring interface enabled => r.setMonitoring interface enabled
  | .clearMonitoring => r.clearMonitoring

/-- The registry after a history. -/
def ofHistory (past : List (Operation η)) : Registry η :=
  past.foldl apply empty

/-! ### One operation -/

lemma isRegistered_apply (r : Registry η) (op : Operation η) (i : String) :
    (r.apply op).isRegistered i = (op.registersFor i || r.isRegistered i) := by
  cases op with
  | register interface kind handler => exact isRegistered_register r interface i kind handler
  | setMonitoring interface enabled => rfl
  | clearMonitoring => rfl

lemma handlersFor_apply (r : Registry η) (op : Operation η) (i : String) (k : EventKind) :
    (r.apply op).handlersFor i k = r.handlersFor i k ++ (op.handler? i k).toList := by
  cases op with
  | register interface kind handler =>
    rw [apply, handlersFor_register, Operation.handler?]
    split_ifs <;> rfl
  | setMonitoring interface enabled => exact (List.append_nil _).symm
  | clearMonitoring => exact (List.append_nil _).symm

lemma isMonitoring_apply (r : Registry η) (op : Operation η) (i : String) :
    (r.apply op).isMonitoring i = (op.switch? i).getD (r.isMonitoring i) := by
  cases op with
  | register interface kind handler => rfl
  | setMonitoring interface enabled =>
    rw [apply, isMonitoring_setMonitoring, Operation.switch?]
    split_ifs <;> rfl
  | clearMonitoring => exact isMonitoring_clearMonitoring r i

/-! ### Any history -/

lemma ofHistory_append_singleton (past : List (Operation η)) (op : Operation η) :
    ofHistory (past ++ [op]) = (ofHistory past).apply op :=
  List.foldl_append

/-- An interface is registered for exactly if some operation registers a handler for it. -/
theorem isRegistered_ofHistory (past : List (Operation η)) (i : String) :
    (ofHistory past).isRegistered i = past.any (Operation.registersFor i) := by
  induction past using List.reverseRecOn with
  | nil => rfl
  | append_singleton past op ih =>
    rw [ofHistory_append_singleton, isRegistered_apply, ih, List.any_append, Bool.or_comm,
      List.any_cons, List.any_nil, Bool.or_false]

/-- The handlers of an interface for a kind of event are those registered, in that order. -/
theorem handlersFor_ofHistory (past : List (Operation η)) (i : String) (k : EventKind) :
    (ofHistory past).handlersFor i k = registered past i k := by
  induction past using List.reverseRecOn with
  | nil => rfl
  | append_singleton past op ih =>
    rw [ofHistory_append_singleton, handlersFor_apply, ih, registered, registered,
      List.filterMap_append]
    rfl

/-- An interface is monitored exactly if its monitoring was last switched on. -/
theorem isMonitoring_ofHistory (past : List (Operation η)) (i : String) :
    (ofHistory past).isMonitoring i = switchedOn past i := by
  induction past using List.reverseRecOn with
  | nil => rfl
  | append_singleton past op ih =>
    rw [ofHistory_append_singleton, isMonitoring_apply, ih, switchedOn, switchedOn,
      List.reverse_concat, List.findSome?_cons]
    cases op.switch? i <;> rfl

/-- The monitored interfaces stand in the order of the bytes of their names. -/
theorem pairwise_encode_monitored (r : Registry η) :
    r.monitored.Pairwise fun i j => Utf8.encode i.toList < Utf8.encode j.toList := by
  refine r.pairwise_monitored.imp ?_
  intro i j hij
  exact Utf8.encode_lt_encode_iff.2 (String.lt_iff.1 hij)

end Registry

/-! ### The calls that are made -/

/-- The behaviour of handlers that also keeps a record of the calls that were made. -/
def Behaviour.recorded {η σ : Type} (act : Behaviour η σ) : Behaviour η (List (Call η) × σ) :=
  fun call (made, state) =>
    let (ending, state) := act call state
    (ending, made ++ [call], state)

/-- Whatever the handlers do and however their calls end, every call is made, in order. -/
theorem Call.perform_recorded {η σ : Type} (act : Behaviour η σ) (calls made : List (Call η))
    (state : σ) :
    perform act.recorded calls (made, state)
      = ((perform act calls state).1, made ++ calls, (perform act calls state).2) := by
  induction calls generalizing made state with
  | nil => simp [perform]
  | cons call calls ih => simp [perform, Behaviour.recorded, ih]

namespace Registry

variable {η σ : Type}

/-- After any history, an event for an interface that was registered for is given to the handlers
registered there for its kind, if the monitoring of the interface was last switched on; any other
event is given to the handlers registered for its kind on every interface whose monitoring was last
switched on, in the order of the bytes of the names. This is so however the calls end. -/
theorem performed_ofHistory (past : List (Operation η)) (target : Option String) (event : Event)
    (act : Behaviour η σ) (state : σ) :
    ∃ names : List String,
      names.Pairwise (fun i j => Utf8.encode i.toList < Utf8.encode j.toList)
      ∧ (∀ i, i ∈ names ↔ switchedOn past i = true)
      ∧ (Call.perform act.recorded ((ofHistory past).dispatch target event) ([], state)).2.1
        = match target.filter fun i => past.any (Operation.registersFor i) with
          | some i =>
            if switchedOn past i then (registered past i event.kind).map (⟨·, event⟩) else []
          | none => names.flatMap fun i => (registered past i event.kind).map (⟨·, event⟩) := by
  refine ⟨(ofHistory past).monitored, pairwise_encode_monitored _, ?_, ?_⟩
  · intro i
    rw [mem_monitored, isMonitoring_ofHistory]
  · have hr : (ofHistory past).isRegistered = fun i => past.any (Operation.registersFor i) :=
      funext (isRegistered_ofHistory past)
    rw [Call.perform_recorded, List.nil_append, dispatch, targets, hr]
    simp only [isMonitoring_ofHistory, handlersFor_ofHistory]
    cases target.filter fun i => past.any (Operation.registersFor i) with
    | none => exact List.map_flatMap
    | some i =>
      dsimp only
      split_ifs <;> rfl

end Registry

end SupplicantWatch
