/-!
# Dialogues with the supplicant

Reading a line may take asking the supplicant for more. A dialogue is a computation with such
questions in it, apart from who answers them; run against a daemon, which may be any function with
a state of its own, it yields its result and the exchanges it took. Main statements: how `run`
passes through `bind` and through `onInterface`, and `Yields.run`, what holds of every result that a
dialogue can have holds of the one it has with a daemon.
-/

namespace SupplicantWatch

/-- A computation that may ask the supplicant for replies. -/
inductive Dialogue (α : Type) where
  | done (result : α)
  | ask (command : String) (next : Option String → Dialogue α)

structure Exchange where
  command : String
  reply : Option String
deriving DecidableEq, Repr

/-- What a daemon in a given state replies to a command, and the state it is in afterwards. -/
abbrev Daemon (σ : Type) : Type :=
  σ → String → Option String × σ

def Daemon.silent : Daemon Unit :=
  fun _ _ => (none, ())

/-- The mark that names the interface a line or a command is about. -/
def interfaceMark : String :=
  "IFNAME="

def markInterface (interface text : String) : String :=
  interfaceMark ++ interface ++ " " ++ text

namespace Dialogue

variable {α β σ : Type}

def bind (d : Dialogue α) (f : α → Dialogue β) : Dialogue β :=
  match d with
  | done result => f result
  | ask command next => ask command fun reply => (next reply).bind f

instance : Monad Dialogue where
  pure := done
  bind := bind

def query (command : String) : Dialogue (Option String) :=
  ask command done

/-- The dialogue with every command marked as being about an interface. -/
def onInterface (interface : String) : Dialogue α → Dialogue α
  | done result => done result
  | ask command next =>
    ask (markInterface interface command) fun reply => (next reply).onInterface interface

/-- The result of a dialogue with a daemon, the exchanges in order, and what becomes of the
daemon. -/
def run (daemon : Daemon σ) : Dialogue α → σ → α × List Exchange × σ
  | done result, state => (result, [], state)
  | ask command next, state =>
    let (reply, state) := daemon state command
    let (result, exchanges, state) := (next reply).run daemon state
    (result, ⟨command, reply⟩ :: exchanges, state)

/-- Every result that a dialogue can have, whatever the replies, is as said. -/
def Yields (p : α → Prop) : Dialogue α → Prop
  | done result => p result
  | ask _ next => ∀ reply, (next reply).Yields p

/-- The result of a dialogue with a daemon that never replies. -/
def unanswered : Dialogue α → α
  | done result => result
  | ask _ next => (next none).unanswered

@[simp] theorem run_done (daemon : Daemon σ) (result : α) (state : σ) :
    (done result).run daemon state = (result, [], state) := rfl

@[simp] theorem run_pure (daemon : Daemon σ) (result : α) (state : σ) :
    (pure result : Dialogue α).run daemon state = (result, [], state) := rfl

/-- A dialogue that goes on with the result of another takes the exchanges of both, in order. -/
theorem run_bind (daemon : Daemon σ) (d : Dialogue α) (f : α → Dialogue β) (state : σ) :
    (d >>= f).run daemon state
      = let (result, exchanges, state) := d.run daemon state
        let (result', exchanges', state) := (f result).run daemon state
        (result', exchanges ++ exchanges', state) := by
  change (d.bind f).run daemon state = _
  induction d generalizing state with
  | done result => simp [bind, run]
  | ask command next ih => simp [bind, run, ih]

theorem run_silent (d : Dialogue α) : (d.run Daemon.silent ()).1 = d.unanswered := by
  induction d with
  | done result => rfl
  | ask command next ih => exact ih none

/-- Every command of a dialogue on an interface carries the mark of that interface. -/
theorem exists_command_eq_of_mem_run_onInterface (daemon : Daemon σ) (interface : String)
    (d : Dialogue α) (state : σ) (e : Exchange)
    (h : e ∈ ((d.onInterface interface).run daemon state).2.1) :
    ∃ command, e.command = markInterface interface command := by
  induction d generalizing state with
  | done result => simp [onInterface] at h
  | ask command next ih =>
    simp only [onInterface, run, List.mem_cons] at h
    rcases h with rfl | h
    · exact ⟨command, rfl⟩
    · exact ih _ _ h

theorem Yields.run {p : α → Prop} {d : Dialogue α} (h : d.Yields p) (daemon : Daemon σ)
    (state : σ) : p (d.run daemon state).1 := by
  induction d generalizing state with
  | done result => exact h
  | ask command next ih => exact ih _ (h _) _

theorem Yields.onInterface {p : α → Prop} {d : Dialogue α} (h : d.Yields p) (interface : String) :
    (d.onInterface interface).Yields p := by
  induction d with
  | done result => exact h
  | ask command next ih => exact fun reply => ih reply (h reply)

/-- A dialogue that goes on with the result of another has the results that it can then have. -/
theorem yields_bind_iff {p : β → Prop} {d : Dialogue α} {f : α → Dialogue β} :
    (d >>= f).Yields p ↔ d.Yields fun result => (f result).Yields p := by
  change (d.bind f).Yields p ↔ _
  induction d with
  | done result => exact Iff.rfl
  | ask command next ih => exact forall_congr' ih

theorem yields_map_iff {p : β → Prop} {f : α → β} {d : Dialogue α} :
    (f <$> d).Yields p ↔ d.Yields fun result => p (f result) :=
  yields_bind_iff

theorem yields_of_forall {p : α → Prop} (h : ∀ result, p result) (d : Dialogue α) :
    d.Yields p := by
  induction d with
  | done result => exact h result
  | ask command next ih => exact ih

/-- A function of the result of any dialogue has the values of that function only. -/
theorem yields_map {p : β → Prop} {f : α → β} (h : ∀ result, p (f result)) (d : Dialogue α) :
    (f <$> d).Yields p :=
  yields_map_iff.2 (yields_of_forall h d)

end Dialogue

end SupplicantWatch
