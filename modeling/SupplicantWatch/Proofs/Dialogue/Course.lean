import Mathlib.Tactic.Common
import SupplicantWatch.Dialogue

/-!
# Courses of a dialogue

A dialogue leaves the replies open. A course is one way in which it can go: the exchanges with the
replies that came, and the result that they led to. What holds of every course holds of the run
against any daemon, whatever state it is in. Main statements: `course_run`, and what the courses of
`bind` and of `onInterface` consist of.
-/

namespace SupplicantWatch

/-- The commands of some exchanges, in order. -/
def commandsOf (exchanges : List Exchange) : List String :=
  exchanges.map (·.command)

@[simp] lemma commandsOf_nil : commandsOf [] = [] := rfl

@[simp] lemma commandsOf_cons (e : Exchange) (exchanges : List Exchange) :
    commandsOf (e :: exchanges) = e.command :: commandsOf exchanges := rfl

@[simp] lemma commandsOf_append (exchanges exchanges' : List Exchange) :
    commandsOf (exchanges ++ exchanges') = commandsOf exchanges ++ commandsOf exchanges' :=
  List.map_append

namespace Dialogue

variable {α β σ : Type} {d : Dialogue α} {exchanges : List Exchange} {a a' : α} {b : β}

/-- A way in which a dialogue can go: the exchanges, and the result that they lead to. -/
inductive Course : Dialogue α → List Exchange → α → Prop where
  | done (result : α) : Course (done result) [] result
  | ask {command : String} {next : Option String → Dialogue α} (reply : Option String)
      {exchanges : List Exchange} {result : α} (h : Course (next reply) exchanges result) :
    Course (ask command next) (⟨command, reply⟩ :: exchanges) result

/-- A run is one of the courses. -/
theorem course_run (daemon : Daemon σ) (d : Dialogue α) (state : σ) :
    d.Course (d.run daemon state).2.1 (d.run daemon state).1 := by
  induction d generalizing state with
  | done result => exact .done result
  | ask command next ih => exact .ask _ (ih _ _)

/-- Of a daemon that stays ready as long as it is asked some of the commands, a reply that comes
after such commands only is the reply of the daemon when it is ready. -/
theorem exists_reply_eq_of_run {daemon : Daemon σ} {state : σ} {ready : σ → Prop}
    {asks : String → Prop} {e : Exchange} {front back : List Exchange}
    (hstep : ∀ s command, ready s → asks command → ready (daemon s command).2)
    (hready : ready state) (hrun : (d.run daemon state).2.1 = front ++ e :: back)
    (hfront : ∀ f ∈ front, asks f.command) : ∃ s, ready s ∧ e.reply = (daemon s e.command).1 := by
  induction d generalizing state front with
  | done result =>
    rw [run] at hrun
    exact absurd hrun.symm (List.append_ne_nil_of_right_ne_nil _ (List.cons_ne_nil _ _))
  | ask command next ih =>
    rw [run] at hrun
    cases front with
    | nil =>
      obtain ⟨rfl, -⟩ := List.cons.inj hrun
      exact ⟨state, hready, rfl⟩
    | cons f front =>
      obtain ⟨rfl, hrest⟩ := List.cons.inj hrun
      have hasked := hstep state command hready (hfront _ List.mem_cons_self)
      exact ih _ hasked hrest fun f hf => hfront f (List.mem_cons_of_mem _ hf)

lemma course_pure_iff : (pure a : Dialogue α).Course exchanges a' ↔ exchanges = [] ∧ a' = a := by
  constructor
  · intro h
    cases h
    exact ⟨rfl, rfl⟩
  · rintro ⟨rfl, rfl⟩
    exact .done a'

lemma course_query_iff {command : String} {reply : Option String} :
    (query command).Course exchanges reply ↔ exchanges = [⟨command, reply⟩] := by
  constructor
  · rintro (_ | ⟨_, ⟨_⟩⟩)
    rfl
  · rintro rfl
    exact .ask reply (.done reply)

/-- A dialogue that goes on with the result of another takes a course of that one, and then a course
of what it goes on with. -/
theorem course_bind_iff {f : α → Dialogue β} :
    (d >>= f).Course exchanges b
      ↔ ∃ exchanges₁ a exchanges₂, d.Course exchanges₁ a ∧ (f a).Course exchanges₂ b
        ∧ exchanges = exchanges₁ ++ exchanges₂ := by
  change (d.bind f).Course exchanges b ↔ _
  induction d generalizing exchanges with
  | done result =>
    constructor
    · intro h
      exact ⟨[], result, exchanges, .done result, h, rfl⟩
    · rintro ⟨_, _, exchanges₂, ⟨⟩, h, rfl⟩
      exact h
  | ask command next ih =>
    constructor
    · intro h
      cases h with
      | ask reply h =>
        obtain ⟨exchanges₁, a, exchanges₂, h₁, h₂, rfl⟩ := (ih reply).1 h
        exact ⟨_, a, exchanges₂, .ask reply h₁, h₂, rfl⟩
    · rintro ⟨_, a, exchanges₂, h₁, h₂, rfl⟩
      cases h₁ with
      | ask reply h₁ => exact .ask reply ((ih reply).2 ⟨_, a, exchanges₂, h₁, h₂, rfl⟩)

lemma course_map_iff {f : α → β} :
    (f <$> d).Course exchanges b ↔ ∃ a, d.Course exchanges a ∧ b = f a := by
  change (d >>= fun a => pure (f a)).Course exchanges b ↔ _
  rw [course_bind_iff]
  constructor
  · rintro ⟨exchanges₁, a, exchanges₂, h, hf, rfl⟩
    obtain ⟨rfl, rfl⟩ := course_pure_iff.1 hf
    exact ⟨a, by rwa [List.append_nil], rfl⟩
  · rintro ⟨a, h, rfl⟩
    exact ⟨exchanges, a, [], h, .done _, (List.append_nil _).symm⟩

/-- On an interface a dialogue takes the courses that it takes elsewhere, with every command marked
as being about the interface. -/
theorem course_onInterface_iff {interface : String} :
    (d.onInterface interface).Course exchanges a
      ↔ ∃ exchanges', d.Course exchanges' a
        ∧ exchanges = exchanges'.map fun e => ⟨markInterface interface e.command, e.reply⟩ := by
  induction d generalizing exchanges with
  | done result =>
    constructor
    · intro h
      cases h
      exact ⟨[], .done _, rfl⟩
    · rintro ⟨_, ⟨⟩, rfl⟩
      exact .done a
  | ask command next ih =>
    constructor
    · intro h
      cases h with
      | ask reply h =>
        obtain ⟨exchanges', h', rfl⟩ := (ih reply).1 h
        exact ⟨_, .ask reply h', rfl⟩
    · rintro ⟨_, h, rfl⟩
      cases h with
      | ask reply h => exact .ask reply ((ih reply).2 ⟨_, h, rfl⟩)

/-! ### No replies -/

lemma unanswered_bind (d : Dialogue α) (f : α → Dialogue β) :
    (d >>= f).unanswered = (f d.unanswered).unanswered := by
  change (d.bind f).unanswered = _
  induction d with
  | done result => rfl
  | ask command next ih => exact ih none

lemma unanswered_map (f : α → β) (d : Dialogue α) : (f <$> d).unanswered = f d.unanswered :=
  unanswered_bind d _

lemma unanswered_onInterface (interface : String) (d : Dialogue α) :
    (d.onInterface interface).unanswered = d.unanswered := by
  induction d with
  | done result => rfl
  | ask command next ih => exact ih none

end Dialogue

end SupplicantWatch
