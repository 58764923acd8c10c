import Mathlib.Tactic.Common
import SupplicantWatch.Proofs.Monitor.Transition
import SupplicantWatch.Replay

/-!
# One reader at a time

A reader counts from the section that starts it to the section in which it gives the running mark
back. Whatever callers and readers do, and in whatever order, there is never a second one, the mark
tells whether there is one, and a connection has one. Main statement: `reachable_readers`.
-/

namespace SupplicantWatch.Monitor

variable {η σ κ : Type} {t : Transport σ κ} {m m' : Monitor η σ κ}

/-- What holds of the readers between any two sections. -/
structure SingleReader (m : Monitor η σ κ) : Prop where
  atMostOne : m.readers.length ≤ 1
  running_iff : m.readerRunning = true ↔ m.readers ≠ []
  running_of_connected : m.connected = true → m.readerRunning = true

namespace SingleReader

lemma new (config : Config) (transport : σ) :
    SingleReader (new config transport : Monitor η σ κ) := by
  refine ⟨Nat.zero_le 1, ?_, ?_⟩
  · simp [Monitor.new]
  · intro h
    cases h

/-- A section that starts and ends no reader and does not connect keeps what holds. -/
lemma of_length_eq (h : SingleReader m) (hl : m'.readers.length = m.readers.length)
    (hr : m'.readerRunning = m.readerRunning) (hc : m'.connected = true → m.connected = true) :
    SingleReader m' := by
  have hne : m'.readers ≠ [] ↔ m.readers ≠ [] := by
    rw [← List.length_pos_iff, ← List.length_pos_iff, hl]
  refine ⟨hl ▸ h.atMostOne, ?_, ?_⟩
  · rw [hr, hne]
    exact h.running_iff
  · intro h'
    rw [hr]
    exact h.running_of_connected (hc h')

/-- A reader is the only one. -/
lemma readers_eq (h : SingleReader m) {i : Nat} {place : Reader κ}
    (hi : m.readers[i]? = some place) : m.readers = [place] ∧ i = 0 := by
  match hm : m.readers, h.atMostOne with
  | [], _ =>
    rw [hm] at hi
    cases hi
  | [reader], _ =>
    rw [hm, List.getElem?_singleton] at hi
    split_ifs at hi with h0
    cases hi
    exact ⟨rfl, h0⟩

/-- Connecting starts a reader where there is none. -/
lemma onConnected (h : SingleReader m) (transport : σ) :
    SingleReader (m.onConnected transport) := by
  by_cases hr : m.readerRunning = true
  · have hl : (m.onConnected transport).readers = m.readers := if_pos hr
    refine ⟨hl ▸ h.atMostOne, ?_, fun _ => rfl⟩
    rw [hl, ← h.running_iff, hr]
    rfl
  · have hl : (m.onConnected transport).readers = m.readers ++ [.checking] := if_neg hr
    have hnil : m.readers = [] := by
      by_contra hne
      exact hr (h.running_iff.2 hne)
    rw [hnil, List.nil_append] at hl
    refine ⟨hl ▸ Nat.le_refl 1, ?_, fun _ => rfl⟩
    rw [hl]
    simp [Monitor.onConnected]

/-- With the reader that ends none is left. -/
lemma endReader (h : SingleReader m) {i : Nat} {place : Reader κ}
    (hi : m.readers[i]? = some place) (hc : m.connected = false) :
    SingleReader (m.endReader i) := by
  obtain ⟨hm, rfl⟩ := h.readers_eq hi
  have hnil : (m.endReader 0).readers = [] := by
    rw [Monitor.endReader, hm]
    rfl
  refine ⟨hnil ▸ Nat.zero_le 1, ?_, ?_⟩
  · rw [hnil]
    simp [Monitor.endReader]
  · intro h'
    rw [Monitor.endReader, hc] at h'
    cases h'

lemma of_transition (h : SingleReader m) {action : Action η} {calls : List (Call η)}
    (ht : Transition t m action calls m') : SingleReader m' := by
  cases ht with
  | startReached interface transport =>
    exact (h.onConnected transport).of_length_eq rfl rfl id
  | stopAll | processTerminate => exact h.of_length_eq rfl rfl fun hc => nomatch hc
  | checkOn | await | crash | handleGoOn | handleCrash =>
    exact h.of_length_eq List.length_set rfl id
  | receive line =>
    unfold Monitor.receive
    split
    · exact h.of_length_eq List.length_set rfl id
    · exact h.of_length_eq List.length_set rfl id
  | checkEnd hr hc => exact h.endReader hr hc
  | handleTerminate hr | giveUp hr =>
    refine SingleReader.endReader ?_ hr rfl
    exact h.of_length_eq rfl rfl fun hc => nomatch hc
  | _ => exact h.of_length_eq rfl rfl id

lemma of_reachable {config : Config} {transport : σ} (h : Reachable t config transport m) :
    SingleReader m := by
  induction h with
  | new => exact .new config transport
  | step _ hs ih => exact ih.of_transition (.of_step hs)

/-- There is exactly one reader while the monitor is connected. -/
lemma length_readers (h : SingleReader m) (hc : m.connected = true) : m.readers.length = 1 := by
  have hpos : 0 < m.readers.length :=
    List.length_pos_iff.2 (h.running_iff.1 (h.running_of_connected hc))
  have hle := h.atMostOne
  omega

end SingleReader

/-- Monitoring that could be started leaves a connection. -/
lemma connected_start {interface : String} (hok : (m.start t interface).1 = .ok ()) :
    (m.start t interface).2.2.connected = true := by
  rcases start_cases t m interface with ⟨hc, h⟩ | ⟨transport, -, -, h⟩ | ⟨transport, -, -, h⟩
  · rw [h]
    exact hc
  · rw [h]
    rfl
  · rw [h] at hok
    cases hok

/-- In whatever order callers and readers go through their sections, there is at most one reader,
it is running exactly if there is one, and a connected monitor has one. So no two readers wait at
once, and whenever monitoring could be started there is a reader that has yet to end. -/
theorem reachable_readers {config : Config} {transport : σ}
    (h : Reachable t config transport m) :
    m.readers.length ≤ 1
      ∧ (m.readerRunning = true ↔ ∃ reader, reader ∈ m.readers)
      ∧ (m.connected = true → m.readerRunning = true)
      ∧ m.readers.countP Reader.isWaiting ≤ 1
      ∧ ∀ interface, (m.start t interface).1 = .ok () →
          ∃ reader, (m.start t interface).2.2.readers = [reader] := by
  have hs := SingleReader.of_reachable h
  refine ⟨hs.atMostOne, ?_, hs.running_of_connected, ?_, ?_⟩
  · rw [hs.running_iff]
    exact ⟨List.exists_mem_of_ne_nil m.readers, fun ⟨_, hr⟩ => List.ne_nil_of_mem hr⟩
  · exact Nat.le_trans List.countP_le_length hs.atMostOne
  · intro interface hok
    have hstep : m.step t (.start interface) = some (m.start t interface).2 := rfl
    have hs' := SingleReader.of_reachable (h.step hstep)
    exact List.length_eq_one_iff.1 (hs'.length_readers (connected_start hok))

/-- A reader that still waits when everything is stopped stays the only one after a new start. -/
theorem reachable_readers_restarted :
    ∃ m : Monitor Nat Unit Unit, Reachable Replay.transport {} () m
      ∧ m.readers = [.waiting ()] ∧ m.connected = true
      ∧ m.readers.length ≤ 1 ∧ (m.readerRunning = true ↔ ∃ reader, reader ∈ m.readers) := by
  have hs : (new {} () : Monitor Nat Unit Unit).steps Replay.transport
      [.start "wlan0", .check 0, .await 0, .stopAll, .start "wlan0"] = some (_, _) := rfl
  have h := Reachable.new.steps hs
  obtain ⟨hle, hiff, -⟩ := reachable_readers h
  exact ⟨_, h, rfl, rfl, hle, hiff⟩

end SupplicantWatch.Monitor
