import Mathlib.Tactic.Common
import SupplicantWatch.Proofs.Classifier.ReceiveErrors
import SupplicantWatch.Proofs.Monitor.Transition
import SupplicantWatch.Proofs.Replay.CaptureLines
import SupplicantWatch.Replay

/-!
# What a replay lets its printer hear

A replay hands the lines of a capture to one reader, and its printer is registered for every kind of
event on the one interface that is monitored. So whatever interface a line is about, its event
reaches the printer once, and the first line that ends the connection is the last that is read. Main
statement: `run_ofBytes`.
-/

namespace SupplicantWatch.Replay

/-! ### What the lines come to -/

/-- What a line comes to when no command is answered and one interface has handlers. -/
def outcome (interface : String) (c : Classifier) (line : String) : Classified × Classifier :=
  (c.classify (fun i => interface = i) line).unanswered

/-- What some lines come to, each for the classifier that the lines before it leave behind. -/
def outcomes (interface : String) (c : Classifier) : List String → List Classified
  | [] => []
  | line :: lines =>
    (outcome interface c line).1 :: outcomes interface (outcome interface c line).2 lines

/-- The classifier that some lines leave behind. -/
def classifierAfter (interface : String) (c : Classifier) (lines : List String) : Classifier :=
  lines.foldl (fun c line => (outcome interface c line).2) c

/-- What the lines before the first that ends the connection come to. -/
def heard (interface : String) (c : Classifier) (lines : List String) : List Classified :=
  (outcomes interface c lines).takeWhile (·.signal = .goOn)

/-- The lines up to the first that ends the connection. -/
def taken (interface : String) (c : Classifier) (lines : List String) : List String :=
  lines.take ((heard interface c lines).length + 1)

/-- The log after some lines. -/
def logAfter (log : LineLog) (lines : List String) : LineLog :=
  log.recordAll (lines.filter Monitor.isLogged)

/-- The calls that let the printer hear some events. -/
def callsOf (interface : String) (events : List Event) : List (Call String) :=
  events.map (⟨interface, ·⟩)

variable {interface line : String} {c : Classifier} {lines : List String}

lemma heard_cons_of_goOn (h : (outcome interface c line).1.signal = .goOn) :
    heard interface c (line :: lines)
      = (outcome interface c line).1 :: heard interface (outcome interface c line).2 lines := by
  simp [heard, outcomes, h]

lemma heard_cons_of_terminate (h : (outcome interface c line).1.signal = .terminate) :
    heard interface c (line :: lines) = [] := by
  simp [heard, outcomes, h]

lemma taken_cons_of_goOn (h : (outcome interface c line).1.signal = .goOn) :
    taken interface c (line :: lines)
      = line :: taken interface (outcome interface c line).2 lines := by
  simp [taken, heard_cons_of_goOn h]

lemma taken_cons_of_terminate (h : (outcome interface c line).1.signal = .terminate) :
    taken interface c (line :: lines) = [line] := by
  simp [taken, heard_cons_of_terminate h]

lemma classifierAfter_cons :
    classifierAfter interface c (line :: lines)
      = classifierAfter interface (outcome interface c line).2 lines := rfl

lemma logAfter_cons (log : LineLog) :
    logAfter log (line :: lines) = logAfter (logAfter log [line]) lines := by
  rw [logAfter, logAfter, logAfter, LineLog.recordAll, LineLog.recordAll, LineLog.recordAll,
    ← List.foldl_append, ← List.filter_append, List.singleton_append]

lemma callsOf_cons (classified : Classified) (rest : List Classified) (events : List Event) :
    callsOf interface ((classified :: rest).filterMap (·.event) ++ events)
      = callsOf interface classified.event.toList
        ++ callsOf interface (rest.filterMap (·.event) ++ events) := by
  rw [callsOf, callsOf, callsOf, ← List.map_append, ← List.append_assoc]
  cases h : classified.event with
  | none => simp [h]
  | some event => simp [h]

/-- A line that ends the connection tells everyone that the supplicant is gone. -/
lemma outcome_of_terminate (h : (outcome interface c line).1.signal = .terminate) :
    (outcome interface c line).1 = ⟨none, some .supplicantDisconnection, .terminate⟩ := by
  have hs := Classifier.settles_classify Daemon.silent () c (fun i => interface = i) line
  rw [Dialogue.run_silent] at hs
  obtain ⟨hi, he⟩ := hs.disconnection_of_terminate h
  change _ = (⟨none, some .supplicantDisconnection, .terminate⟩ : Classified)
  rw [← hi, ← he, ← h]
  rfl

/-- The line at the end of a capture ends the connection. -/
lemma outcome_endLine (interface : String) (c : Classifier) :
    outcome interface c Capture.endLine
      = (⟨none, some .supplicantDisconnection, .terminate⟩, c) := by
  -- The line at the end has no mark, so it is about the peer-to-peer interface.
  have hresolve : Classifier.resolve? c.config (fun i => interface = i)
      (Classifier.withoutLineEnd Capture.endLine)
        = some (c.config.peerInterface, Capture.endLine.toList) := rfl
  have hverdict : c.verdict c.config.peerInterface Capture.endLine.toList = .done .closed := rfl
  have hremember : c.remember c.config.peerInterface Capture.endLine.toList = c := rfl
  rw [outcome, Classifier.classify, hresolve]
  dsimp only
  rw [hremember, hverdict]
  rfl

/-! ### The printer -/

/-- The registry of a replay. -/
def registry (interface : String) : Registry String :=
  (Registry.empty.registerAll interface interface).setMonitoring interface true

lemma isRegistered_registry (interface : String) :
    (registry interface).isRegistered = fun i => decide (interface = i) := by
  funext i
  rw [registry, Registry.isRegistered_setMonitoring, Registry.isRegistered_registerAll,
    Registry.isRegistered_empty, Bool.or_false]

lemma monitored_registry (interface : String) : (registry interface).monitored = [interface] := by
  rw [registry, Registry.monitored, Registry.setMonitoring, Registry.monitoring_registerAll]
  rfl

lemma handlersFor_registry (interface : String) (kind : EventKind) :
    (registry interface).handlersFor interface kind = [interface] := by
  rw [registry, Registry.handlersFor_setMonitoring, Registry.handlersFor_registerAll,
    Registry.handlersFor_empty, if_pos rfl, List.nil_append]

/-- Every event reaches the printer once, whatever interface it is for. -/
lemma dispatch_registry (interface : String) (i : Option String) (event : Event) :
    (registry interface).dispatch i event = [⟨interface, event⟩] := by
  have hall : (registry interface).dispatch none event = [⟨interface, event⟩] := by
    rw [Registry.dispatch_none, monitored_registry, List.flatMap_singleton, handlersFor_registry]
    rfl
  cases i with
  | none => exact hall
  | some i =>
    by_cases hi : interface = i
    · subst hi
      have hr : (registry interface).isRegistered interface = true := by
        rw [isRegistered_registry]
        exact decide_eq_true rfl
      have hm : (registry interface).isMonitoring interface = true := by
        rw [← Registry.mem_monitored, monitored_registry]
        exact List.mem_singleton_self interface
      rw [Registry.dispatch_of_isRegistered hr, if_pos hm, handlersFor_registry]
      rfl
    · -- An interface without handlers is told to all that monitor, and that is the one.
      have hr : (registry interface).isRegistered i = false := by
        rw [isRegistered_registry]
        exact decide_eq_false hi
      rw [Registry.dispatch_of_not_isRegistered hr, hall]

/-! ### The reader -/

/-- A replay while its reader waits for a line. -/
def waiting (config : Config) (interface : String) (c : Classifier) (log : LineLog) :
    Monitor String Unit Unit where
  config
  connected := true
  readerRunning := true
  registry := registry interface
  classifier := c
  log
  readers := [.waiting ()]
  transport := ()

/-- A replay whose reader has ended. -/
def ended (config : Config) (interface : String) (c : Classifier) (log : LineLog) :
    Monitor String Unit Unit where
  config
  connected := false
  readerRunning := false
  registry := registry interface
  classifier := c
  log
  readers := []
  transport := ()

variable {config : Config} {log : LineLog}

/-- The printer is told that the supplicant is there, and the reader waits for the first line. -/
lemma start_monitor (h : 1 ≤ config.connectAttempts) :
    ∃ m, (monitor config interface).start transport interface
        = (.ok (), callsOf interface [.supplicantConnection], m)
      ∧ m.settle transport
        = waiting config interface (.new config) { capacity := config.logCapacity } := by
  obtain ⟨attempts, hattempts⟩ := Nat.exists_eq_add_of_le' h
  rcases Monitor.start_cases transport (monitor config interface) interface with
    ⟨hc, -⟩ | ⟨state, -, -, hs⟩ | ⟨state, -, ht, -⟩
  · cases hc
  · refine ⟨((monitor config interface).onConnected state).setMonitoring interface true, ?_, rfl⟩
    rw [hs]
    change (_, (registry interface).dispatch (some interface) .supplicantConnection, _) = _
    rw [dispatch_registry]
    rfl
  · change Monitor.tryConnect transport config.connectAttempts () = _ at ht
    rw [hattempts] at ht
    cases ht

/-- A replay whose reader has received a line. -/
def holding (config : Config) (interface : String) (c : Classifier) (log : LineLog)
    (line : String) : Monitor String Unit Unit :=
  { waiting config interface c log with readers := [.holding line] }

lemma receive_waiting (line : String) :
    (waiting config interface c log).receive transport 0 () line
      = holding config interface c (logAfter log [line]) line := by
  rw [Monitor.receive]
  split_ifs with hl
  · have hlog : logAfter log [line] = log.record line := by
      simp [logAfter, hl, LineLog.recordAll]
    rw [hlog]
    rfl
  · have hlog : logAfter log [line] = log := by
      simp [logAfter, hl, LineLog.recordAll]
    rw [hlog]
    rfl

/-- The event of a line reaches the printer once, whatever interface the line is about. -/
lemma classifyLine_holding (line : String) :
    (holding config interface c log line).classifyLine transport line
      = ((outcome interface c line).1.signal,
          callsOf interface (outcome interface c line).1.event.toList,
          holding config interface (outcome interface c line).2 log line) := by
  have hc : (holding config interface c log line).Classifies transport line
      (outcome interface c line).1 (outcome interface c line).2 () := by
    refine ⟨((c.classify (fun i => interface = i) line).run Daemon.silent ()).2.1, ?_⟩
    change (c.classify (registry interface).isRegistered line).run Daemon.silent () = _
    rw [isRegistered_registry, outcome, ← Dialogue.run_silent]
  have hcalls : (holding config interface c log line).deliveries (outcome interface c line).1
      = callsOf interface (outcome interface c line).1.event.toList := by
    rw [Monitor.deliveries]
    cases (outcome interface c line).1.event with
    | none => rfl
    | some event => exact dispatch_registry interface _ event
  rw [Monitor.classifyLine_of_classifies hc, hcalls]
  rfl

lemma feed?_waiting (line : String) :
    (waiting config interface c log).feed? transport (some line)
      = some (Prod.map id (Monitor.settle transport)
          ((holding config interface c (logAfter log [line]) line).handle transport 0 line)) := by
  rw [← receive_waiting]
  rfl

/-- After a line that keeps the connection the reader waits again. -/
lemma feed?_of_goOn (h : (outcome interface c line).1.signal = .goOn) :
    (waiting config interface c log).feed? transport (some line)
      = some (callsOf interface (outcome interface c line).1.event.toList,
          waiting config interface (outcome interface c line).2 (logAfter log [line])) := by
  rw [feed?_waiting, Monitor.handle, classifyLine_holding, h]
  rfl

/-- After a line that ends the connection there is no reader. -/
lemma feed?_of_terminate (h : (outcome interface c line).1.signal = .terminate) :
    (waiting config interface c log).feed? transport (some line)
      = some (callsOf interface [.supplicantDisconnection],
          ended config interface (outcome interface c line).2 (logAfter log [line])) := by
  rw [feed?_waiting, Monitor.handle, classifyLine_holding, outcome_of_terminate h]
  rfl

/-! ### Any capture -/

lemma readAll_ended (rest : List (List UInt8)) (c : Classifier) (log : LineLog) :
    readAll interface ⟨rest⟩ (ended config interface c log)
      = ([], ended config interface c log) := by
  rw [readAll]
  rfl

/-- The reader takes the lines of a capture until one ends the connection, at the latest the one at
the end of the capture. -/
lemma readAll_waiting (rest : List (List UInt8)) (c : Classifier) (log : LineLog) :
    ∃ lines handled,
      lines = Capture.linesFor interface rest
      ∧ handled = taken interface c (lines ++ [Capture.endLine])
      ∧ readAll interface ⟨rest⟩ (waiting config interface c log)
        = (callsOf interface ((heard interface c lines).filterMap (·.event)
              ++ [.supplicantDisconnection]),
            ended config interface (classifierAfter interface c handled)
              (logAfter log handled)) := by
  refine ⟨_, _, rfl, rfl, ?_⟩
  -- By induction on the number of lines that are left, of which a read takes one at least.
  induction hn : rest.length using Nat.strongRecOn generalizing rest c log with
  | ind n ih =>
    rcases Capture.read_cases interface rest with ⟨hlines, hread⟩ | ⟨hne, hlines⟩
    · have hend : (outcome interface c Capture.endLine).1.signal = .terminate := by
        rw [outcome_endLine]
      rw [readAll, hread, hlines, feed?_of_terminate hend, List.nil_append,
        taken_cons_of_terminate hend]
      dsimp only
      -- At the end of the capture nothing is read any more, whether lines were skipped on the way
      -- or not.
      split_ifs
      · rfl
      · rw [readAll_ended]
        rfl
    · rw [readAll, hlines]
      generalize (Capture.read interface ⟨rest⟩).1 = line
      cases hsignal : (outcome interface c line).1.signal with
      | goOn =>
        have hlt := Capture.length_rest_read_lt interface hne
        rw [feed?_of_goOn hsignal, List.cons_append, taken_cons_of_goOn hsignal,
          heard_cons_of_goOn hsignal]
        dsimp only
        rw [dif_neg hne, ih _ (hn ▸ hlt) _ _ _ rfl]
        rw [callsOf_cons, ← logAfter_cons, classifierAfter_cons]
      | terminate =>
        rw [feed?_of_terminate hsignal, List.cons_append, taken_cons_of_terminate hsignal,
          heard_cons_of_terminate hsignal]
        dsimp only
        rw [dif_neg hne, readAll_ended]
        rfl

/-- A replay of a capture starts and ends with its reader gone. The printer has heard the
connection, what each line before the first that ends the connection came to, once and in order, and
one disconnection; and the line that ended the connection is the last that anything came of. -/
theorem run_ofBytes (config : Config) (interface : String) (bs : List UInt8)
    (h : 1 ≤ config.connectAttempts) :
    ∃ lines events handled m,
      lines = Capture.linesFor interface (Text.byteLines bs)
      ∧ events = (heard interface (.new config) lines).filterMap (·.event)
      ∧ handled = taken interface (.new config) (lines ++ [Capture.endLine])
      ∧ run config interface (.ofBytes bs)
        = (.ok (), callsOf interface
            (.supplicantConnection :: events ++ [.supplicantDisconnection]), m)
      ∧ m.readers = [] ∧ m.readerRunning = false ∧ m.connected = false
      ∧ m.classifier = classifierAfter interface (.new config) handled
      ∧ m.log = logAfter { capacity := config.logCapacity } handled := by
  obtain ⟨m, hstart, hsettle⟩ := start_monitor h
  obtain ⟨lines, handled, hlines, hhandled, hread⟩ := readAll_waiting (Text.byteLines bs)
    (.new config) { capacity := config.logCapacity }
  refine ⟨lines, _, handled,
    ended config interface (classifierAfter interface (.new config) handled)
      (logAfter { capacity := config.logCapacity } handled),
    hlines, rfl, hhandled, ?_, rfl, rfl, rfl, rfl, rfl⟩
  rw [run, hstart]
  dsimp only
  rw [hsettle, Capture.ofBytes, hread]
  rfl

/-- The line of a group interface reaches the printer of another interface once, and the line behind
the one that ends the connection is not read. -/
theorem run_ofBytes_groupLine :
    ∃ m, 1 ≤ ({} : Config).connectAttempts
      ∧ run {} "wlan0" (.ofBytes (Utf8.encode ("# seen on a laptop\n\nCTRL-EVENT-SCAN-RESULTS \n"
          ++ "IFNAME=p2p-wlan0-0 P2P-FIND-STOPPED\nCTRL-EVENT-TERMINATING - gone\n"
          ++ "WPS-SUCCESS").toList))
        = (.ok (), callsOf "wlan0"
            [.supplicantConnection, .scanResults, .findStopped, .supplicantDisconnection], m)
      ∧ m.readers = [] ∧ m.log.entries = ["Event [IFNAME=wlan0 CTRL-EVENT-SCAN-RESULTS]",
        "Event [IFNAME=p2p-wlan0-0 P2P-FIND-STOPPED]",
        "Event [IFNAME=wlan0 CTRL-EVENT-TERMINATING - gone]"] := by
  have h : 1 ≤ ({} : Config).connectAttempts := by
    decide
  obtain ⟨lines, events, handled, m, hlines, hevents, hhandled, hrun, hreaders, -, -, -, hlog⟩ :=
    run_ofBytes {} "wlan0" (Utf8.encode ("# seen on a laptop\n\nCTRL-EVENT-SCAN-RESULTS \n"
      ++ "IFNAME=p2p-wlan0-0 P2P-FIND-STOPPED\nCTRL-EVENT-TERMINATING - gone\n"
      ++ "WPS-SUCCESS").toList) h
  have hl : lines = ["IFNAME=wlan0 CTRL-EVENT-SCAN-RESULTS", "IFNAME=p2p-wlan0-0 P2P-FIND-STOPPED",
      "IFNAME=wlan0 CTRL-EVENT-TERMINATING - gone", "IFNAME=wlan0 WPS-SUCCESS"] := by
    rw [hlines]
    decide +kernel
  rw [hl] at hevents hhandled
  have he : events = [.scanResults, .findStopped] := by
    rw [hevents]
    decide +kernel
  rw [he] at hrun
  refine ⟨m, h, hrun, hreaders, ?_⟩
  rw [hlog, hhandled]
  decide +kernel

end SupplicantWatch.Replay
