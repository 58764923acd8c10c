import Mathlib.Tactic.Common
import SupplicantWatch.Proofs.Classifier.Attribution
import SupplicantWatch.Proofs.Classifier.ReceiveErrors
import SupplicantWatch.Proofs.Monitor.Notification
import SupplicantWatch.Proofs.Monitor.Transition
import SupplicantWatch.Replay

/-!
# Whom the event of a line reaches

The classifier decides which interface a line is about, and the registry decides once more, by other
means, whom an event for that interface is given to. Taken together: the event goes to the handlers
of the interface that the line names, or of the peer-to-peer interface in its place, and to those of
every monitored interface if that one has no handlers or the line ends the connection. Main
statement: `routed_of_steps`.
-/

namespace SupplicantWatch.Monitor

open Classifier (IsAbout IsMalformed IsUnmarked Names)
open Registry (Operation registered)

variable {η σ κ : Type} {t : Transport σ κ} {m m' : Monitor η σ κ}

/-! ### The configuration of the classifier -/

lemma config_of_classifies {line : String} {classified : Classified} {classifier : Classifier}
    {transport : σ} (h : m.Classifies t line classified classifier transport) :
    classifier.config = m.classifier.config := by
  obtain ⟨exchanges, hrun⟩ := h
  have hsettles := Classifier.settles_classify t.query m.transport m.classifier
    m.registry.isRegistered line
  rw [hrun] at hsettles
  exact hsettles.config_eq

lemma config_classifier_of_transition {action : Action η} {calls : List (Call η)}
    (h : Transition t m action calls m') : m'.classifier.config = m.classifier.config := by
  cases h with
  | receive line =>
    unfold Monitor.receive
    split <;> rfl
  | processGoOn line h | processTerminate line h | handleGoOn _ h | handleTerminate _ h =>
    exact config_of_classifies h
  | _ => rfl

/-- The classifier of a monitor keeps the configuration that the monitor began with. -/
lemma config_classifier_of_steps {actions : List (Action η)} {calls : List (Call η)}
    (h : m.steps t actions = some (calls, m')) :
    m'.classifier.config = m.classifier.config := by
  induction actions generalizing m calls with
  | nil =>
    obtain ⟨rfl, rfl⟩ : [] = calls ∧ m = m' := by simpa [Monitor.steps] using h
    rfl
  | cons action actions ih =>
    obtain ⟨calls₁, m₁, calls₂, h₁, h₂, rfl⟩ := steps_cons_eq_some_iff.1 h
    rw [ih h₂, config_classifier_of_transition (.of_step h₁)]

/-! ### Sections that handle a line -/

/-- A section handles a line: that of a caller, or that of a reader which has received it. -/
inductive Handles (m : Monitor η σ κ) (line : String) : Action η → Prop where
  | caller : Handles m line (.processLine line)
  | reader {i : Nat} (hr : m.readers[i]? = some (.holding line)) : Handles m line (.handle i)

/-- What the section does apart from the calls: it leaves the registry as it was and puts the
classifier in its new state, and unless the line ends the connection it keeps that. -/
structure Follows (m : Monitor η σ κ) (classified : Classified) (classifier : Classifier)
    (transport : σ) (m' : Monitor η σ κ) : Prop where
  registry_eq : m'.registry = m.registry
  classifier_eq : m'.classifier = classifier
  connected_eq : classified.signal = .goOn → m'.connected = m.connected
  transport_eq : classified.signal = .goOn → m'.transport = transport

lemma Follows.of_terminate {classified : Classified} {classifier : Classifier} {transport : σ}
    (he : classified.signal = .terminate) (hr : m'.registry = m.registry)
    (hc : m'.classifier = classifier) : Follows m classified classifier transport m' where
  registry_eq := hr
  classifier_eq := hc
  connected_eq hg := by cases he.symm.trans hg
  transport_eq hg := by cases he.symm.trans hg

/-- A section that handles a line delivers the event that the line is classified to. -/
lemma exists_classifies_of_handles {line : String} {action : Action η} (ha : Handles m line action)
    {calls : List (Call η)} (hs : m.step t action = some (calls, m')) :
    ∃ classified classifier transport, m.Classifies t line classified classifier transport
      ∧ calls = m.deliveries classified ∧ Follows m classified classifier transport m' := by
  have ht := Transition.of_step hs
  cases ha with
  | caller =>
    cases ht with
    | processGoOn _ h hg => exact ⟨_, _, _, h, rfl, rfl, rfl, fun _ => rfl, fun _ => rfl⟩
    | processTerminate _ h he =>
      exact ⟨_, _, _, h, rfl, .of_terminate he rfl rfl⟩
  | reader hr =>
    cases ht with
    | handleGoOn hr' h hg =>
      cases hr.symm.trans hr'
      exact ⟨_, _, _, h, rfl, rfl, rfl, fun _ => rfl, fun _ => rfl⟩
    | handleTerminate hr' h he =>
      cases hr.symm.trans hr'
      exact ⟨_, _, _, h, rfl, .of_terminate he rfl rfl⟩

/-! ### One line -/

section Classification

variable {line : String} {classified : Classified} {classifier : Classifier} {transport : σ}

lemma interface_of_classifies (h : m.Classifies t line classified classifier transport)
    {i : String} {rest : List Char}
    (ha : IsAbout m.classifier.config m.registry.isRegistered line i rest)
    (hg : classified.signal = .goOn) : classified.interface = some i := by
  obtain ⟨exchanges, hrun⟩ := h
  obtain ⟨verdict, exchanges', state', -, hrun'⟩ :=
    Classifier.run_classify_of_isAbout ha t.query m.transport
  rw [hrun', Prod.mk.injEq] at hrun
  have hsettle : (_ : Classified × Classifier).1 = classified := congrArg Prod.fst hrun.1
  rw [← hsettle] at hg ⊢
  exact Classifier.interface_settle hg

lemma interface_of_classifies_terminate
    (h : m.Classifies t line classified classifier transport)
    (he : classified.signal = .terminate) : classified.interface = none := by
  obtain ⟨exchanges, hrun⟩ := h
  have hsettles := Classifier.settles_classify t.query m.transport m.classifier
    m.registry.isRegistered line
  rw [hrun] at hsettles
  exact (hsettles.disconnection_of_terminate he).1

lemma eq_of_classifies_of_isMalformed (h : m.Classifies t line classified classifier transport)
    (hm : IsMalformed line) :
    classified = ⟨none, none, .goOn⟩ ∧ classifier = m.classifier ∧ transport = m.transport := by
  obtain ⟨exchanges, hrun⟩ := h
  rw [Classifier.run_classify_of_isMalformed hm] at hrun
  cases hrun
  exact ⟨rfl, rfl, rfl⟩

end Classification

/-- The calls that give the event of a line, if it has one, as said. -/
def callsFor (event : Option Event) (calls : Event → List (Call η)) : List (Call η) :=
  event.elim [] calls

/-- The calls that give the event to the handlers of an interface, if that is monitored. -/
def callsOfInterface (past : List (Action η)) (m : Monitor η σ κ) (i : String)
    (event : Option Event) : List (Call η) :=
  if m.registry.isMonitoring i then callsFor event (callsOfHandlers past i) else []

/-- The calls that give the event to the handlers of every one of some interfaces. -/
def callsOfAll (past : List (Action η)) (names : List String) (event : Option Event) :
    List (Call η) :=
  callsFor event fun event => names.flatMap fun i => callsOfHandlers past i event

/-- Whether some section registers a handler for an interface. -/
def isRegisteredBy (past : List (Action η)) (i : String) : Bool :=
  (registrations past).any (Operation.registersFor i)

/-- Whom the event of a line is given to after some sections, where `names` are the monitored
interfaces. -/
structure Routed (config : Config) (past : List (Action η)) (m : Monitor η σ κ)
    (names : List String) (line : String) (classified : Classified) (calls : List (Call η))
    (m' : Monitor η σ κ) : Prop where
  /-- A line that names an interface with handlers is for them. -/
  named : ∀ {name text : String}, Names line name text → isRegisteredBy past name = true →
    classified.signal = .goOn → calls = callsOfInterface past m name classified.event
  /-- A line that names none, or a group interface without handlers, is for those of the
  peer-to-peer interface, if it has any. -/
  peer : (IsUnmarked line ∨ ∃ name text, Names line name text ∧ isRegisteredBy past name = false
      ∧ config.groupNameStart.toList <+: name.toList) →
    isRegisteredBy past config.peerInterface = true → classified.signal = .goOn →
    calls = callsOfInterface past m config.peerInterface classified.event
  /-- A line about an interface without handlers, or one that ends the connection, is for all that
  are monitored. -/
  everywhere : (classified.signal = .terminate ∨ ∃ i text,
      IsAbout config (isRegisteredBy past) line i text ∧ isRegisteredBy past i = false) →
    calls = callsOfAll past names classified.event
  /-- A malformed line is for nobody and changes nothing. -/
  malformed : IsMalformed line → calls = [] ∧ m'.classifier = m.classifier
    ∧ m'.registry = m.registry ∧ m'.connected = m.connected ∧ m'.transport = m.transport
  /-- No handler is called but for a registration on a monitored interface, and for none of these
  more than once. -/
  monitored : calls.Sublist (callsOfAll past names classified.event)

/-! ### Deliveries after a run -/

section Deliveries

variable {config : Config} {transport : σ} {past : List (Action η)} {calls : List (Call η)}

lemma isRegistered_of_steps (h : (new config transport).steps t past = some (calls, m)) :
    m.registry.isRegistered = isRegisteredBy past := by
  funext i
  rw [Registry.isRegistered_congr (handlers_of_steps (r := .empty) h rfl) i]
  exact Registry.isRegistered_ofHistory (registrations past) i

lemma handlersFor_of_steps (h : (new config transport).steps t past = some (calls, m))
    (i : String) (k : EventKind) :
    m.registry.handlersFor i k = registered (registrations past) i k := by
  rw [Registry.handlersFor_congr (handlers_of_steps (r := .empty) h rfl) i]
  exact Registry.handlersFor_ofHistory (registrations past) i k

/-- What is for an interface with handlers is given to them, if it is monitored. -/
lemma deliveries_of_isRegistered (h : (new config transport).steps t past = some (calls, m))
    {classified : Classified} {i : String} (hi : classified.interface = some i)
    (hr : isRegisteredBy past i = true) :
    m.deliveries classified = callsOfInterface past m i classified.event := by
  have hreg : m.registry.isRegistered i = true := by
    rw [isRegistered_of_steps h, hr]
  rw [deliveries, hi, callsOfInterface, callsFor]
  cases classified.event with
  | none => simp
  | some event =>
    change m.registry.dispatch (some i) event = _
    rw [Registry.dispatch_of_isRegistered hreg, handlersFor_of_steps h]
    rfl

lemma dispatch_none_of_steps (h : (new config transport).steps t past = some (calls, m))
    (event : Event) :
    m.registry.dispatch none event = callsOfAll past m.registry.monitored (some event) := by
  rw [Registry.dispatch_none]
  simp only [handlersFor_of_steps h]
  rfl

/-- What is for no interface, or for one without handlers, is given to the handlers of every
monitored one. -/
lemma deliveries_of_not_isRegistered (h : (new config transport).steps t past = some (calls, m))
    {classified : Classified}
    (hi : ∀ i, classified.interface = some i → isRegisteredBy past i = false) :
    m.deliveries classified = callsOfAll past m.registry.monitored classified.event := by
  rw [deliveries]
  cases classified.event with
  | none => rfl
  | some event =>
    change m.registry.dispatch classified.interface event = _
    -- No interface, and an interface without handlers, are the two ways to everybody.
    cases hc : classified.interface with
    | none => exact dispatch_none_of_steps h event
    | some i =>
      have hreg : m.registry.isRegistered i = false := by
        rw [isRegistered_of_steps h, hi i hc]
      rw [Registry.dispatch_of_not_isRegistered hreg, dispatch_none_of_steps h]

/-- The handlers of a monitored interface are among those of all that are monitored. -/
lemma callsOfInterface_sublist (past : List (Action η)) (m : Monitor η σ κ) (i : String)
    (event : Option Event) :
    (callsOfInterface past m i event).Sublist (callsOfAll past m.registry.monitored event) := by
  rw [callsOfInterface]
  split_ifs with hm
  · cases event with
    | none => exact List.Sublist.refl []
    | some event =>
      have hmem : i ∈ m.registry.monitored := Registry.mem_monitored.2 hm
      change (callsOfHandlers past i event).Sublist
        (m.registry.monitored.flatMap fun j => callsOfHandlers past j event)
      rw [List.flatMap_def]
      exact List.sublist_flatten_of_mem (List.mem_map_of_mem hmem)
  · exact List.nil_sublist _

lemma deliveries_sublist (h : (new config transport).steps t past = some (calls, m))
    (classified : Classified) :
    (m.deliveries classified).Sublist (callsOfAll past m.registry.monitored classified.event) := by
  by_cases hi : ∀ i, classified.interface = some i → isRegisteredBy past i = false
  · rw [deliveries_of_not_isRegistered h hi]
  · push Not at hi
    obtain ⟨i, hc, hr⟩ := hi
    rw [deliveries_of_isRegistered h hc (Bool.of_not_eq_false hr)]
    exact callsOfInterface_sublist past m i classified.event

end Deliveries

/-- After any sections, the event of a line that a caller or a reader handles is given to the
handlers of the interface that the line names, or of the peer-to-peer interface in its place, if it
is monitored; to those of every monitored interface if that one has no handlers or the line ends the
connection; and a malformed line is given to nobody. Nothing reaches the handlers of an interface
that is not monitored. -/
theorem routed_of_steps {config : Config} {transport : σ} {past : List (Action η)}
    {calls : List (Call η)} (h : (new config transport).steps t past = some (calls, m))
    {line : String} {action : Action η} (ha : Handles m line action) {calls' : List (Call η)}
    (hs : m.step t action = some (calls', m')) :
    ∃ names, names.Pairwise (· < ·) ∧ (∀ i, i ∈ names ↔ m.registry.isMonitoring i = true)
      ∧ ∃ classified classifier transport', m.Classifies t line classified classifier transport'
        ∧ Routed config past m names line classified calls' m' := by
  refine ⟨m.registry.monitored, m.registry.pairwise_monitored, fun i => Registry.mem_monitored, ?_⟩
  obtain ⟨classified, classifier, transport', hc, rfl, hf⟩ := exists_classifies_of_handles ha hs
  refine ⟨classified, classifier, transport', hc, ?_⟩
  have hconfig : m.classifier.config = config := config_classifier_of_steps h
  -- The registry of the state has exactly the interfaces registered by the run, so a condition on
  -- the run is one on the classifier.
  have habout {i : String} {rest : List Char}
      (hi : IsAbout config (isRegisteredBy past) line i rest) :
      IsAbout m.classifier.config m.registry.isRegistered line i rest := by
    rw [hconfig, isRegistered_of_steps h]
    exact hi
  constructor
  case named =>
    intro name text hn hr hg
    have hi := interface_of_classifies hc (habout (.named hn (.inl hr))) hg
    exact deliveries_of_isRegistered h hi hr
  case peer =>
    -- A line without a mark and a line of a group interface without handlers end up at the same
    -- interface.
    intro hp hr hg
    have hi : classified.interface = some config.peerInterface := by
      rcases hp with hu | ⟨name, text, hn, hnr, hstart⟩
      · exact interface_of_classifies hc (habout (.unmarked hu)) hg
      · exact interface_of_classifies hc (habout (.group hn hnr hstart)) hg
    exact deliveries_of_isRegistered h hi hr
  case everywhere =>
    intro hp
    refine deliveries_of_not_isRegistered h ?_
    intro i hi
    -- A line that ends the connection is about no interface at all, whatever it names.
    cases hsignal : classified.signal with
    | terminate =>
      rw [interface_of_classifies_terminate hc hsignal] at hi
      cases hi
    | goOn =>
      rcases hp with he | ⟨j, rest, hj, hr⟩
      · cases hsignal.symm.trans he
      · rw [interface_of_classifies hc (habout hj) hsignal] at hi
        cases hi
        exact hr
  case malformed =>
    intro hm
    obtain ⟨rfl, rfl, rfl⟩ := eq_of_classifies_of_isMalformed hc hm
    exact ⟨rfl, hf.classifier_eq, hf.registry_eq, hf.connected_eq rfl, hf.transport_eq rfl⟩
  case monitored => exact deliveries_sublist h classified

/-- The line of a group interface without handlers reaches the handler of the peer-to-peer interface
and not that of another monitored interface. -/
theorem routed_of_steps_groupLine :
    ∃ m m' : Monitor Nat Unit Unit,
      (new {} ()).steps Replay.transport
          [.register "wlan0" .scanResults 0, .register "p2p0" .scanResults 1, .start "wlan0",
            .setMonitoring "p2p0" true, .check 0, .await 0,
            .receive 0 "IFNAME=p2p-wlan0-3 CTRL-EVENT-SCAN-RESULTS "] = some ([], m)
      ∧ Handles m "IFNAME=p2p-wlan0-3 CTRL-EVENT-SCAN-RESULTS " (.handle 0)
      ∧ m.step Replay.transport (.handle 0) = some ([⟨1, .scanResults⟩], m')
      ∧ m.registry.isMonitoring "wlan0" = true
      ∧ [⟨1, .scanResults⟩] = callsOfInterface
          [.register "wlan0" .scanResults 0, .register "p2p0" .scanResults 1] m "p2p0"
          (some .scanResults) := by
  have h : (new {} () : Monitor Nat Unit Unit).steps Replay.transport
      [.register "wlan0" .scanResults 0, .register "p2p0" .scanResults 1, .start "wlan0",
        .setMonitoring "p2p0" true, .check 0, .await 0,
        .receive 0 "IFNAME=p2p-wlan0-3 CTRL-EVENT-SCAN-RESULTS "] = some ([], _) := rfl
  refine ⟨_, _, h, .reader rfl, rfl, rfl, ?_⟩
  obtain ⟨names, -, -, classified, classifier, transport', ⟨exchanges, hrun⟩, hrouted⟩ :=
    routed_of_steps h (by exact Handles.reader rfl : Handles _
      "IFNAME=p2p-wlan0-3 CTRL-EVENT-SCAN-RESULTS " (.handle 0)) rfl
  have hclassified := congrArg (fun result => result.1.1) hrun
  have hgroup : Names "IFNAME=p2p-wlan0-3 CTRL-EVENT-SCAN-RESULTS " "p2p-wlan0-3"
      "CTRL-EVENT-SCAN-RESULTS " := ⟨by decide, by decide⟩
  have hcalls := hrouted.peer (.inr ⟨_, _, hgroup, rfl, by decide⟩) rfl
  subst hclassified
  exact hcalls rfl

end SupplicantWatch.Monitor
