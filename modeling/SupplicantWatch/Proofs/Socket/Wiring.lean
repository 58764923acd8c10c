import Mathlib.Tactic.Common
import SupplicantWatch.Proofs.Monitor.SingleReader
import SupplicantWatch.Proofs.Socket.Attachment

/-!
# How the monitor is wired to its sockets

What a move can do to the reader and to its sockets, and what holds of them between any two moves:
the socket of the link and the one that the reader waits at both listen for events, and a reader
that waits is the only one that holds a socket. Main statements: `Passage.of_step`, a move is one of
these, and `Wired.of_steps`.
-/

namespace SupplicantWatch

/-- The line that a reader has received and not handled yet. -/
def Reader.inHand {κ : Type} : Reader κ → List String
  | holding line => [line]
  | _ => []

/-- The socket that a reader holds. -/
def Reader.socket {κ : Type} : Reader (Option κ) → List κ
  | waiting source => source.toList
  | _ => []

namespace Socket

variable {η δ : Type} {react : Reaction δ} {timeout : Nat}

/-- The line that the datagram of an event is received as. -/
def eventLine (datagram : List UInt8) : String :=
  stripPriority (World.datagramText datagram)

/-- The line that a move brings: that of an event that is reported, or one from a caller. -/
def Move.line? : Move η → Option String
  | .report event => some (eventLine event)
  | .act (.processLine line) => some line
  | _ => none

namespace Link

variable {l l' : Link (List Nat × δ)} {n : Nat}

/-- A socket listens for events, and no command is sent over it. -/
structure Hears (l : Link (List Nat × δ)) (n : Nat) : Prop where
  listens : l.world.Listens n
  command_ne : l.command ≠ some n

lemma Keeps.hears (h : Keeps l l') (hn : l.Hears n) :
    l'.Hears n ∧ l'.world.queueAt n = l.world.queueAt n := by
  have hu := h.undisturbed n hn.listens.lt_next hn.command_ne
  exact ⟨⟨hu.listens h.next_le hn.listens, h.command_eq ▸ hn.command_ne⟩, hu.queueAt_eq⟩

lemma Renews.hears_monitor {command monitor : Nat} (h : Renews l l' command monitor) :
    l'.Hears monitor := by
  refine ⟨h.listens, ?_⟩
  rw [h.command_eq, ne_eq, Option.some.injEq]
  exact Nat.ne_of_lt h.command_lt

lemma Renews.hears {command monitor : Nat} (h : Renews l l' command monitor) (hn : l.Hears n)
    (hheld : n ∈ l.held) : l'.Hears n ∧ l'.world.queueAt n = l.world.queueAt n := by
  have hlt := hn.listens.lt_next
  have hu := h.undisturbed n hheld hlt hn.command_ne
  refine ⟨⟨hu.listens ?_ hn.listens, ?_⟩, hu.queueAt_eq⟩
  · have hle := h.le_command
    have hlt' := h.command_lt
    have hnext := h.listens.lt_next
    omega
  · rw [h.command_eq, ne_eq, Option.some.injEq]
    exact fun heq => Nat.not_lt_of_le h.le_command (heq ▸ hlt)

lemma Renews.numbered {command monitor : Nat} (h : Renews l l' command monitor) :
    l'.Numbered := by
  have hlt := h.listens.lt_next
  refine ⟨h.attached, ?_, ?_⟩
  · intro n hn
    cases h.command_eq.symm.trans hn
    exact Nat.lt_trans h.command_lt hlt
  · intro n hn
    cases h.monitor_eq.symm.trans hn
    exact hlt

/-- Once the reader lets go of the socket that it holds, that is closed if it has been replaced, and
the one of the link stays as it is. -/
lemma release_spec (hl : l.Numbered) (hheld : l.held = [n]) :
    (release (some n) l).Numbered ∧ (release (some n) l).held = []
      ∧ (release (some n) l).monitor = l.monitor
      ∧ ∀ k, l.monitor = some k → l.Hears k → (release (some n) l).Hears k
        ∧ (release (some n) l).world.queueAt k = l.world.queueAt k := by
  have hsheds : Sheds { l with held := [] } (fun k => k = n ∧ l.monitor ≠ some n)
      (release (some n) l) := by
    dsimp only [release]
    rw [hheld, List.erase_cons_head]
    split_ifs with hm
    · exact .refl _ _
    · exact (Sheds.refl _ _).drop ⟨rfl, hm⟩
  refine ⟨⟨hsheds.numbered hl.attached, ?_, ?_⟩, hsheds.held_eq, hsheds.monitor_eq, ?_⟩
  · rw [hsheds.command_eq, hsheds.next_eq]
    exact hl.command_lt
  · rw [hsheds.monitor_eq, hsheds.next_eq]
    exact hl.monitor_lt
  · intro k hk hears
    have hu := hsheds.undisturbed k (.inr fun hgone => hgone.2 (hgone.1 ▸ hk))
    refine ⟨⟨hu.listens (Nat.le_of_eq hsheds.next_eq.symm) hears.listens, ?_⟩, hu.queueAt_eq⟩
    rw [hsheds.command_eq]
    exact hears.command_ne

end Link

namespace Watch

variable {m m' : Watch η δ}

/-- What a move can do to the reader and its sockets. -/
inductive Passage (m : Watch η δ) : Move η → List String → Watch η δ → Prop where
  /-- A section that is not about the reader. -/
  | keep {action : Action η} {m' : Watch η δ} (hr : m'.readers = m.readers)
      (hc : m'.connected = true → m.connected = true) (hk : m.transport.Keeps m'.transport) :
    Passage m (.act action) (Move.act action).line?.toList m'
  /-- A connection is made, and a reader starts unless there is one. -/
  | renew {interface : String} {m' : Watch η δ} {command monitor : Nat}
      (hc : m.connected = false)
      (hr : m'.readers = if m.readers = [] then [.checking] else m.readers)
      (hk : m.transport.Renews m'.transport command monitor) :
    Passage m (.act (.start interface)) [] m'
  | check {i : Nat} {m' : Watch η δ} (hr : m.readers = [.checking]) (hc : m.connected = true)
      (hr' : m'.readers = [.ready]) (hc' : m'.connected = m.connected)
      (ht : m'.transport = m.transport) :
    Passage m (.act (.check i)) [] m'
  | await {i n : Nat} {m' : Watch η δ} (hr : m.readers = [.ready])
      (hm : m.transport.monitor = some n) (hr' : m'.readers = [.waiting (some n)])
      (hc' : m'.connected = m.connected)
      (ht : m'.transport = { m.transport with held := n :: m.transport.held }) :
    Passage m (.act (.await i)) [] m'
  | arrive {i n : Nat} {event : List UInt8} {queue : List (List UInt8)} {m' : Watch η δ}
      (hr : m.readers = [.waiting (some n)])
      (hq : m.transport.world.queueAt n = event :: queue)
      (hr' : m'.readers = [.holding (eventLine event)]) (hc' : m'.connected = m.connected)
      (ht : m'.transport
        = .release (some n) { m.transport with world := m.transport.world.setQueue n queue }) :
    Passage m (.arrive i) [] m'
  | crash {i n : Nat} {m' : Watch η δ} (hr : m.readers = [.waiting (some n)])
      (hr' : m'.readers = [.crashed]) (hc' : m'.connected = m.connected)
      (ht : m'.transport = .release (some n) m.transport) :
    Passage m (.act (.crash i)) [] m'
  | handle {i : Nat} {line : String} {m' : Watch η δ} (hr : m.readers = [.holding line])
      (hr' : m'.readers = [.checking]) (hc' : m'.connected = m.connected)
      (hk : m.transport.Keeps m'.transport) :
    Passage m (.act (.handle i)) [line] m'
  | handleCrash {i : Nat} {line : String} {commands : List String} {m' : Watch η δ}
      (hr : m.readers = [.holding line]) (hr' : m'.readers = [.crashed])
      (hc' : m'.connected = m.connected) (hk : m.transport.Keeps m'.transport) :
    Passage m (.act (.handleCrash i commands)) [] m'
  /-- The reader ends, and if it has not seen that the connection is not wanted it gives it up. -/
  | finish {action : Action η} {place : Reader (Option Nat)} {m' : Watch η δ}
      (hr : m.readers = [place]) (hp : place.socket = []) (hr' : m'.readers = [])
      (hc' : m'.connected = false) (hn : m'.transport.Numbered)
      (ht : m'.transport = m.transport
        ∨ m'.transport.monitor = none ∧ m'.transport.held = m.transport.held) :
    Passage m (.act action) place.inHand m'
  | report (event : List UInt8) :
    Passage m (.report event) []
      { m with transport.world := m.transport.world.report event }

/-- What holds between any two moves. -/
structure Wired (m : Watch η δ) : Prop where
  single : m.SingleReader
  numbered : m.transport.Numbered
  held_eq : m.transport.held = m.readers.flatMap Reader.socket
  /-- A reader is about to wait only where there is a socket, and so it is with a connection. -/
  present : m.connected = true ∨ .ready ∈ m.readers → ∃ n, m.transport.monitor = some n
  hears : ∀ n, m.transport.monitor = some n → m.transport.Hears n
  /-- A reader waits at a socket, and what has arrived at one that replaced it since has arrived
  there too. -/
  waits : ∀ source, .waiting source ∈ m.readers → ∃ n, source = some n ∧ m.transport.Hears n
    ∧ (m.transport.world.queueAt n = [] →
      ∀ k, m.transport.monitor = some k → m.transport.world.queueAt k = [])

/-! ### The moves -/

/-- A section as a move. -/
lemma step_act_eq_some_iff {t : Transport (Link (List Nat × δ)) (Option Nat)} {action : Action η}
    {lines : List String} :
    Watch.step t m (.act action) = some (lines, m')
      ↔ (∀ i line, action ≠ .receive i line) ∧ m.handedOn action = lines
        ∧ ∃ calls, Monitor.step t m action = some (calls, m') := by
  have hmap : (Monitor.step t m action).map (fun result => (m.handedOn action, result.2))
      = some (lines, m') ↔ m.handedOn action = lines
        ∧ ∃ calls, Monitor.step t m action = some (calls, m') := by
    simp [Option.map_eq_some_iff, and_comm]
  cases action with
  | receive i line => exact iff_of_false nofun fun h => h.1 i line rfl
  | _ => exact hmap.trans (and_iff_right nofun).symm

lemma keeps_of_classifies {line : String} {classified : Classified}
    {classifier : Classifier} {transport : Link (List Nat × δ)}
    (h : m.Classifies (Link.transport (attaching react) timeout) line classified classifier
      transport) : m.transport.Keeps transport := by
  obtain ⟨exchanges, hrun⟩ := h
  have hkeeps := Link.Keeps.run react timeout
    (m.classifier.classify m.registry.isRegistered line) m.transport
  rw [hrun] at hkeeps
  exact hkeeps

lemma handedOn_handle {i : Nat} {line : String}
    (hr : m.readers[i]? = some (.holding line)) : m.handedOn (.handle i) = [line] := by
  rw [handedOn, hr]

lemma set_readers {place : Reader (Option Nat)} (h : m.readers = [place])
    (place' : Reader (Option Nat)) : m.readers.set 0 place' = [place'] := by
  rw [h]
  rfl

private lemma eraseIdx_readers {place : Reader (Option Nat)} (h : m.readers = [place]) :
    m.readers.eraseIdx 0 = [] := by
  rw [h]
  rfl

/-- A section other than the receipt of a line is one of the things that can be done. -/
private lemma Passage.of_transition (hw : Wired m) {action : Action η} {calls : List (Call η)}
    (hn : ∀ i line, action ≠ .receive i line)
    (ht : Monitor.Transition (Link.transport (attaching react) timeout) m action calls m') :
    Passage m (.act action) (m.handedOn action) m' := by
  cases ht with
  | startReached interface transport hc ht =>
    obtain ⟨command, monitor, hrenews⟩ := Link.renews_of_tryConnect hw.numbered ht
    refine .renew hc ?_ hrenews
    have hiff := hw.single.running_iff
    unfold Monitor.setMonitoring Monitor.onConnected
    dsimp only
    -- A reader runs just if there is one, so both tests of whether to start one agree.
    split_ifs with hrunning hnil hnil
    · exact absurd hnil (hiff.1 hrunning)
    · rfl
    · rw [hnil]
      rfl
    · exact absurd (hiff.2 hnil) hrunning
  | startFailed interface transport hc ht | startCrash transport hc hlt ht =>
    exact .keep rfl id (Link.keeps_of_tryConnect hw.numbered ht)
  | stopAll => exact .keep rfl (fun h => nomatch h) (.refl _)
  | processGoOn line h => exact .keep rfl id (keeps_of_classifies h)
  | processTerminate line h => exact .keep rfl (fun h => nomatch h) (keeps_of_classifies h)
  | processCrash commands => exact .keep rfl id (.after react timeout commands m.transport)
  | @checkOn i hr hc =>
    obtain ⟨hm, rfl⟩ := hw.single.readers_eq hr
    exact .check hm hc (set_readers hm .ready) rfl rfl
  | @checkEnd i hr hc =>
    obtain ⟨hm, rfl⟩ := hw.single.readers_eq hr
    exact .finish hm rfl (eraseIdx_readers hm) hc hw.numbered (.inl rfl)
  | @await i hr =>
    -- A reader that is ready has a socket to wait at; that is the invariant `present`.
    obtain ⟨hm, rfl⟩ := hw.single.readers_eq hr
    obtain ⟨n, hmonitor⟩ := hw.present (.inr (hm ▸ List.mem_cons_self))
    refine .await hm hmonitor ((set_readers hm _).trans ?_) rfl ?_
    · exact congrArg (fun source => [Reader.waiting source]) hmonitor
    · exact congrArg (fun source : Option Nat =>
        { m.transport with held := source.toList ++ m.transport.held }) hmonitor
  | receive line => exact absurd rfl (hn _ line)
  | @crash i source hr =>
    -- By the invariant `waits` a reader never waits without a socket.
    obtain ⟨hm, rfl⟩ := hw.single.readers_eq hr
    obtain ⟨n, rfl, -⟩ := hw.waits source (hm ▸ List.mem_cons_self)
    exact .crash hm (set_readers hm .crashed) rfl rfl
  | @handleGoOn i line classified classifier transport hr h hs =>
    rw [handedOn_handle hr]
    obtain ⟨hm, rfl⟩ := hw.single.readers_eq hr
    exact .handle hm (set_readers hm .checking) rfl (keeps_of_classifies h)
  | @handleTerminate i line classified classifier transport hr h hs =>
    -- The line is handled over the link as it is, and only then is the link disconnected.
    rw [handedOn_handle hr]
    obtain ⟨hm, rfl⟩ := hw.single.readers_eq hr
    have hkeeps := keeps_of_classifies h
    obtain ⟨hnumbered, hmonitor, hheld⟩ :=
      Link.numbered_disconnect react timeout (hkeeps.numbered hw.numbered)
    exact .finish hm rfl (eraseIdx_readers hm) rfl hnumbered
      (.inr ⟨hmonitor, hheld.trans hkeeps.held_eq⟩)
  | @handleCrash i line commands hr =>
    obtain ⟨hm, rfl⟩ := hw.single.readers_eq hr
    exact .handleCrash hm (set_readers hm .crashed) rfl
      (.after react timeout commands m.transport)
  | @giveUp i hr =>
    obtain ⟨hm, rfl⟩ := hw.single.readers_eq hr
    obtain ⟨hnumbered, hmonitor, hheld⟩ :=
      Link.numbered_disconnect react timeout hw.numbered
    exact .finish hm rfl (eraseIdx_readers hm) rfl hnumbered
      (.inr ⟨hmonitor, hheld⟩)
  | _ => exact .keep rfl id (.refl _)

/-- A reader that waits at a socket receives the oldest datagram there. -/
private lemma Passage.of_arrive (hw : Wired m) {i : Nat}
    (h : m.arrive? (Link.transport (attaching react) timeout) i = some m') :
    Passage m (.arrive i) [] m' := by
  unfold arrive? at h
  split at h
  · next source hr =>
    obtain ⟨hm, rfl⟩ := hw.single.readers_eq hr
    obtain ⟨n, rfl, -⟩ := hw.waits source (hm ▸ List.mem_cons_self)
    obtain ⟨⟨line, transport⟩, hline, heq⟩ := Option.map_eq_some_iff.1 h
    obtain ⟨⟨text, world⟩, hreceive, hpair⟩ := Option.map_eq_some_iff.1 hline
    obtain ⟨event, queue, hqueue, rfl, rfl⟩ := World.receive?_eq_some_iff.1 hreceive
    cases hpair
    cases heq
    refine .arrive hm hqueue ?_ (Monitor.connected_receive ..) (Monitor.transport_receive ..)
    exact (Monitor.readers_receive ..).trans (set_readers hm _)
  · cases h

lemma Passage.of_step (hw : Wired m) {move : Move η} {lines : List String}
    (h : Watch.step (Link.transport (attaching react) timeout) m move = some (lines, m')) :
    Passage m move lines m' := by
  cases move with
  | act action =>
    obtain ⟨hn, rfl, calls, hstep⟩ := step_act_eq_some_iff.1 h
    exact .of_transition hw hn (.of_step hstep)
  | arrive i =>
    obtain ⟨m₁, h₁, heq⟩ := Option.map_eq_some_iff.1 h
    cases heq
    exact .of_arrive hw h₁
  | report event =>
    cases h
    exact .report event

/-! ### What holds between the moves -/

lemma Wired.new (config : Config) (state : δ) : Wired (new config state : Watch η δ) where
  single := .new config _
  numbered := ⟨nofun, nofun, nofun⟩
  held_eq := rfl
  present := by
    rintro (h | h)
    · cases h
    · cases h
  hears := nofun
  waits := nofun

private lemma single_of_step (hs : m.SingleReader) {move : Move η} {lines : List String}
    (h : Watch.step (Link.transport (attaching react) timeout) m move = some (lines, m')) :
    m'.SingleReader := by
  cases move with
  | act action =>
    obtain ⟨-, -, calls, hstep⟩ := step_act_eq_some_iff.1 h
    exact hs.of_transition (.of_step hstep)
  | arrive i =>
    obtain ⟨m₁, h₁, heq⟩ := Option.map_eq_some_iff.1 h
    cases heq
    unfold arrive? at h₁
    split at h₁
    · next source hr =>
      obtain ⟨⟨line, transport⟩, -, heq⟩ := Option.map_eq_some_iff.1 h₁
      cases heq
      have hs₁ : Monitor.SingleReader { m with transport } := hs.of_length_eq rfl rfl id
      exact hs₁.of_transition (.receive line hr)
    · cases h₁
  | report event =>
    cases h
    exact hs.of_length_eq rfl rfl id

/-- What is left of the sockets when the reader has taken a datagram from the one that it waits
at. -/
lemma Wired.release_arrive (hw : Wired m) {n : Nat} (hr : m.readers = [.waiting (some n)])
    {queue : List (List UInt8)} {l : Link (List Nat × δ)}
    (hl : l = .release (some n)
      { m.transport with world := m.transport.world.setQueue n queue }) :
    l.Numbered ∧ l.held = [] ∧ l.monitor = m.transport.monitor
      ∧ ∀ k, m.transport.monitor = some k → l.Hears k
        ∧ l.world.queueAt k = (m.transport.world.setQueue n queue).queueAt k := by
  have hheld := hw.held_eq
  rw [hr] at hheld
  have hnumbered : Link.Numbered
      { m.transport with world := m.transport.world.setQueue n queue } :=
    ⟨hw.numbered.attached, hw.numbered.command_lt, hw.numbered.monitor_lt⟩
  obtain ⟨hn, hnone, hmonitor, hkeeps⟩ := Link.release_spec hnumbered hheld
  rw [hl]
  refine ⟨hn, hnone, hmonitor, ?_⟩
  intro k hk
  exact hkeeps k hk ⟨(hw.hears k hk).listens.setQueue n queue, (hw.hears k hk).command_ne⟩

/-- While no reader waits no socket is held. -/
private lemma Wired.of_not_waiting (hs : m'.SingleReader) (hn : m'.transport.Numbered)
    (hheld : m'.transport.held = []) (hr : ∀ place ∈ m'.readers, place.isWaiting = false)
    (hp : m'.connected = true ∨ .ready ∈ m'.readers → ∃ n, m'.transport.monitor = some n)
    (hh : ∀ n, m'.transport.monitor = some n → m'.transport.Hears n) : Wired m' := by
  refine ⟨hs, hn, ?_, hp, hh, ?_⟩
  · rw [hheld, eq_comm, List.flatMap_eq_nil_iff]
    intro place hplace
    cases place with
    | waiting => cases hr _ hplace
    | _ => rfl
  · intro source hsource
    cases hr _ hsource

private lemma Wired.of_keeps (hw : Wired m) (hs : m'.SingleReader)
    (hr : m'.readers = m.readers) (hc : m'.connected = true → m.connected = true)
    (hk : m.transport.Keeps m'.transport) : Wired m' := by
  refine ⟨hs, hk.numbered hw.numbered, ?_, ?_, ?_, ?_⟩
  · rw [hk.held_eq, hw.held_eq, hr]
  · -- What has arrived is the same at both sockets, so one is ahead of the other just as before.
    rw [hk.monitor_eq, hr]
    exact fun h => hw.present (h.imp_left hc)
  · rw [hk.monitor_eq]
    exact fun n hn => (hk.hears (hw.hears n hn)).1
  · rw [hk.monitor_eq, hr]
    intro source hsource
    obtain ⟨n, rfl, hn, hempty⟩ := hw.waits source hsource
    refine ⟨n, rfl, (hk.hears hn).1, ?_⟩
    intro hq k hkm
    rw [(hk.hears hn).2] at hq
    rw [(hk.hears (hw.hears k hkm)).2]
    exact hempty hq k hkm

private lemma Wired.of_renews (hw : Wired m) (hs : m'.SingleReader) {command monitor : Nat}
    (hr : m'.readers = if m.readers = [] then [.checking] else m.readers)
    (hk : m.transport.Renews m'.transport command monitor) : Wired m' := by
  -- A reader that starts does not wait yet, so whoever waits has waited before.
  have hsub : ∀ source, .waiting source ∈ m'.readers → .waiting source ∈ m.readers := by
    rw [hr]
    split_ifs
    · simp
    · exact fun _ => id
  refine ⟨hs, hk.numbered, ?_, fun _ => ⟨monitor, hk.monitor_eq⟩, ?_, ?_⟩
  · rw [hk.held_eq, hw.held_eq, hr]
    split_ifs with hnil
    · rw [hnil]
      rfl
    · rfl
  · rw [hk.monitor_eq]
    rintro _ ⟨⟩
    exact hk.hears_monitor
  · intro source hsource
    obtain ⟨n, rfl, hn, -⟩ := hw.waits source (hsub source hsource)
    -- The socket that the reader waits at is held, and so it is not closed with the others.
    have hmem : n ∈ m.transport.held := by
      rw [hw.held_eq]
      exact List.mem_flatMap.2 ⟨_, hsub _ hsource, List.mem_singleton.2 rfl⟩
    refine ⟨n, rfl, (hk.hears hn hmem).1, ?_⟩
    -- Nothing at all has arrived at the new socket yet.
    rw [hk.monitor_eq]
    rintro - _ ⟨⟩
    exact hk.queueAt_eq

private lemma Wired.of_await (hw : Wired m) (hs : m'.SingleReader) {n : Nat}
    (hr : m.readers = [.ready]) (hm : m.transport.monitor = some n)
    (hr' : m'.readers = [.waiting (some n)])
    (ht : m'.transport = { m.transport with held := n :: m.transport.held }) : Wired m' := by
  have hhears : ∀ k, m.transport.monitor = some k →
      Link.Hears { m.transport with held := n :: m.transport.held } k :=
    fun k hk => ⟨(hw.hears k hk).listens, (hw.hears k hk).command_ne⟩
  refine ⟨hs, ?_, ?_, ?_, ?_, ?_⟩
  · rw [ht]
    exact ⟨hw.numbered.attached, hw.numbered.command_lt, hw.numbered.monitor_lt⟩
  · rw [ht, hr', hw.held_eq, hr]
    rfl
  · rw [ht]
    exact fun _ => ⟨n, hm⟩
  · rw [ht]
    exact hhears
  · rw [hr', ht]
    intro source hsource
    cases List.mem_singleton.1 hsource
    refine ⟨n, rfl, hhears n hm, ?_⟩
    intro hq k hk
    cases hm.symm.trans hk
    exact hq

private lemma Wired.of_report (hw : Wired m) (event : List UInt8) :
    Wired { m with transport.world := m.transport.world.report event } := by
  have hhears : ∀ n, m.transport.Hears n →
      Link.Hears { m.transport with world := m.transport.world.report event } n :=
    fun n hn => ⟨hn.listens.report event, hn.command_ne⟩
  refine ⟨hw.single.of_length_eq rfl rfl id, ⟨?_, ?_, ?_⟩, hw.held_eq, hw.present,
    fun n hn => hhears n (hw.hears n hn), ?_⟩
  · exact hw.numbered.attached.report event
  · dsimp only
    rw [World.next_report]
    exact hw.numbered.command_lt
  · dsimp only
    rw [World.next_report]
    exact hw.numbered.monitor_lt
  · intro source hsource
    obtain ⟨n, rfl, hn, -⟩ := hw.waits source hsource
    refine ⟨n, rfl, hhears n hn, ?_⟩
    intro hempty
    dsimp only at hempty
    rw [hn.listens.queueAt_report] at hempty
    simp at hempty

private lemma Wired.of_passage (hw : Wired m) (hs : m'.SingleReader) {move : Move η}
    {lines : List String} (h : Passage m move lines m') : Wired m' := by
  have hheld := hw.held_eq
  cases h with
  | keep hr hc hk => exact hw.of_keeps hs hr hc hk
  | renew hc hr hk => exact hw.of_renews hs hr hk
  | check hr hc hr' hc' ht =>
    -- A reader that goes on has seen the connection, and with it there is a socket.
    have hnone : m'.transport.held = [] := by
      rw [ht, hheld, hr]
      rfl
    refine .of_not_waiting hs (ht ▸ hw.numbered) hnone (by simp [hr', Reader.isWaiting]) ?_
      (ht ▸ hw.hears)
    rw [ht]
    exact fun _ => hw.present (.inl hc)
  | await hr hm hr' hc' ht => exact hw.of_await hs hr hm hr' ht
  | arrive hr hq hr' hc' ht =>
    -- The socket is let go of; if it has been replaced it is closed now, and the other one is left
    -- alone.
    obtain ⟨hn, hnone, hmonitor, hkeeps⟩ := hw.release_arrive hr ht
    refine .of_not_waiting hs hn hnone (by simp [hr', Reader.isWaiting]) ?_ ?_
    · rw [hmonitor, hr', hc']
      exact fun h => hw.present (h.imp_right (by simp))
    · rw [hmonitor]
      exact fun k hk => (hkeeps k hk).1
  | crash hr hr' hc' ht =>
    rw [hr] at hheld
    obtain ⟨hn, hnone, hmonitor, hkeeps⟩ := Link.release_spec hw.numbered hheld
    rw [← ht] at hn hnone hmonitor hkeeps
    refine .of_not_waiting hs hn hnone (by simp [hr', Reader.isWaiting]) ?_ ?_
    · rw [hmonitor, hr', hc']
      exact fun h => hw.present (h.imp_right (by simp))
    · rw [hmonitor]
      exact fun k hk => (hkeeps k hk (hw.hears k hk)).1
  | handle hr hr' hc' hk | handleCrash hr hr' hc' hk =>
    have hnone : m'.transport.held = [] := by
      rw [hk.held_eq, hheld, hr]
      rfl
    refine .of_not_waiting hs (hk.numbered hw.numbered) hnone (by simp [hr', Reader.isWaiting]) ?_
      ?_
    · rw [hk.monitor_eq, hr', hc']
      exact fun h => hw.present (h.imp_right (by simp))
    · rw [hk.monitor_eq]
      exact fun n hn => (hk.hears (hw.hears n hn)).1
  | finish hr hp hr' hc' hn ht =>
    have hnone : m.transport.held = [] := by
      rw [hheld, hr, List.flatMap_singleton, hp]
    have hpresent : ¬(m'.connected = true ∨ .ready ∈ m'.readers) := by
      rw [hr', hc']
      simp
    -- Either the reader was not wanted any more, or it has disconnected the link.
    rcases ht with ht | ⟨hmonitor, hheld'⟩
    · exact .of_not_waiting hs hn (ht ▸ hnone) (by simp [hr']) (absurd · hpresent) (ht ▸ hw.hears)
    · refine .of_not_waiting hs hn (hheld'.trans hnone) (by simp [hr']) (absurd · hpresent) ?_
      rw [hmonitor]
      exact nofun
  | report event => exact hw.of_report event

lemma Wired.of_step (hw : Wired m) {move : Move η} {lines : List String}
    (h : Watch.step (Link.transport (attaching react) timeout) m move = some (lines, m')) :
    Wired m' :=
  hw.of_passage (single_of_step hw.single h) (.of_step hw h)

end Watch

end Socket

end SupplicantWatch
