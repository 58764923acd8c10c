import Mathlib.Tactic.Common
import SupplicantWatch.Proofs.Socket.Endpoint
import SupplicantWatch.Socket.Transport

/-!
# The files of a link

Every socket is bound to a file, which is to go once the link has no use for the socket, and
connecting can fail at each of its steps. Whatever happens around a link, between its calls and
while it connects, the files that are left are those of its two sockets. Main statements:
`connect_eq_ok_iff`, when connecting succeeds, and `isTidy_of_calls`.
-/

namespace SupplicantWatch.Socket

/-- Something that happens around a link without its doing. -/
inductive Happening (δ : Type) where
  /-- The daemon comes, goes or ceases to listen. -/
  | presence (presence : Presence)
  /-- The directory of the socket files comes or goes. -/
  | localDir (hasLocalDir : Bool)
  /-- The state of the daemon changes. -/
  | daemonState (daemonState : δ)
  /-- The daemon sends some datagrams to a socket. -/
  | datagrams (n : Nat) (datagrams : List (List UInt8))
  /-- A number is given to a socket that is not one of the link. -/
  | number

namespace World

variable {δ : Type} {w w' w'' : World δ} {n : Nat}

/-- The world after something has happened. -/
def happen (w : World δ) : Happening δ → World δ
  | .presence presence => { w with presence }
  | .localDir hasLocalDir => { w with hasLocalDir }
  | .daemonState daemonState => { w with daemonState }
  | .datagrams n datagrams => w.deliver n datagrams
  | .number => { w with next := w.next + 1 }

/-! ### What leaves the files alone -/

/-- The files stay as they are, and no number is given twice. -/
structure KeepsFiles (w w' : World δ) : Prop where
  files_eq : w'.files = w.files
  next_le : w.next ≤ w'.next

namespace KeepsFiles

lemma refl (w : World δ) : KeepsFiles w w :=
  ⟨rfl, Nat.le_refl _⟩

lemma trans (h : KeepsFiles w w') (h' : KeepsFiles w' w'') : KeepsFiles w w'' :=
  ⟨h'.files_eq.trans h.files_eq, Nat.le_trans h.next_le h'.next_le⟩

lemma setQueue (w : World δ) (n : Nat) (queue : List (List UInt8)) :
    KeepsFiles w (w.setQueue n queue) :=
  ⟨rfl, Nat.le_refl _⟩

lemma deliver (w : World δ) (n : Nat) (datagrams : List (List UInt8)) :
    KeepsFiles w (w.deliver n datagrams) := by
  unfold World.deliver
  split
  · split_ifs
    · exact setQueue w n _
    · exact refl w
  · exact refl w

lemma send (react : Reaction δ) (w : World δ) (n : Nat) (command : String) :
    KeepsFiles w (w.send react n command).2 := by
  cases he : w.endpoint? n with
  | none =>
    rw [World.send, he]
    exact refl w
  | some e =>
    by_cases hp : w.presence = .running e.daemon
    · rw [send_eq he hp]
      have hhear : KeepsFiles w (w.hear n command (react w.daemonState n command).2) :=
        ⟨rfl, Nat.le_refl _⟩
      exact hhear.trans (deliver _ n _)
    · rw [World.send, he]
      dsimp only
      rw [if_neg hp]
      exact refl w

lemma request (react : Reaction δ) (w : World δ) (n : Nat) (command : String) (timeout : Nat) :
    KeepsFiles w (w.request react n command timeout).2 := by
  have hsend := send react w n command
  unfold World.request
  split
  · next heq =>
    rw [heq] at hsend
    exact hsend
  · next heq =>
    rw [heq] at hsend
    split_ifs
    · exact hsend
    · exact hsend.trans (setQueue _ n _)

lemma happen (w : World δ) (happening : Happening δ) : KeepsFiles w (w.happen happening) := by
  cases happening with
  | datagrams n datagrams => exact deliver w n datagrams
  | number => exact ⟨rfl, Nat.le_succ _⟩
  | _ => exact ⟨rfl, Nat.le_refl _⟩

lemma foldl_happen (w : World δ) (happenings : List (Happening δ)) :
    KeepsFiles w (happenings.foldl World.happen w) := by
  induction happenings generalizing w with
  | nil => exact refl w
  | cons happening happenings ih => exact (happen w happening).trans (ih _)

end KeepsFiles

/-! ### Opening and closing -/

/-- Every file belongs to a number that has been given to a socket. -/
def FilesNumbered (w : World δ) : Prop :=
  ∀ n ∈ w.files, n < w.next

lemma FilesNumbered.of_keepsFiles (h : w.FilesNumbered) (hk : KeepsFiles w w') :
    w'.FilesNumbered := by
  intro n hn
  rw [hk.files_eq] at hn
  exact Nat.lt_of_lt_of_le (h n hn) hk.next_le

lemma FilesNumbered.notMem (h : w.FilesNumbered) (hn : w.next ≤ n) : n ∉ w.files :=
  fun hmem => Nat.not_lt_of_le hn (h n hmem)

/-- A new socket brings a file of a new number. -/
structure AddsFile (n : Nat) (w w' : World δ) : Prop where
  files_eq : w'.files = n :: w.files
  next_le : w.next ≤ n
  lt_next : n < w'.next

lemma AddsFile.trans_keepsFiles (h : AddsFile n w w') (hk : KeepsFiles w' w'') :
    AddsFile n w w'' :=
  ⟨hk.files_eq.trans h.files_eq, h.next_le, Nat.lt_of_lt_of_le h.lt_next hk.next_le⟩

lemma AddsFile.filesNumbered (h : AddsFile n w w') (hw : w.FilesNumbered) : w'.FilesNumbered := by
  intro k hk
  rw [h.files_eq] at hk
  rcases List.mem_cons.1 hk with rfl | hk
  · exact h.lt_next
  · exact Nat.lt_trans (Nat.lt_of_lt_of_le (hw k hk) h.next_le) h.lt_next

/-- A socket that is given up again has left no file. -/
lemma AddsFile.unlink (h : AddsFile n w w') (hw : w.FilesNumbered) :
    KeepsFiles w (w'.unlink n) := by
  refine ⟨?_, Nat.le_trans h.next_le (Nat.le_of_lt h.lt_next)⟩
  have hn := hw.notMem h.next_le
  rw [World.unlink, h.files_eq]
  dsimp only
  rw [List.filter_cons_of_neg (by simp), List.filter_eq_self]
  intro k hk
  rw [bne_iff_ne]
  rintro rfl
  exact hn hk

lemma AddsFile.close (h : AddsFile n w w') (hw : w.FilesNumbered) : KeepsFiles w (w'.close n) :=
  ⟨(h.unlink hw).files_eq, (h.unlink hw).next_le⟩

/-- The world once a new socket is bound to its file. -/
def bound (w : World δ) : World δ :=
  { w with next := w.next + 1, files := w.next :: w.files }

lemma addsFile_bound (w : World δ) : AddsFile w.next w w.bound :=
  ⟨rfl, Nat.le_refl _, Nat.lt_succ_self _⟩

/-- Opens a socket while other things happen, after it is bound to its file and before it is
connected. One that cannot be connected is given up. -/
def openAmid (w : World δ) (amid : List (Happening δ)) : Except IoError Nat × World δ :=
  let n := w.next
  if !w.hasLocalDir then (.error .notFound, { w with next := n + 1 })
  else
    let w := amid.foldl happen w.bound
    match w.presence with
    | .absent => (.error .notFound, w.unlink n)
    | .deaf => (.error .connectionRefused, w.unlink n)
    | .running daemon => (.ok n, { w with endpoints := (n, ⟨daemon, []⟩) :: w.endpoints })

/-- A socket that cannot be opened leaves no file. -/
lemma openAmid_cases (h : w.FilesNumbered) (amid : List (Happening δ)) :
    (∃ e w', w.openAmid amid = (.error e, w') ∧ KeepsFiles w w')
      ∨ ∃ n w', w.openAmid amid = (.ok n, w') ∧ AddsFile n w w' := by
  have hadds := w.addsFile_bound.trans_keepsFiles (.foldl_happen _ amid)
  unfold openAmid
  dsimp only
  split
  · exact .inl ⟨_, _, rfl, rfl, Nat.le_succ _⟩
  · split
    · exact .inl ⟨_, _, rfl, hadds.unlink h⟩
    · exact .inl ⟨_, _, rfl, hadds.unlink h⟩
    · exact .inr ⟨_, _, rfl, hadds.files_eq, hadds.next_le, hadds.lt_next⟩

/-- If nothing else happens, that is how a socket is opened. -/
lemma openAmid_nil (h : w.FilesNumbered) : w.openAmid [] = w.openSocket := by
  have hgone : w.bound.unlink w.next = { w with next := w.next + 1 } :=
    congrArg (fun files => { w with next := w.next + 1, files })
      (w.addsFile_bound.unlink h).files_eq
  rw [openAmid, openSocket, List.foldl_nil]
  dsimp only
  rw [hgone]
  rfl

lemma files_elim_close (w : World δ) (socket : Option Nat) :
    (socket.elim w w.close).files = w.files.filter (· ∉ socket.toList) := by
  cases socket with
  | none => exact (List.filter_eq_self.2 (by simp)).symm
  | some n =>
    refine List.filter_congr ?_
    intro k _
    rw [Bool.eq_iff_iff]
    simp

lemma next_elim_close (w : World δ) (socket : Option Nat) :
    (socket.elim w w.close).next = w.next := by
  cases socket <;> rfl

end World

namespace Link

variable {δ : Type} {l : Link δ} {react : Reaction δ} {timeout : Nat}

open World (KeepsFiles FilesNumbered AddsFile)

/-! ### Calls -/

/-- What happens while a link connects. -/
structure Meanwhile (δ : Type) where
  /-- While the socket for commands is opened. -/
  first : List (Happening δ) := []
  /-- Between the two sockets. -/
  between : List (Happening δ) := []
  /-- While the socket for events is opened. -/
  second : List (Happening δ) := []
  /-- Before the daemon is asked for events. -/
  before : List (Happening δ) := []

/-- Connects while other things happen. -/
def connectAmid (react : Reaction δ) (timeout : Nat) (amid : Meanwhile δ) (l : Link δ) :
    Except IoError Unit × Link δ :=
  match l.world.openAmid amid.first with
  | (.error e, world) => (.error e, { l with world })
  | (.ok command, world) =>
    match (amid.between.foldl World.happen world).openAmid amid.second with
    | (.error e, world) => (.error e, { l with world := world.close command })
    | (.ok monitor, world) =>
      match (amid.before.foldl World.happen world).request react monitor "ATTACH" timeout with
      | (.error e, world) => (.error e, { l with world := (world.close monitor).close command })
      | (.ok reply, world) =>
        let reply := String.ofList (Text.trimEnd reply.toList)
        if reply = "OK" then (.ok (), { l with world }.replace (some command) (some monitor))
        else
          (.error (.attachRejected reply), { l with world := (world.close monitor).close command })

/-- If nothing else happens, that is how a link connects. -/
lemma connectAmid_nothing (h : l.world.FilesNumbered) (react : Reaction δ) (timeout : Nat) :
    l.connectAmid react timeout {} = l.connect react timeout := by
  rw [connectAmid, connect, World.openAmid_nil h]
  rcases World.openAmid_cases h [] with ⟨e, w, hopen, -⟩ | ⟨command, w, hopen, hadds⟩
  · rw [World.openAmid_nil h] at hopen
    rw [hopen]
  · rw [World.openAmid_nil h] at hopen
    rw [hopen]
    dsimp only
    rw [List.foldl_nil, World.openAmid_nil (hadds.filesNumbered h)]
    rfl

/-- A call of a link, or something that happens in between. -/
inductive Call (δ : Type) where
  | happening (happening : Happening δ)
  | connect (amid : Meanwhile δ)
  | query (command : String)
  | disconnect

/-- The link after a call. -/
def perform (react : Reaction δ) (timeout : Nat) (l : Link δ) : Call δ → Link δ
  | .happening happening => { l with world := l.world.happen happening }
  | .connect amid => (l.connectAmid react timeout amid).2
  | .query command => (l.query react timeout command).2
  | .disconnect => l.disconnect react timeout

/-! ### Tidiness -/

/-- A link has two sockets or none, and the files that exist are those of its sockets. -/
structure IsTidy (l : Link δ) : Prop where
  isSome_iff : l.command.isSome ↔ l.monitor.isSome
  files_eq : l.world.files = l.monitor.toList ++ l.command.toList
  numbered : l.world.FilesNumbered
  /-- No events are awaited. -/
  held_eq : l.held = []

/-- How connecting ends: it fails and leaves the sockets and the files as they were, or two new
sockets are all that there is. -/
inductive Connects (l : Link δ) : Except IoError Unit × Link δ → Prop where
  | failed {e : IoError} {world : World δ} (h : KeepsFiles l.world world) :
    Connects l (.error e, { l with world })
  | connected {l' : Link δ} {command monitor : Nat} (hcommand : l'.command = some command)
      (hmonitor : l'.monitor = some monitor) (hnew : l.world.next ≤ command)
      (hlt : command < monitor) (hfiles : l'.world.files = [monitor, command])
      (hnext : monitor < l'.world.next) (hheld : l'.held = []) :
    Connects l (.ok (), l')

/-! ### Steps -/

private lemma elim_drop_eq (h : l.held = []) (socket : Option Nat) :
    socket.elim l l.drop = { l with world := socket.elim l.world l.world.close } := by
  cases socket with
  | none => rfl
  | some n =>
    rw [Option.elim_some, drop, if_neg (h ▸ List.not_mem_nil)]
    rfl

private lemma filter_notMem_append (new : List Nat) {old : List Nat} (h : ∀ n ∈ new, n ∉ old) :
    (new ++ old).filter (· ∉ old) = new := by
  rw [List.filter_append, List.filter_eq_self.2, List.filter_eq_nil_iff.2, List.append_nil]
  · intro n hn
    rw [decide_eq_true_iff]
    exact not_not_intro hn
  · intro n hn
    exact decide_eq_true (h n hn)

/-- Where no events are awaited, the sockets that are replaced leave no files. -/
lemma exists_replace_eq (h : l.held = []) (world : World δ) (command monitor : Option Nat) :
    ∃ world',
      { l with world }.replace command monitor = { l with world := world', command, monitor }
      ∧ world'.files = world.files.filter (· ∉ l.monitor.toList ++ l.command.toList)
      ∧ world'.next = world.next := by
  let w := l.command.elim world world.close
  refine ⟨l.monitor.elim w w.close, ?_, ?_, ?_⟩
  · rw [replace, elim_drop_eq (l := { l with world, command, monitor }) h]
    exact elim_drop_eq (l := { l with world := w, command, monitor }) h l.monitor
  · rw [World.files_elim_close, World.files_elim_close, List.filter_filter]
    refine List.filter_congr ?_
    intro k _
    rw [Bool.eq_iff_iff]
    simp
  · rw [World.next_elim_close, World.next_elim_close]

/-- Two new sockets in the place of those of a tidy link are all that there is. -/
lemma IsTidy.connects_replace (h : l.IsTidy) {world world' : World δ} {command monitor : Nat}
    (hcommand : AddsFile command l.world world) (hmonitor : AddsFile monitor world world') :
    l.Connects (.ok (), { l with world := world' }.replace (some command) (some monitor)) := by
  obtain ⟨world'', heq, hfiles, hnext⟩ :=
    exists_replace_eq h.held_eq world' (some command) (some monitor)
  have hlt : command < monitor := Nat.lt_of_lt_of_le hcommand.lt_next hmonitor.next_le
  -- The files of the old sockets have smaller numbers, so the new files are not removed with them.
  have hnew {n : Nat} (hn : l.world.next ≤ n) : n ∉ l.monitor.toList ++ l.command.toList := by
    rw [← h.files_eq]
    exact h.numbered.notMem hn
  have hall : world'.files = [monitor, command] ++ (l.monitor.toList ++ l.command.toList) := by
    rw [hmonitor.files_eq, hcommand.files_eq, h.files_eq]
    rfl
  rw [heq]
  refine .connected rfl rfl hcommand.next_le hlt ?_ (hnext ▸ hmonitor.lt_next) h.held_eq
  rw [hfiles, hall]
  refine filter_notMem_append [monitor, command] ?_
  intro n hn
  rcases List.mem_cons.1 hn with rfl | hn
  · exact hnew (Nat.le_trans hcommand.next_le (Nat.le_of_lt hlt))
  · rw [List.mem_singleton.1 hn]
    exact hnew hcommand.next_le

/-- Whatever happens meanwhile, connecting ends in one of the two ways. -/
lemma IsTidy.connects (h : l.IsTidy) (react : Reaction δ) (timeout : Nat)
    (amid : Meanwhile δ) : l.Connects (l.connectAmid react timeout amid) := by
  -- Along the four steps: a step that fails closes the sockets opened before it, which brings the
  -- files back to those of the link.
  rw [connectAmid]
  rcases World.openAmid_cases h.numbered amid.first with
    ⟨e, w, hopen, hk⟩ | ⟨command, w, hopen, hc⟩
  · rw [hopen]
    exact .failed hk
  rw [hopen]
  dsimp only
  have hcommand := hc.trans_keepsFiles (.foldl_happen w amid.between)
  have hnumbered := hcommand.filesNumbered h.numbered
  rcases World.openAmid_cases hnumbered amid.second with
    ⟨e, w', hopen', hk⟩ | ⟨monitor, w', hopen', hm⟩
  · rw [hopen']
    exact .failed ((hcommand.trans_keepsFiles hk).close h.numbered)
  rw [hopen']
  dsimp only
  have hlt : command < monitor := Nat.lt_of_lt_of_le hcommand.lt_next hm.next_le
  have hrequest {result : Except IoError String} {w'' : World δ}
      (hr : (amid.before.foldl World.happen w').request react monitor "ATTACH" timeout
        = (result, w'')) : AddsFile monitor (amid.between.foldl World.happen w) w'' := by
    have hk := KeepsFiles.request react (amid.before.foldl World.happen w') monitor "ATTACH" timeout
    rw [hr] at hk
    exact hm.trans_keepsFiles ((KeepsFiles.foldl_happen w' amid.before).trans hk)
  have hclose {w'' : World δ} (hadds : AddsFile monitor (amid.between.foldl World.happen w) w'') :
      KeepsFiles l.world ((w''.close monitor).close command) :=
    (hcommand.trans_keepsFiles (hadds.close hnumbered)).close h.numbered
  split
  · next e w'' hr => exact .failed (hclose (hrequest hr))
  · next reply w'' hr =>
    split_ifs
    · exact h.connects_replace hcommand (hrequest hr)
    · exact .failed (hclose (hrequest hr))

/-- However connecting ends, the link is tidy. -/
lemma Connects.isTidy {result : Except IoError Unit × Link δ} (h : l.Connects result)
    (hl : l.IsTidy) : result.2.IsTidy := by
  cases h with
  | failed hk =>
    exact ⟨hl.isSome_iff, hk.files_eq.trans hl.files_eq, hl.numbered.of_keepsFiles hk, hl.held_eq⟩
  | connected hcommand hmonitor hnew hlt hfiles hnext hheld =>
    refine ⟨?_, ?_, ?_, hheld⟩
    · rw [hcommand, hmonitor]
      exact Iff.rfl
    · rw [hcommand, hmonitor, hfiles]
      rfl
    · intro n hn
      rw [hfiles] at hn
      rcases List.mem_cons.1 hn with rfl | hn
      · exact hnext
      · rw [List.mem_singleton.1 hn]
        exact Nat.lt_trans hlt hnext

lemma IsTidy.query (h : l.IsTidy) (react : Reaction δ) (timeout : Nat) (command : String) :
    (l.query react timeout command).2.IsTidy := by
  rw [Link.query]
  split
  · exact h
  · next n _ =>
    have hk := KeepsFiles.request react l.world n command timeout
    exact ⟨h.isSome_iff, hk.files_eq.trans h.files_eq, h.numbered.of_keepsFiles hk, h.held_eq⟩

/-- After disconnecting there is no socket and no file. -/
lemma IsTidy.disconnect (h : l.IsTidy) (react : Reaction δ) (timeout : Nat) :
    (l.disconnect react timeout).IsTidy
      ∧ (l.disconnect react timeout).command = none
      ∧ (l.disconnect react timeout).world.files = [] := by
  obtain ⟨w, hk, heq⟩ : ∃ w, KeepsFiles l.world w
      ∧ l.disconnect react timeout = { l with world := w }.replace none none := by
    rw [Link.disconnect]
    cases l.monitor with
    | none => exact ⟨_, .refl _, rfl⟩
    | some n => exact ⟨_, .request react l.world n "DETACH" timeout, rfl⟩
  obtain ⟨world, heq', hfiles, hnext⟩ := exists_replace_eq h.held_eq w none none
  have hnil : world.files = [] := by
    rw [hfiles, hk.files_eq, h.files_eq]
    exact filter_notMem_append [] nofun
  rw [heq, heq']
  refine ⟨⟨Iff.rfl, hnil, ?_, h.held_eq⟩, rfl, hnil⟩
  intro n hn
  rw [hnil] at hn
  cases hn

/-- A call leaves a tidy link tidy. -/
theorem IsTidy.perform (h : l.IsTidy) (react : Reaction δ) (timeout : Nat) (call : Call δ) :
    (l.perform react timeout call).IsTidy := by
  cases call with
  | happening happening =>
    have hk := KeepsFiles.happen l.world happening
    exact ⟨h.isSome_iff, hk.files_eq.trans h.files_eq, h.numbered.of_keepsFiles hk, h.held_eq⟩
  | connect amid => exact (h.connects react timeout amid).isTidy h
  | query command => exact h.query react timeout command
  | disconnect => exact (h.disconnect react timeout).1

/-- Calls leave a tidy link tidy. -/
theorem IsTidy.foldl_perform (h : l.IsTidy) (react : Reaction δ) (timeout : Nat)
    (calls : List (Call δ)) : (calls.foldl (Link.perform react timeout) l).IsTidy := by
  induction calls generalizing l with
  | nil => exact h
  | cons call calls ih => exact ih (h.perform react timeout call)

/-! ### Connecting -/

/-- If nothing else happens, connecting succeeds exactly where both sockets can be opened, some time
is allowed for the reply, and the first reply of the daemon to the request for events is `OK` with
white space behind it or none. The socket that asks is the second of the two. -/
theorem connect_eq_ok_iff (react : Reaction δ) (timeout : Nat) (l : Link δ) :
    (l.connect react timeout).1 = .ok ()
      ↔ l.world.hasLocalDir = true ∧ (∃ daemon, l.world.presence = .running daemon) ∧ timeout ≠ 0
        ∧ ∃ reply,
          (World.firstReply (react l.world.daemonState (l.world.next + 1) "ATTACH").1).1
            = some reply
          ∧ String.ofList (Text.trimEnd reply.toList) = "OK" := by
  by_cases hsetting : l.world.hasLocalDir = true ∧ ∃ daemon, l.world.presence = .running daemon
  · -- The first socket takes nothing away that the second needs, so both can be opened.
    obtain ⟨command, w, hcommand⟩ := World.exists_openSocket_eq_ok_iff.2 hsetting
    obtain ⟨hdir, hpresence⟩ := World.openSocket_setting hcommand
    rw [← hdir, ← hpresence] at hsetting
    obtain ⟨monitor, w', hmonitor⟩ := World.exists_openSocket_eq_ok_iff.2 hsetting
    obtain ⟨-, hnext, -, -, hstate⟩ := World.openSocket_eq_ok hcommand
    obtain ⟨rfl, -, hconnected, hqueue, hstate'⟩ := World.openSocket_eq_ok hmonitor
    have hrequest := hconnected.request_eq react "ATTACH" timeout rfl
    rw [hqueue, List.nil_append, hstate', hstate, hnext] at hrequest
    rw [connect, hcommand]
    dsimp only
    rw [hmonitor]
    dsimp only
    rw [hnext, hrequest, ← hdir, ← hpresence]
    by_cases ht : timeout = 0
    · rw [if_pos ht]
      exact iff_of_false (by simp) fun h => h.2.2.1 ht
    · rw [if_neg ht]
      cases (World.firstReply (react l.world.daemonState (l.world.next + 1) "ATTACH").1).1 with
      | none => simp
      | some reply =>
        by_cases hreply : String.ofList (Text.trimEnd reply.toList) = "OK"
        · simp [hreply, hsetting, ht]
        · simp [hreply]
  · have hfails : ∀ n w, l.world.openSocket ≠ (.ok n, w) := by
      intro n w h
      exact hsetting (World.exists_openSocket_eq_ok_iff.1 ⟨n, w, h⟩)
    refine iff_of_false ?_ fun h => hsetting ⟨h.1, h.2.1⟩
    rw [connect]
    rcases hopen : l.world.openSocket with ⟨result, w⟩
    cases result with
    | error e => simp
    | ok n => exact absurd hopen (hfails n w)

/-! ### Runs -/

/-- The link before the first call. -/
def start (hasLocalDir : Bool) (presence : Presence) (daemonState : δ) : Link δ :=
  { world := .initial hasLocalDir presence daemonState }

lemma isTidy_start (hasLocalDir : Bool) (presence : Presence) (daemonState : δ) :
    (start hasLocalDir presence daemonState).IsTidy :=
  ⟨Iff.rfl, rfl, nofun, rfl⟩

/-- After any calls, whatever has happened in between, a link has two sockets or none, and the files
that exist are those of its sockets. If it then connects, that fails and changes nothing of this, or
leaves two new files; if it disconnects, none is left. -/
theorem isTidy_of_calls (react : Reaction δ) (timeout : Nat) (hasLocalDir : Bool)
    (presence : Presence) (daemonState : δ) (calls : List (Call δ)) :
    let l := calls.foldl (perform react timeout) (start hasLocalDir presence daemonState)
    l.IsTidy
      ∧ (∀ amid, l.Connects (l.connectAmid react timeout amid))
      ∧ (l.disconnect react timeout).world.files = [] := by
  intro l
  have htidy : l.IsTidy :=
    (isTidy_start hasLocalDir presence daemonState).foldl_perform react timeout calls
  exact ⟨htidy, htidy.connects react timeout, (htidy.disconnect react timeout).2.2⟩

/-- Connecting succeeds, then fails at its second socket because the daemon has gone, and succeeds
again once a daemon listens, with sockets 4 and 6 in the place of 0 and 1. -/
example :
    let agree : Reaction Unit := fun state _ _ => ([Utf8.encode "OK\n".toList], state)
    let calls := [.connect {}, .connect { second := [.presence .absent] },
      .happening (.presence (.running 1)), .connect { between := [.number] }]
    (calls.foldl (perform agree 1000) (start true (.running 0) ())).world.files = [6, 4] := by
  decide +kernel

end Link

end SupplicantWatch.Socket
