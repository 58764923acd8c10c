import Mathlib.Data.List.Induction
import Mathlib.Tactic.Common
import SupplicantWatch.Proofs.Classifier.Attribution
import SupplicantWatch.Proofs.Classifier.ReceiveErrors

/-!
# The access point of the last connection

For each interface the classifier keeps one address, or none. Which one it is follows from the lines
alone: it is what the latest report of a completed connection about that interface shows, also if
that is nothing. Main statement: `remembers_runOn`, with the notices that carry the address.
-/

namespace SupplicantWatch

variable {text : List Char}

/-! ### Addresses in a report -/

namespace Control

/-- A text shows an address where it says that a connection is complete: between the first
`Connection to ` and the next ` completed` after it. -/
def Shows (text : List Char) (bssid : MacAddress) : Prop :=
  ∃ front address rest,
    text = front ++ "Connection to ".toList ++ (address ++ " completed".toList ++ rest)
    ∧ (∀ front' rest', text = front' ++ "Connection to ".toList ++ rest' →
        front.length ≤ front'.length)
    ∧ (∀ address' rest', address ++ " completed".toList ++ rest
        = address' ++ " completed".toList ++ rest' → address.length ≤ address'.length)
    ∧ MacAddress.ofChars? address = some bssid

theorem connectedAddress?_eq_some_iff {bssid : MacAddress} :
    connectedAddress? text = some bssid ↔ Shows text bssid := by
  simp only [connectedAddress?, Option.bind_eq_bind, Option.bind_eq_some_iff]
  constructor
  · rintro ⟨⟨front, tail⟩, hfront, ⟨address, rest⟩, haddress, hbssid⟩
    obtain ⟨htext, hfirst⟩ := Text.find?_eq_some_iff.1 hfront
    obtain ⟨rfl, hnext⟩ := Text.find?_eq_some_iff.1 haddress
    exact ⟨front, address, rest, htext, hfirst, hnext, hbssid⟩
  · rintro ⟨front, address, rest, htext, hfirst, hnext, hbssid⟩
    exact ⟨_, Text.find?_eq_some_iff.2 ⟨htext, hfirst⟩, _, Text.find?_eq_some_iff.2 ⟨rfl, hnext⟩,
      hbssid⟩

end Control

/-! ### Notices -/

/-- The access point that a management notice names. -/
def ManagementNotice.bssid : ManagementNotice → MacAddress
  | subscriptionRemediation bssid _ _ => bssid
  | deauthImminent bssid _ _ _ => bssid

/-- A verdict that is a management notice names the given access point. -/
def Verdict.NamesOnly (bssid : MacAddress) (verdict : Verdict) : Prop :=
  ∀ notice, verdict = .event (.management notice) → notice.bssid = bssid

namespace Verdict.NamesOnly

variable {bssid : MacAddress}

lemma remediation (text : List Char) :
    NamesOnly bssid (Classifier.verdictOf (Hotspot.remediationEvent text bssid)) := by
  intro notice hv
  rw [Hotspot.remediationEvent] at hv
  repeat' split at hv
  all_goals cases hv
  rfl

lemma deauth (text : List Char) :
    NamesOnly bssid (Classifier.verdictOf (Hotspot.deauthEvent text bssid)) := by
  intro notice hv
  rw [Hotspot.deauthEvent] at hv
  repeat' split at hv
  all_goals cases hv
  rfl

end Verdict.NamesOnly

lemma yields_anqpEvent (bssid : MacAddress) (text : List Char) :
    (Hotspot.anqpEvent text).Yields fun reading =>
      (Classifier.verdictOf reading).NamesOnly bssid := by
  rw [Hotspot.anqpEvent]
  repeat' split
  · exact nofun
  · rw [Dialogue.yields_bind_iff]
    refine Dialogue.yields_of_forall ?_ _
    intro description
    exact nofun
  · exact nofun
  · exact nofun

lemma yields_iconEvent (bssid : MacAddress) (text : List Char) (chunkSize : Nat) :
    (Hotspot.iconEvent text chunkSize).Yields fun reading =>
      (Classifier.verdictOf reading).NamesOnly bssid := by
  rw [Hotspot.iconEvent]
  split
  · split
    · exact nofun
    · exact nofun
    · dsimp only
      split_ifs
      · rw [Dialogue.yields_bind_iff]
        refine Dialogue.yields_of_forall ?_ _
        intro data
        exact nofun
      · exact nofun
  · exact nofun

/-- Whatever the daemon replies, a management notice names the access point that it is given. -/
lemma namesOnly_familyVerdict (chunkSize : Nat) (bssid : MacAddress) (text : List Char)
    (family : Family) :
    (Classifier.familyVerdict chunkSize bssid text family).Yields (Verdict.NamesOnly bssid) := by
  by_cases hf : family ∈ [.anqp, .icon, .remediation, .deauth]
  · simp only [List.mem_cons, List.not_mem_nil, or_false] at hf
    rcases hf with rfl | rfl | rfl | rfl
    · exact Dialogue.yields_map_iff.2 (yields_anqpEvent bssid text)
    · exact Dialogue.yields_map_iff.2 (yields_iconEvent bssid text chunkSize)
    · exact .remediation text
    · exact .deauth text
  · obtain ⟨verdict, hv, hevent⟩ := Classifier.familyVerdict_eq_pure hf chunkSize bssid text
    rw [hv]
    intro notice h
    cases hevent _ h

namespace Classifier

open Control (HasName Shows)

variable {σ : Type} {c : Classifier} {i j : String}

/-! ### One line -/

lemma reportsConnection_iff : reportsConnection text = true ↔ HasName "CONNECTED" text := by
  have hrow : ("CONNECTED", Control.Kind.connected) ∈ Control.Kind.table := by
    decide
  rw [reportsConnection, Bool.and_eq_true, List.isPrefixOf_iff_prefix, beq_iff_eq, HasName,
    Control.kind?_eq_some_iff hrow]

lemma lastBssid?_remember_of_hasName (h : HasName "CONNECTED" text) :
    (c.remember j text).lastBssid? i
      = if i = j then Control.connectedAddress? text else c.lastBssid? i := by
  rw [remember, if_pos (reportsConnection_iff.2 h), lastBssid?, lastBssid?, Table.get?_insert]
  split_ifs
  · rfl
  · rfl

lemma remember_of_not_hasName (h : ¬HasName "CONNECTED" text) : c.remember j text = c := by
  rw [remember, if_neg (reportsConnection_iff.not.2 h)]

/-- An interface remembers nothing of a line about another one. -/
lemma lastBssid?_remember_of_ne (h : i ≠ j) :
    (c.remember j text).lastBssid? i = c.lastBssid? i := by
  by_cases hc : HasName "CONNECTED" text
  · rw [lastBssid?_remember_of_hasName hc, if_neg h]
  · rw [remember_of_not_hasName hc]

lemma lastBssid?_settle (verdict : Verdict) :
    (c.settle j verdict).2.lastBssid? i = c.lastBssid? i := by
  cases verdict with
  | receiveError =>
    rw [settle]
    split_ifs <;> rfl
  | _ => rfl

/-- A management notice names the access point that its interface remembers from before. -/
lemma namesOnly_verdict (c : Classifier) (i : String) (text : List Char) :
    ((c.remember i text).verdict i text).Yields
      (Verdict.NamesOnly ((c.lastBssid? i).getD .zero)) := by
  rw [verdict]
  cases hf : Family.of? text with
  | none =>
    intro notice h
    cases h
  | some family =>
    refine Dialogue.Yields.onInterface ?_ i
    by_cases hc : HasName "CONNECTED" text
    · have hcontrol := Family.of?_eq_control_iff.2 hc.1
      rw [hf, Option.some.injEq] at hcontrol
      subst hcontrol
      intro notice h
      cases Control.isHotspot_eq_false h
    · rw [remember_of_not_hasName hc]
      exact namesOnly_familyVerdict _ _ text family

/-! ### Reports -/

/-- An input is a report of a completed connection of an interface, with the given text. -/
def Input.Reports (config : Config) (i : String) (text : List Char) : Input → Prop
  | reset => False
  | line isRegistered raw => IsAbout config isRegistered raw i text ∧ HasName "CONNECTED" text

/-- Among some inputs the latest report of a completed connection of an interface has the given
text. -/
def LatestReport (config : Config) (i : String) (inputs : List Input) (text : List Char) : Prop :=
  ∃ earlier report later,
    inputs = earlier ++ report :: later ∧ report.Reports config i text
    ∧ ∀ input ∈ later, ∀ text', ¬input.Reports config i text'

variable {config : Config} {inputs : List Input} {input : Input}

lemma Input.Reports.unique {text' : List Char} (h : input.Reports config i text)
    (h' : input.Reports config i text') : text = text' := by
  cases input with
  | reset => exact h.elim
  | line isRegistered raw => exact (h.1.unique h'.1).2

lemma not_latestReport_nil : ¬LatestReport config i [] text := by
  rintro ⟨earlier, report, later, h, -⟩
  cases earlier <;> cases h

/-- The latest report among some inputs and one more is that one, or it is none and the latest
report is among the others. -/
lemma latestReport_append_iff :
    LatestReport config i (inputs ++ [input]) text
      ↔ input.Reports config i text
        ∨ (∀ text', ¬input.Reports config i text') ∧ LatestReport config i inputs text := by
  constructor
  · rintro ⟨earlier, report, later, heq, hr, hlater⟩
    -- Either nothing comes after the report, and it is the last input, or the last input comes
    -- after it.
    rcases List.eq_nil_or_concat later with rfl | ⟨later, last, rfl⟩
    · obtain ⟨-, hinput⟩ := List.append_inj' heq rfl
      cases hinput
      exact .inl hr
    · rw [List.concat_eq_append, ← List.cons_append, ← List.append_assoc] at heq
      obtain ⟨hinputs, hinput⟩ := List.append_inj' heq rfl
      cases hinput
      rw [List.concat_eq_append, List.forall_mem_append] at hlater
      exact .inr ⟨hlater.2 input List.mem_cons_self, earlier, report, later, hinputs, hr, hlater.1⟩
  · rintro (h | ⟨h, earlier, report, later, rfl, hr, hlater⟩)
    · exact ⟨inputs, input, [], rfl, h, nofun⟩
    · refine ⟨earlier, report, later ++ [input], by simp, hr, ?_⟩
      rw [List.forall_mem_append, List.forall_mem_singleton]
      exact ⟨hlater, h⟩

lemma latestReport_append_of_reports (h : input.Reports config i text) {text' : List Char} :
    LatestReport config i (inputs ++ [input]) text' ↔ text' = text := by
  rw [latestReport_append_iff]
  constructor
  · rintro (h' | ⟨hn, -⟩)
    · exact h'.unique h
    · exact absurd h (hn text)
  · rintro rfl
    exact .inl h

lemma latestReport_append_of_not_reports (h : ∀ text, ¬input.Reports config i text) :
    LatestReport config i (inputs ++ [input]) text ↔ LatestReport config i inputs text := by
  rw [latestReport_append_iff, or_iff_right (h text)]
  exact and_iff_right h

/-! ### One input -/

variable {run : Run σ}

/-- The classifier after a line about an interface. -/
lemma classifier_feed_of_isAbout {isRegistered : String → Bool} {raw : String}
    (h : IsAbout run.classifier.config isRegistered raw j text) (daemon : Daemon σ) :
    ∃ verdict, (run.feed daemon (.line isRegistered raw)).classifier
      = ((run.classifier.remember j text).settle j verdict).2 := by
  obtain ⟨verdict, exchanges, state', -, hrun⟩ := run_classify_of_isAbout h daemon run.daemon
  refine ⟨verdict, ?_⟩
  rw [Run.feed, hrun]

lemma config_feed (daemon : Daemon σ) (run : Run σ) (input : Input) :
    (run.feed daemon input).classifier.config = run.classifier.config := by
  cases input with
  | reset => rfl
  | line isRegistered raw =>
    exact (settles_classify daemon run.daemon run.classifier isRegistered raw).config_eq

lemma lastBssid?_feed_of_reports (h : input.Reports run.classifier.config i text)
    (daemon : Daemon σ) :
    (run.feed daemon input).classifier.lastBssid? i = Control.connectedAddress? text := by
  cases input with
  | reset => exact h.elim
  | line isRegistered raw =>
    obtain ⟨verdict, hfeed⟩ := classifier_feed_of_isAbout h.1 daemon
    rw [hfeed, lastBssid?_settle, lastBssid?_remember_of_hasName h.2, if_pos rfl]

/-- What an interface remembers changes with a report about it only. -/
lemma lastBssid?_feed_of_not_reports (h : ∀ text, ¬input.Reports run.classifier.config i text)
    (daemon : Daemon σ) :
    (run.feed daemon input).classifier.lastBssid? i = run.classifier.lastBssid? i := by
  cases input with
  | reset => rfl
  | line isRegistered raw =>
    cases hr : resolve? run.classifier.config isRegistered (withoutLineEnd raw) with
    | none => rw [Run.feed, run_classify_of_isMalformed (resolve?_eq_none_iff.1 hr)]
    | some resolved =>
      obtain ⟨j, text⟩ := resolved
      have hj := resolve?_eq_some_iff.1 hr
      obtain ⟨verdict, hfeed⟩ := classifier_feed_of_isAbout hj daemon
      rw [hfeed, lastBssid?_settle]
      by_cases hij : i = j
      · subst hij
        rw [remember_of_not_hasName fun hn => h text ⟨hj, hn⟩]
      · exact lastBssid?_remember_of_ne hij

/-- Only an event comes to an event of its own, for the interface that the line is about. -/
lemma eq_event_of_settle {verdict : Verdict} {event : Event} {signal : Signal}
    (h : (c.settle j verdict).1 = ⟨some i, some event, signal⟩) :
    i = j ∧ verdict = .event event := by
  cases verdict with
  | event event =>
    cases h
    exact ⟨rfl, rfl⟩
  | receiveError =>
    rw [settle] at h
    split_ifs at h <;> cases h
  | _ => cases h

lemma bssid_of_management {isRegistered : String → Bool} {raw : String} {signal : Signal}
    {notice : ManagementNotice} (daemon : Daemon σ)
    (h : ((run.classifier.classify isRegistered raw).run daemon run.daemon).1.1
      = ⟨some i, some (.management notice), signal⟩) :
    notice.bssid = (run.classifier.lastBssid? i).getD .zero := by
  cases hr : resolve? run.classifier.config isRegistered (withoutLineEnd raw) with
  | none =>
    rw [run_classify_of_isMalformed (resolve?_eq_none_iff.1 hr)] at h
    cases h
  | some resolved =>
    obtain ⟨j, text⟩ := resolved
    obtain ⟨verdict, exchanges, state', hverdict, hrun⟩ :=
      run_classify_of_isAbout (resolve?_eq_some_iff.1 hr) daemon run.daemon
    rw [hrun] at h
    obtain ⟨rfl, rfl⟩ := eq_event_of_settle h
    have hnames := (namesOnly_verdict run.classifier i text).run daemon run.daemon
    rw [hverdict] at hnames
    exact hnames notice rfl

/-! ### Any inputs -/

lemma runOn_append_singleton (daemon : Daemon σ) (config : Config) (state : σ)
    (inputs : List Input) (input : Input) :
    runOn daemon config state (inputs ++ [input])
      = (runOn daemon config state inputs).feed daemon input := by
  rw [runOn, List.foldl_append]
  rfl

lemma config_runOn (daemon : Daemon σ) (config : Config) (state : σ) (inputs : List Input) :
    (runOn daemon config state inputs).classifier.config = config := by
  induction inputs using List.reverseRecOn with
  | nil => rfl
  | append_singleton inputs input ih => rw [runOn_append_singleton, config_feed, ih]

lemma lastBssid?_runOn (daemon : Daemon σ) (config : Config) (state : σ) (inputs : List Input)
    (i : String) (bssid : MacAddress) :
    (runOn daemon config state inputs).classifier.lastBssid? i = some bssid
      ↔ ∃ text, LatestReport config i inputs text ∧ Shows text bssid := by
  induction inputs using List.reverseRecOn with
  | nil =>
    refine iff_of_false nofun ?_
    rintro ⟨text, h, -⟩
    exact not_latestReport_nil h
  | append_singleton inputs input ih =>
    have hconfig := config_runOn daemon config state inputs
    rw [runOn_append_singleton]
    -- By induction from the end: the last input is the latest report, or what is remembered is that
    -- of the inputs before it.
    by_cases hr : ∃ text, input.Reports config i text
    · obtain ⟨text, hr⟩ := hr
      rw [lastBssid?_feed_of_reports (by rw [hconfig]; exact hr),
        Control.connectedAddress?_eq_some_iff]
      simp only [latestReport_append_of_reports hr, exists_eq_left]
    · rw [not_exists] at hr
      rw [lastBssid?_feed_of_not_reports (by rw [hconfig]; exact hr), ih]
      simp only [latestReport_append_of_not_reports hr]

/-- What a run remembers of the connections of an interface, and what it says of them. -/
structure Remembers (daemon : Daemon σ) (config : Config) (inputs : List Input) (i : String)
    (run : Run σ) : Prop where
  eq_some_iff : ∀ bssid, run.classifier.lastBssid? i = some bssid
    ↔ ∃ text, LatestReport config i inputs text ∧ Shows text bssid
  unchanged : ∀ input : Input, (∀ text, ¬input.Reports config i text) →
    (run.feed daemon input).classifier.lastBssid? i = run.classifier.lastBssid? i
  unchanged_of_ne : ∀ isRegistered raw j text, IsAbout config isRegistered raw j text → i ≠ j →
    (run.feed daemon (.line isRegistered raw)).classifier.lastBssid? i
      = run.classifier.lastBssid? i
  bssid_eq : ∀ isRegistered raw notice signal,
    ((run.classifier.classify isRegistered raw).run daemon run.daemon).1.1
        = ⟨some i, some (.management notice), signal⟩ →
      notice.bssid = (run.classifier.lastBssid? i).getD .zero

/-- After any inputs an interface has the address that its latest report of a completed connection
shows, if there is such a report and it shows one. Nothing but a report about that interface changes
it, and every management notice for the interface carries it, or zero in its place. -/
theorem remembers_runOn (daemon : Daemon σ) (config : Config) (state : σ) (inputs : List Input)
    (i : String) :
    Remembers daemon config inputs i (runOn daemon config state inputs) := by
  have hunchanged (input : Input) (h : ∀ text, ¬input.Reports config i text) :
      ((runOn daemon config state inputs).feed daemon input).classifier.lastBssid? i
        = (runOn daemon config state inputs).classifier.lastBssid? i := by
    rw [← config_runOn daemon config state inputs] at h
    exact lastBssid?_feed_of_not_reports h daemon
  refine ⟨lastBssid?_runOn daemon config state inputs i, hunchanged, ?_, ?_⟩
  · intro isRegistered raw j text h hne
    refine hunchanged (.line isRegistered raw) ?_
    rintro text' ⟨hi, -⟩
    exact hne (hi.unique h).1
  · intro isRegistered raw notice signal h
    exact bssid_of_management daemon h

/-- Reports about a group interface are about the peer-to-peer interface until the group interface
has handlers of its own. -/
theorem remembers_runOn_groupInterface :
    ∃ inputs : List Input, ∃ run : Run Unit, ∃ bssid notice,
      inputs = [.line (fun _ => false)
          "IFNAME=p2p-wlan0-3 CTRL-EVENT-CONNECTED - Connection to 00:1e:58:ec:d5:6d completed",
        .reset,
        .line (fun name => name = "p2p-wlan0-3")
          "IFNAME=p2p-wlan0-3 CTRL-EVENT-CONNECTED - Connection to 02:00:00:00:01:00 completed"]
      ∧ run = runOn Daemon.silent {} () inputs
      ∧ bssid = ⟨0x00, 0x1e, 0x58, 0xec, 0xd5, 0x6d⟩
      ∧ notice = .deauthImminent bssid "u" true 5
      ∧ (∃ text, LatestReport {} "p2p0" inputs text ∧ Shows text bssid)
      ∧ (run.feed Daemon.silent .reset).classifier.lastBssid? "p2p0"
        = run.classifier.lastBssid? "p2p0"
      ∧ ((run.classifier.classify (fun _ => true) "HS20-DEAUTH-IMMINENT-NOTICE 1 5 u").run
          Daemon.silent run.daemon).1.1 = ⟨some "p2p0", some (.management notice), .goOn⟩
      ∧ notice.bssid = (run.classifier.lastBssid? "p2p0").getD .zero := by
  refine ⟨_, _, _, _, rfl, rfl, rfl, rfl, ?_⟩
  have h := remembers_runOn Daemon.silent {} ()
    [.line (fun _ => false)
        "IFNAME=p2p-wlan0-3 CTRL-EVENT-CONNECTED - Connection to 00:1e:58:ec:d5:6d completed",
      .reset,
      .line (fun name => name = "p2p-wlan0-3")
        "IFNAME=p2p-wlan0-3 CTRL-EVENT-CONNECTED - Connection to 02:00:00:00:01:00 completed"]
    "p2p0"
  exact ⟨(h.eq_some_iff _).1 (by decide +kernel), h.unchanged .reset nofun, by decide +kernel,
    h.bssid_eq (fun _ => true) "HS20-DEAUTH-IMMINENT-NOTICE 1 5 u" _ .goOn (by decide +kernel)⟩

end Classifier

end SupplicantWatch
