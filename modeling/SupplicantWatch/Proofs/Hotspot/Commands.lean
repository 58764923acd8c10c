import Mathlib.Data.Set.List
import Mathlib.Tactic.Common
import SupplicantWatch.Proofs.Classifier.Attribution
import SupplicantWatch.Proofs.Classifier.Families
import SupplicantWatch.Proofs.Hotspot.Fetching

/-!
# The commands that a line gives rise to

Of all lines only two give rise to commands: the report that a query of an access point has ended
well, and the arrival of an icon that has a name and a size. Which commands these are follows from
the text of the line, and they are about the interface that the line is about, whatever the daemon
replies. Main statement: `asks_classify`.
-/

namespace SupplicantWatch

variable {text : List Char} {bssid : MacAddress} {fileName : String} {size chunkSize : Nat}
  {exchanges : List Exchange}

namespace Hotspot

/-! ### Reports -/

/-- A value stands in a text between the first occurrence of a marker and the next space. -/
def StandsAfter (marker : String) (text value : List Char) : Prop :=
  ∃ front rest, text = front ++ marker.toList ++ (value ++ rest)
    ∧ (∀ front' rest', text = front' ++ marker.toList ++ rest' → front.length ≤ front'.length)
    ∧ ' ' ∉ value ∧ (rest = [] ∨ [' '] <+: rest)

lemma valueAfter?_eq_some_iff {marker : String} {value : List Char} :
    valueAfter? marker text = some value ↔ StandsAfter marker text value := by
  rw [valueAfter?, Option.map_eq_some_iff]
  constructor
  · rintro ⟨⟨front, tail⟩, hfind, hbefore⟩
    obtain ⟨rfl, hfirst⟩ := Text.find?_eq_some_iff.1 hfind
    obtain ⟨hspace, rest, rfl, hrest⟩ := Text.before_eq_iff.1 hbefore
    exact ⟨front, rest, rfl, hfirst, hspace, hrest⟩
  · rintro ⟨front, rest, rfl, hfirst, hspace, hrest⟩
    refine ⟨(front, value ++ rest), Text.find?_eq_some_iff.2 ⟨rfl, hfirst⟩, ?_⟩
    exact Text.before_eq_iff.2 ⟨hspace, rest, rfl, hrest⟩

/-- A text reports that a query of an access point has ended well. -/
structure ReportsQuery (text : List Char) (bssid : MacAddress) : Prop where
  start : "ANQP-QUERY-DONE".toList <+: text
  address : ∃ address, StandsAfter "addr=" text address ∧ MacAddress.ofChars? address = some bssid
  ne_zero : bssid ≠ .zero
  success : ∃ result, StandsAfter "result=" text result
    ∧ result.map Char.toLower = "success".toList

/-- A text says that a query of an access point has ended well, however it begins. -/
structure EndsWell (text : List Char) (bssid : MacAddress) : Prop where
  address : ∃ address, StandsAfter "addr=" text address ∧ MacAddress.ofChars? address = some bssid
  ne_zero : bssid ≠ .zero
  success : ∃ result, StandsAfter "result=" text result
    ∧ result.map Char.toLower = "success".toList

lemma ReportsQuery.endsWell (h : ReportsQuery text bssid) : EndsWell text bssid :=
  ⟨h.address, h.ne_zero, h.success⟩

/-- A text reports the arrival of an icon that can be fetched. -/
structure ReportsIcon (text : List Char) (bssid : MacAddress) (fileName : String) (size : Nat) :
    Prop where
  start : "RX-HS20-ICON".toList <+: text
  segments : ∃ event address number,
    text.splitOn ' ' = [event, address, fileName.toList, number]
      ∧ MacAddress.ofChars? address = some bssid ∧ Text.word? 10 32 number = some size
  name_ne : fileName ≠ ""
  size_pos : 0 < size

/-! ### Queries -/

/-- After a query that has ended well the access point is described. -/
lemma anqpEvent_of_endsWell (h : EndsWell text bssid) :
    anqpEvent text = do
      let description ← Dialogue.query (describeCommand bssid)
      return .ok (.anqpDone ⟨bssid, description.map elements⟩) := by
  obtain ⟨address, haddress, hbssid⟩ := h.address
  obtain ⟨result, hresult, hsuccess⟩ := h.success
  have hzero : bssid.isZero = false := decide_eq_false h.ne_zero
  have hequal : equalsIgnoringCase result "success".toList = true := by
    rw [equalsIgnoringCase, hsuccess]
    rfl
  rw [anqpEvent, valueAfter?_eq_some_iff.2 haddress, valueAfter?_eq_some_iff.2 hresult]
  simp only [hbssid, hzero, hequal, Bool.not_false, Bool.and_self, if_true]

lemma anqpEvent_of_reportsQuery (h : ReportsQuery text bssid) :
    anqpEvent text = do
      let description ← Dialogue.query (describeCommand bssid)
      return .ok (.anqpDone ⟨bssid, description.map elements⟩) :=
  anqpEvent_of_endsWell h.endsWell

/-- After any other end of a query nothing is asked. -/
lemma exists_anqpEvent_eq_pure (hstart : "ANQP-QUERY-DONE".toList <+: text)
    (h : ∀ bssid, ¬ReportsQuery text bssid) :
    ∃ reading, anqpEvent text = pure reading ∧ ∀ icon, reading ≠ .ok (.iconDone icon) := by
  unfold anqpEvent
  split
  · next address result haddress hresult =>
    split
    · exact ⟨_, rfl, nofun⟩
    · next bssid hbssid =>
      split_ifs with hask
      · rw [Bool.and_eq_true, Bool.not_eq_true', MacAddress.isZero, decide_eq_false_iff_not,
          equalsIgnoringCase, decide_eq_true_iff] at hask
        exact absurd ⟨hstart, ⟨address, valueAfter?_eq_some_iff.1 haddress, hbssid⟩, hask.1,
          result, valueAfter?_eq_some_iff.1 hresult, hask.2⟩ (h bssid)
      · exact ⟨_, rfl, nofun⟩
  · exact ⟨_, rfl, nofun⟩

/-! ### Icons -/

/-- The command for a piece of an icon: the bytes from an offset on, so many of them. -/
def pieceCommand (bssid : MacAddress) (fileName : String) (piece : Nat × Nat) : String :=
  getCommand bssid fileName piece.1 piece.2

/-- The requests for an icon are for pieces of it. -/
lemma Fetched.exists_pieces {gets : List Exchange} {result : Except FetchError (List UInt8)}
    (h : Fetched bssid fileName size chunkSize gets result) :
    ∃ pieces : List (Nat × Nat),
      pieces.map (pieceCommand bssid fileName) = commandsOf gets := by
  change commandsOf gets ∈ Set.range (List.map (pieceCommand bssid fileName))
  rw [Set.range_list_map]
  intro command hcommand
  obtain ⟨get, hget, rfl⟩ := List.mem_map.1 hcommand
  obtain ⟨front, back, hgets⟩ := List.append_of_mem hget
  obtain ⟨data, -, hrequest⟩ := h.requests hgets
  exact ⟨(_, _), hrequest.command_eq.symm⟩

/-- An icon that can be fetched is fetched. -/
lemma iconEvent_of_reportsIcon (h : ReportsIcon text bssid fileName size) :
    iconEvent text chunkSize = do
      let data ← Except.toOption <$> fetch bssid fileName size chunkSize
      return .ok (.iconDone ⟨bssid, fileName, size, data⟩) := by
  obtain ⟨event, address, number, hsplit, hbssid, hsize⟩ := h.segments
  have hparse : MacAddress.parse (String.ofList address) = .ok bssid := by
    rw [MacAddress.parse, String.toList_ofList, hbssid]
  have hname : fileName.toList ≠ [] := by
    rw [ne_eq, String.toList_eq_nil_iff]
    exact h.name_ne
  rw [iconEvent, hsplit]
  simp only [hsize, hparse, String.ofList_toList, if_pos (And.intro hname h.size_pos)]

example : ReportsIcon "RX-HS20-ICON 02:00:00:00:00:01 logo.png 4096".toList ⟨2, 0, 0, 0, 0, 1⟩
    "logo.png" 4096 where
  start := by decide
  segments := ⟨"RX-HS20-ICON".toList, "02:00:00:00:00:01".toList, "4096".toList,
    by decide +kernel, by decide +kernel, by decide +kernel⟩
  name_ne := by decide
  size_pos := by decide

/-- For any other icon nothing is asked, and it has no data. -/
lemma exists_iconEvent_eq_pure (hstart : "RX-HS20-ICON".toList <+: text)
    (h : ∀ bssid fileName size, ¬ReportsIcon text bssid fileName size) (chunkSize : Nat) :
    ∃ reading, iconEvent text chunkSize = pure reading
      ∧ ∀ icon, reading = .ok (.iconDone icon) → icon.data = none := by
  unfold iconEvent
  split
  · next event address file number hsplit =>
    split
    · exact ⟨_, rfl, nofun⟩
    · exact ⟨_, rfl, nofun⟩
    · next size bssid hsize hparse =>
      dsimp only
      split_ifs with hfetch
      · have hbssid : MacAddress.ofChars? address = some bssid := by
          rw [MacAddress.parse, String.toList_ofList] at hparse
          split at hparse
          · next m hm =>
            cases hparse
            exact hm
          · cases hparse
        have hname : String.ofList file ≠ "" := by
          rw [ne_eq, ← String.toList_eq_nil_iff, String.toList_ofList]
          exact hfetch.1
        refine absurd ⟨hstart, ⟨event, address, number, ?_, hbssid, hsize⟩, hname, hfetch.2⟩
          (h bssid (String.ofList file) size)
        rw [String.toList_ofList]
        exact hsplit
      · refine ⟨_, rfl, ?_⟩
        rintro icon ⟨⟩
        rfl
  · exact ⟨_, rfl, nofun⟩

end Hotspot

/-! ### Texts -/

namespace Family

lemma of?_eq_anqp_iff : of? text = some .anqp ↔ "ANQP-QUERY-DONE".toList <+: text :=
  of?_eq_iff_prefix (by simp [table])

lemma of?_eq_icon_iff : of? text = some .icon ↔ "RX-HS20-ICON".toList <+: text :=
  of?_eq_iff_prefix (by simp [table])

end Family

open Hotspot

lemma not_reportsQuery (h : Family.of? text ≠ some .anqp) (bssid : MacAddress) :
    ¬ReportsQuery text bssid :=
  fun hq => h (Family.of?_eq_anqp_iff.2 hq.start)

lemma not_reportsIcon (h : Family.of? text ≠ some .icon) (bssid : MacAddress) (fileName : String)
    (size : Nat) : ¬ReportsIcon text bssid fileName size :=
  fun hi => h (Family.of?_eq_icon_iff.2 hi.start)

/-- What a text gives rise to: the commands, and what it comes to. -/
structure TextAsks (text : List Char) (commands : List String) (verdict : Verdict) : Prop where
  query : ∀ bssid, ReportsQuery text bssid → commands = [describeCommand bssid]
    ∧ ∃ elements, verdict = .event (.anqpDone ⟨bssid, elements⟩)
  icon : ∀ bssid fileName size, ReportsIcon text bssid fileName size →
    (∃ pieces, pieces ≠ []
      ∧ commands = pieces.map (pieceCommand bssid fileName) ++ [deleteCommand bssid fileName])
    ∧ ∃ data, verdict = .event (.iconDone ⟨bssid, fileName, size, data⟩)
  nothing : (∀ bssid, ¬ReportsQuery text bssid) →
    (∀ bssid fileName size, ¬ReportsIcon text bssid fileName size) → commands = []
  size_eq : ∀ icon bytes, verdict = .event (.iconDone icon) → icon.data = some bytes →
    bytes.length = icon.size

lemma Hotspot.EndsWell.unique {bssid' : MacAddress} (h : EndsWell text bssid)
    (h' : EndsWell text bssid') : bssid = bssid' := by
  obtain ⟨address, haddress, hbssid⟩ := h.address
  obtain ⟨address', haddress', hbssid'⟩ := h'.address
  have heq := (valueAfter?_eq_some_iff.2 haddress).symm.trans (valueAfter?_eq_some_iff.2 haddress')
  cases heq
  exact Option.some.inj (hbssid.symm.trans hbssid')

lemma Hotspot.ReportsQuery.unique {bssid' : MacAddress} (h : ReportsQuery text bssid)
    (h' : ReportsQuery text bssid') : bssid = bssid' :=
  h.endsWell.unique h'.endsWell

lemma Hotspot.ReportsIcon.unique {bssid' : MacAddress} {fileName' : String} {size' : Nat}
    (h : ReportsIcon text bssid fileName size) (h' : ReportsIcon text bssid' fileName' size') :
    bssid = bssid' ∧ fileName = fileName' ∧ size = size' := by
  obtain ⟨event, address, number, hsplit, hbssid, hsize⟩ := h.segments
  obtain ⟨event', address', number', hsplit', hbssid', hsize'⟩ := h'.segments
  have heq := hsplit.symm.trans hsplit'
  simp only [List.cons.injEq, String.toList_inj, and_true] at heq
  obtain ⟨-, rfl, rfl, rfl⟩ := heq
  exact ⟨Option.some.inj (hbssid.symm.trans hbssid'), rfl,
    Option.some.inj (hsize.symm.trans hsize')⟩

namespace TextAsks

variable {reading : Except PayloadError Event}

/-- A text without a report gives rise to no command. -/
lemma of_not_reports (hq : ∀ bssid, ¬ReportsQuery text bssid)
    (hi : ∀ bssid fileName size, ¬ReportsIcon text bssid fileName size) {verdict : Verdict}
    (hv : ∀ icon, verdict = .event (.iconDone icon) → icon.data = none) :
    TextAsks text [] verdict where
  query bssid h := absurd h (hq bssid)
  icon bssid fileName size h := absurd h (hi bssid fileName size)
  nothing _ _ := rfl
  size_eq icon bytes hicon hbytes := by
    rw [hv icon hicon] at hbytes
    cases hbytes

lemma eq_ok_of_verdictOf {event : Event} (h : Classifier.verdictOf reading = .event event) :
    reading = .ok event := by
  cases reading with
  | ok event =>
    cases h
    rfl
  | error _ => cases h

lemma of_anqp (hf : Family.of? text = some .anqp)
    (h : (anqpEvent text).Course exchanges reading) :
    TextAsks text (commandsOf exchanges) (Classifier.verdictOf reading) := by
  have hne : Family.of? text ≠ some .icon := by simp [hf]
  have hi := not_reportsIcon hne
  by_cases hq : ∃ bssid, ReportsQuery text bssid
  · obtain ⟨bssid, hq⟩ := hq
    rw [anqpEvent_of_reportsQuery hq, Dialogue.course_bind_iff] at h
    obtain ⟨exchanges₁, reply, exchanges₂, h₁, h₂, rfl⟩ := h
    obtain rfl := Dialogue.course_query_iff.1 h₁
    obtain ⟨rfl, rfl⟩ := Dialogue.course_pure_iff.1 h₂
    refine ⟨?_, fun bssid fileName size h => absurd h (hi bssid fileName size), ?_, nofun⟩
    · intro bssid' hq'
      rw [hq.unique hq']
      exact ⟨rfl, _, rfl⟩
    · intro hn
      exact absurd hq (hn bssid)
  · rw [not_exists] at hq
    obtain ⟨reading', hr, hicon⟩ := exists_anqpEvent_eq_pure (Family.of?_eq_anqp_iff.1 hf) hq
    rw [hr] at h
    obtain ⟨rfl, rfl⟩ := Dialogue.course_pure_iff.1 h
    exact of_not_reports hq hi fun icon hv => absurd (eq_ok_of_verdictOf hv) (hicon icon)

lemma of_icon (hf : Family.of? text = some .icon)
    (h : (iconEvent text chunkSize).Course exchanges reading) :
    TextAsks text (commandsOf exchanges) (Classifier.verdictOf reading) := by
  have hne : Family.of? text ≠ some .anqp := by simp [hf]
  have hq := not_reportsQuery hne
  by_cases hi : ∃ bssid fileName size, ReportsIcon text bssid fileName size
  · obtain ⟨bssid, fileName, size, hi⟩ := hi
    rw [iconEvent_of_reportsIcon hi, Dialogue.course_bind_iff] at h
    obtain ⟨exchanges₁, data, exchanges₂, h₁, h₂, rfl⟩ := h
    obtain ⟨result, hfetch, rfl⟩ := Dialogue.course_map_iff.1 h₁
    obtain ⟨rfl, rfl⟩ := Dialogue.course_pure_iff.1 h₂
    obtain ⟨gets, reply, rfl, hfetched⟩ := course_fetch hfetch
    obtain ⟨pieces, hpieces⟩ := hfetched.exists_pieces
    have hne : pieces ≠ [] := by
      rintro rfl
      exact hfetched.ne_nil hi.size_pos (List.map_eq_nil_iff.1 hpieces.symm)
    rw [List.append_nil, commandsOf_append, ← hpieces]
    refine ⟨fun bssid h => absurd h (hq bssid), ?_, ?_, ?_⟩
    · intro bssid' fileName' size' hi'
      obtain ⟨rfl, rfl, rfl⟩ := hi.unique hi'
      exact ⟨⟨pieces, hne, rfl⟩, _, rfl⟩
    · intro _ hn
      exact absurd hi (hn bssid fileName size)
    · -- Only a fetching that has ended well has data, and then all of them.
      rintro icon bytes ⟨⟩ hbytes
      cases result with
      | ok _ =>
        cases hbytes
        exact hfetched.length_eq rfl
      | error _ => cases hbytes
  · simp only [not_exists] at hi
    obtain ⟨reading', hr, hicon⟩ :=
      exists_iconEvent_eq_pure (Family.of?_eq_icon_iff.1 hf) hi chunkSize
    rw [hr] at h
    obtain ⟨rfl, rfl⟩ := Dialogue.course_pure_iff.1 h
    exact of_not_reports hq hi fun icon hv => hicon icon (eq_ok_of_verdictOf hv)

/-- No other family asks anything, and none yields an icon. -/
lemma exists_familyVerdict_eq_pure {family : Family} (hf : family ∉ [.anqp, .icon])
    (chunkSize : Nat) (bssid : MacAddress) (text : List Char) :
    ∃ verdict, Classifier.familyVerdict chunkSize bssid text family = pure verdict
      ∧ ∀ icon, verdict ≠ .event (.iconDone icon) := by
  -- The two families of notices do not ask either, but may come to an event.
  by_cases hother : family ∈ [.remediation, .deauth]
  · simp only [List.mem_cons, List.not_mem_nil, or_false] at hother
    rcases hother with rfl | rfl
    all_goals
      refine ⟨_, rfl, ?_⟩
      intro icon h
      have hread := eq_ok_of_verdictOf h
    · rw [remediationEvent] at hread
      repeat' split at hread
      all_goals cases hread
    · rw [deauthEvent] at hread
      repeat' split at hread
      all_goals cases hread
  · have hnone : family ∉ [.anqp, .icon, .remediation, .deauth] := by
      simp_all
    obtain ⟨verdict, hv, hevent⟩ := Classifier.familyVerdict_eq_pure hnone chunkSize bssid text
    refine ⟨verdict, hv, ?_⟩
    rintro icon rfl
    cases hevent _ rfl

lemma of_familyVerdict {family : Family} {verdict : Verdict} (hf : Family.of? text = some family)
    (h : (Classifier.familyVerdict chunkSize bssid text family).Course exchanges verdict) :
    TextAsks text (commandsOf exchanges) verdict := by
  by_cases hother : family ∉ [.anqp, .icon]
  · obtain ⟨verdict', hv, hicon⟩ := exists_familyVerdict_eq_pure hother chunkSize bssid text
    rw [hv] at h
    obtain ⟨rfl, rfl⟩ := Dialogue.course_pure_iff.1 h
    simp only [List.mem_cons, List.not_mem_nil, or_false, not_or] at hother
    have hanqp : Family.of? text ≠ some .anqp := by simp [hf, hother.1]
    have hfile : Family.of? text ≠ some .icon := by simp [hf, hother.2]
    exact of_not_reports (not_reportsQuery hanqp) (not_reportsIcon hfile)
      fun icon h => absurd h (hicon icon)
  · simp only [List.mem_cons, List.not_mem_nil, or_false, not_not] at hother
    rcases hother with rfl | rfl
    · obtain ⟨reading, hcourse, rfl⟩ := Dialogue.course_map_iff.1 h
      exact of_anqp hf hcourse
    · obtain ⟨reading, hcourse, rfl⟩ := Dialogue.course_map_iff.1 h
      exact of_icon hf hcourse

/-- Whatever the daemon replies, a text gives rise to what it asks, about its interface. -/
theorem of_verdict {c : Classifier} {i : String} {verdict : Verdict}
    (h : (c.verdict i text).Course exchanges verdict) :
    ∃ commands, TextAsks text commands verdict
      ∧ commandsOf exchanges = commands.map (markInterface i) := by
  rw [Classifier.verdict] at h
  cases hf : Family.of? text with
  | none =>
    rw [hf] at h
    obtain ⟨rfl, rfl⟩ := Dialogue.course_pure_iff.1 h
    exact ⟨[], of_not_reports (not_reportsQuery (by simp [hf])) (not_reportsIcon (by simp [hf]))
      nofun, rfl⟩
  | some family =>
    rw [hf] at h
    obtain ⟨exchanges', hcourse, rfl⟩ := Dialogue.course_onInterface_iff.1 h
    exact ⟨commandsOf exchanges', of_familyVerdict hf hcourse, by simp [commandsOf]⟩

/-- Only a text that comes to an event gives rise to commands. -/
lemma eq_nil_or_eq_event {commands : List String} {verdict : Verdict}
    (h : TextAsks text commands verdict) : commands = [] ∨ ∃ event, verdict = .event event := by
  by_cases hq : ∃ bssid, ReportsQuery text bssid
  · obtain ⟨bssid, hq⟩ := hq
    obtain ⟨-, elements, hv⟩ := h.query bssid hq
    exact .inr ⟨_, hv⟩
  by_cases hi : ∃ bssid fileName size, ReportsIcon text bssid fileName size
  · obtain ⟨bssid, fileName, size, hi⟩ := hi
    obtain ⟨-, data, hv⟩ := h.icon bssid fileName size hi
    exact .inr ⟨_, hv⟩
  · rw [not_exists] at hq
    simp only [not_exists] at hi
    exact .inl (h.nothing hq hi)

end TextAsks

/-! ### Lines -/

namespace Classifier

/-- What a line gives rise to: the commands, and what becomes of the line. -/
structure Asks (config : Config) (isRegistered : String → Bool) (raw : String)
    (commands : List String) (classified : Classified) : Prop where
  /-- Every command is about the interface that the line was attributed to. -/
  marked : ∀ command ∈ commands, ∃ i rest,
    classified.interface = some i ∧ command = markInterface i rest
  /-- After a query that has ended well the access point is described, once. -/
  query : ∀ i text bssid, IsAbout config isRegistered raw i text → ReportsQuery text bssid →
    classified.interface = some i ∧ commands = [markInterface i (describeCommand bssid)]
  /-- An icon that can be fetched is asked for in pieces, at least one, and then released. -/
  icon : ∀ i text bssid fileName size, IsAbout config isRegistered raw i text →
    ReportsIcon text bssid fileName size →
    classified.interface = some i
    ∧ (∃ pieces, pieces ≠ []
      ∧ commands = pieces.map (fun piece => markInterface i (pieceCommand bssid fileName piece))
        ++ [markInterface i (deleteCommand bssid fileName)])
    ∧ ∃ data, classified.event = some (.iconDone ⟨bssid, fileName, size, data⟩)
  /-- No other line gives rise to a command. -/
  nothing : (∀ i text bssid, IsAbout config isRegistered raw i text → ¬ReportsQuery text bssid) →
    (∀ i text bssid fileName size, IsAbout config isRegistered raw i text →
      ¬ReportsIcon text bssid fileName size) → commands = []
  /-- The data of an icon are missing or complete. -/
  size_eq : ∀ icon bytes, classified.event = some (.iconDone icon) → icon.data = some bytes →
    bytes.length = icon.size

variable {σ : Type} {config : Config} {isRegistered : String → Bool} {raw i : String}
  {commands : List String} {verdict : Verdict}

lemma settle_event (c : Classifier) (i : String) {event : Event} (h : verdict = .event event) :
    (c.settle i verdict).1 = ⟨some i, some event, .goOn⟩ := by
  rw [h, settle]

lemma eq_event_of_settle_eq {c : Classifier} {icon : Icon}
    (h : (c.settle i verdict).1.event = some (.iconDone icon)) :
    verdict = .event (.iconDone icon) := by
  cases verdict with
  | event event =>
    cases h
    rfl
  | silent | unrecognized | closed => cases h
  | receiveError =>
    rw [settle] at h
    split_ifs at h
    cases h

/-- What the text of a line asks is asked at the interface that the line is about. -/
lemma Asks.of_textAsks {c : Classifier} (habout : IsAbout config isRegistered raw i text)
    (h : TextAsks text commands verdict) :
    Asks config isRegistered raw (commands.map (markInterface i)) (c.settle i verdict).1 where
  marked command hmem := by
    obtain ⟨rest, hrest, rfl⟩ := List.mem_map.1 hmem
    rcases h.eq_nil_or_eq_event with rfl | ⟨event, hv⟩
    · cases hrest
    · exact ⟨i, rest, by rw [settle_event c i hv], rfl⟩
  query i' text' bssid habout' hq := by
    obtain ⟨rfl, rfl⟩ := habout.unique habout'
    obtain ⟨rfl, elements, hv⟩ := h.query bssid hq
    exact ⟨by rw [settle_event c i hv], rfl⟩
  icon i' text' bssid fileName size habout' hi := by
    obtain ⟨rfl, rfl⟩ := habout.unique habout'
    obtain ⟨⟨pieces, hne, rfl⟩, data, hv⟩ := h.icon bssid fileName size hi
    rw [settle_event c i hv]
    refine ⟨rfl, ⟨pieces, hne, ?_⟩, data, rfl⟩
    rw [List.map_append, List.map_map]
    rfl
  nothing hq hi := by
    rw [h.nothing (fun bssid => hq i text bssid habout)
      fun bssid fileName size => hi i text bssid fileName size habout, List.map_nil]
  size_eq icon bytes hicon hbytes := h.size_eq icon bytes (eq_event_of_settle_eq hicon) hbytes

/-- A malformed line gives rise to no command. -/
lemma Asks.of_isMalformed (h : IsMalformed raw) :
    Asks config isRegistered raw [] ⟨none, none, .goOn⟩ where
  marked := nofun
  query i text bssid habout := by
    cases (resolve?_eq_none_iff.2 h).symm.trans habout.resolve?_eq
  icon i text bssid fileName size habout := by
    cases (resolve?_eq_none_iff.2 h).symm.trans habout.resolve?_eq
  nothing _ _ := rfl
  size_eq := nofun

/-- Whatever the state of the classifier, the handlers and the replies of the daemon, the commands
sent while a line is classified are those that the line gives rise to. -/
theorem asks_classify (c : Classifier) (isRegistered : String → Bool) (raw : String)
    (daemon : Daemon σ) (state : σ) :
    let (result, exchanges, _) := (c.classify isRegistered raw).run daemon state
    Asks c.config isRegistered raw (commandsOf exchanges) result.1 := by
  cases hr : resolve? c.config isRegistered (withoutLineEnd raw) with
  | none =>
    have hm := resolve?_eq_none_iff.1 hr
    rw [run_classify_of_isMalformed hm]
    exact .of_isMalformed hm
  | some about =>
    obtain ⟨i, text⟩ := about
    have habout := resolve?_eq_some_iff.1 hr
    obtain ⟨verdict, exchanges, state', hrun, hclassify⟩ :=
      run_classify_of_isAbout habout daemon state
    -- Which commands are sent is known of any course of the questions, so also of this run.
    have hcourse := Dialogue.course_run daemon ((c.remember i text).verdict i text) state
    rw [hrun] at hcourse
    obtain ⟨commands, hasks, hcommands⟩ := TextAsks.of_verdict hcourse
    rw [hclassify]
    dsimp only
    rw [hcommands]
    exact .of_textAsks habout hasks

end Classifier

end SupplicantWatch
