import Mathlib.Tactic.Common
import SupplicantWatch.Proofs.Classifier.LastConnection
import SupplicantWatch.Proofs.Control.Address
import SupplicantWatch.Proofs.Control.NetworkName
import SupplicantWatch.Proofs.Text.Decimal

/-!
# Connections

The address in a report of a completed connection is read twice, for the event and for what is
remembered of the interface. Both readings find the one that was written. The network identifier
stands in a bracket, and the last bracket of the line counts, so a bracket in the text that is shown
for the network takes the place of the one in front of it. Main statement:
`classify_of_connectedText`.
-/

namespace SupplicantWatch.Control

open Text (IsNumeral decimalOr)

variable {s digits idText : List Char} {remark : String} {m : MacAddress}

/-! ### Brackets -/

/-- The start of the bracket around the identifier of a network. -/
def bracket (digits : List Char) : List Char :=
  " [id=".toList ++ (digits ++ [' '])

/-- A text has a bracket. -/
def HasBracket (s : List Char) : Prop :=
  ∃ digits, IsNumeral digits ∧ bracket digits <:+: s

/-- The last bracket in a text has the given digits. -/
def LastBracket (s digits : List Char) : Prop :=
  ∃ t, t <:+ s ∧ IsNumeral digits ∧ bracket digits <+: t
    ∧ ∀ u digits', u <:+ s → IsNumeral digits' → bracket digits' <+: u → t.length ≤ u.length

lemma bracket_append (digits rest : List Char) :
    bracket digits ++ rest = " [id=".toList ++ (digits ++ ' ' :: rest) := by
  unfold bracket
  simp

lemma networkMark?_eq_some_iff :
    networkMark? s = some digits ↔ IsNumeral digits ∧ bracket digits <+: s := by
  simp only [networkMark?, Option.bind_eq_bind, Option.bind_eq_some_iff,
    List.isPrefixOf?_eq_some_iff_append_eq, Prod.exists, Text.some?_eq_some_iff]
  constructor
  · rintro ⟨_, rfl, front, _, ⟨rfl, hne, hdigits, -⟩, rest, rfl, ⟨⟩⟩
    exact ⟨⟨hne, hdigits⟩, rest, bracket_append digits rest⟩
  · rintro ⟨hdigits, rest, rfl⟩
    have hspace : ∀ c ∈ (' ' :: rest).head?, Char.isDigit c = false := by
      rintro _ ⟨⟩
      decide
    exact ⟨digits ++ ' ' :: rest, (bracket_append digits rest).symm, digits, ' ' :: rest,
      ⟨rfl, hdigits.ne_nil, hdigits.isDigit, hspace⟩, rest, rfl, rfl⟩

lemma networkMark?_eq_none (h : ¬(' ' :: "[id=".toList <+: s)) : networkMark? s = none := by
  have hnone : List.isPrefixOf? " [id=".toList s = none := Text.isPrefixOf?_eq_none_iff.2 h
  rw [networkMark?, hnone]
  rfl

lemma searchLast_networkMark?_eq_some_iff :
    Text.searchLast networkMark? s = some digits ↔ LastBracket s digits := by
  rw [Text.searchLast_eq_some_iff]
  constructor
  · rintro ⟨t, ht, hmark, hlast⟩
    obtain ⟨hdigits, hprefix⟩ := networkMark?_eq_some_iff.1 hmark
    refine ⟨t, ht, hdigits, hprefix, ?_⟩
    intro u digits' hu hdigits' hprefix'
    apply hlast u hu
    rw [networkMark?_eq_some_iff.2 ⟨hdigits', hprefix'⟩]
    exact Option.some_ne_none digits'
  · rintro ⟨t, ht, hdigits, hprefix, hlast⟩
    refine ⟨t, ht, networkMark?_eq_some_iff.2 ⟨hdigits, hprefix⟩, ?_⟩
    intro u hu hsome
    obtain ⟨digits', hmark⟩ := Option.ne_none_iff_exists'.1 hsome
    obtain ⟨hdigits', hprefix'⟩ := networkMark?_eq_some_iff.1 hmark
    exact hlast u digits' hu hdigits' hprefix'

lemma searchLast_networkMark?_eq_none_iff :
    Text.searchLast networkMark? s = none ↔ ¬HasBracket s := by
  rw [Text.searchLast_eq_none_iff]
  constructor
  · rintro h ⟨digits, hdigits, front, rest, rfl⟩
    have hmark := networkMark?_eq_some_iff.2 ⟨hdigits, List.prefix_append (bracket digits) rest⟩
    rw [h _ ⟨front, (List.append_assoc _ _ _).symm⟩] at hmark
    cases hmark
  · intro h t ht
    cases hmark : networkMark? t with
    | none => rfl
    | some digits =>
      obtain ⟨hdigits, hprefix⟩ := networkMark?_eq_some_iff.1 hmark
      exact absurd ⟨digits, hdigits, hprefix.isInfix.trans ht.isInfix⟩ h

/-- The end of a bracket is no part of the start of another. -/
lemma searchLast_networkMark?_append (s : List Char) :
    Text.searchLast networkMark? (s ++ [']']) = Text.searchLast networkMark? s := by
  have hmark (s : List Char) : networkMark? (s ++ [']']) = networkMark? s := by
    ext digits
    rw [networkMark?_eq_some_iff, networkMark?_eq_some_iff, List.prefix_concat_iff, or_iff_right]
    intro heq
    unfold bracket at heq
    rw [← List.append_assoc] at heq
    obtain ⟨-, hlast⟩ := List.append_inj' heq rfl
    cases hlast
  induction s with
  | nil => rfl
  | cons c s ih =>
    rw [List.cons_append, Text.searchLast, ih, ← List.cons_append, hmark, Text.searchLast]

/-! ### A completed connection -/

/-- The report of a completed connection as the supplicant writes it. -/
def connectedPayload (m : MacAddress) (remark : String) (digits idText : List Char) :
    List Char :=
  "Connection to ".toList ++ (m.toChars ++ (" completed".toList ++ (remark.toList ++
    (" [id=".toList ++ (digits ++ (" id_str=".toList ++ (idText ++ [']'])))))))

/-- What may be remarked of a connection. -/
def remarks : List String :=
  ["", " (auth)", " (reauth)"]

/-- The line that reports a completed connection. -/
def connectedText (m : MacAddress) (remark : String) (digits idText : List Char) : List Char :=
  eventText "CONNECTED" ("- ".toList ++ connectedPayload m remark digits idText)

/-- The digits in the last bracket of a text behind some others. -/
lemma searchLast_networkMark?_connected (hdigits : IsNumeral digits) (front idText : List Char) :
    Text.searchLast networkMark?
        (front ++ (" [id=".toList ++ (digits ++ (" id_str=".toList ++ (idText ++ [']'])))))
      = some ((Text.searchLast networkMark? idText).getD digits) := by
  have hend := searchLast_networkMark?_append idText
  apply Text.searchLast_append_of_eq_some
  cases hlast : Text.searchLast networkMark? idText with
  | some digits' =>
    rw [hlast] at hend
    -- The last bracket is one in the text, behind the three parts in front of that.
    iterate 3 apply Text.searchLast_append_of_eq_some
    exact hend
  | none =>
    rw [hlast] at hend
    have hnone (t : List Char) (ht : ¬(' ' :: "[id=".toList <+: t)) : networkMark? t = none :=
      networkMark?_eq_none ht
    have hspace : ' ' ∉ digits := Text.notMem_of_forall hdigits.isDigit (by decide)
    have hmark : networkMark? (" [id=".toList
        ++ (digits ++ (" id_str=".toList ++ (idText ++ [']'])))) = some digits := by
      exact networkMark?_eq_some_iff.2
        ⟨hdigits, "id_str=".toList ++ (idText ++ [']']), bracket_append digits _⟩
    have hcons : " [id=".toList = ' ' :: "[id=".toList := rfl
    rw [hcons, List.cons_append] at hmark ⊢
    -- The bracket of the report counts, and no other begins within it or behind it.
    rw [Text.searchLast, hmark,
      Text.searchLast_append (Text.scan_append_of_notMem hnone (by decide) _),
      Text.searchLast_append (Text.scan_append_of_notMem hnone hspace _),
      Text.searchLast_append (Text.scan_append_of_tails hnone (by decide) _),
      hend]
    rfl

lemma search_spacedAddress?_connectedPayload (m : MacAddress) (remark : String)
    (digits idText : List Char) :
    Text.search spacedAddress? (connectedPayload m remark digits idText)
      = some (m.toChars, "completed".toList ++ (remark.toList ++ (" [id=".toList
          ++ (digits ++ (" id_str=".toList ++ (idText ++ [']'])))))) := by
  have hscan (t : List Char) (h : MacAddress.takeLower? t = none) : spacedAddress? t = none := by
    rw [spacedAddress?, h]
    rfl
  have hcompleted (t : List Char) :
      List.isPrefixOf? [' '] (" completed".toList ++ t) = some ("completed".toList ++ t) := rfl
  unfold connectedPayload
  rw [MacAddress.search_append_of_noAddress hscan (by decide)]
  apply Text.search_of_eq_some
  rw [spacedAddress?, MacAddress.takeLower?_toChars_append]
  simp only [Option.bind_eq_bind, Option.bind_some, hcompleted]
  rfl

lemma connection?_connectedPayload (hdigits : IsNumeral digits) (m : MacAddress)
    (remark : String) (idText : List Char) :
    connection? (connectedPayload m remark digits idText)
      = some (m.toChars,
          (Text.int? 32 ((Text.searchLast networkMark? idText).getD digits)).getD (-1)) := by
  rw [connection?, search_spacedAddress?_connectedPayload]
  simp only [Option.bind_eq_bind, Option.bind_some]
  rw [← List.append_assoc, searchLast_networkMark?_connected hdigits]
  rfl

lemma lineFeed_notMem_connectedPayload (hdigits : IsNumeral digits)
    (hremark : remark ∈ remarks) (hid : '\n' ∉ idText) :
    '\n' ∉ connectedPayload m remark digits idText := by
  have haddress : '\n' ∉ m.toChars := MacAddress.notMem_toChars (by decide) (by decide) m
  have hdigit : '\n' ∉ digits := Text.notMem_of_forall hdigits.isDigit (by decide)
  have hall : ∀ remark ∈ remarks, '\n' ∉ remark.toList := by
    decide
  unfold connectedPayload
  simp [haddress, hdigit, hall remark hremark, hid]

lemma connectionEvent_connectedPayload (hdigits : IsNumeral digits)
    (hremark : remark ∈ remarks) (hid : '\n' ∉ idText) :
    ∃ id, connectionEvent (connectedPayload m remark digits idText)
        = .networkConnection id (some m.render)
      ∧ (¬HasBracket idText ∧ id = decimalOr (-1) digits
        ∨ ∃ digits', LastBracket idText digits' ∧ id = decimalOr (-1) digits') := by
  have hconnection := connection?_connectedPayload hdigits m remark idText
  have hline := lineFeed_notMem_connectedPayload (m := m) hdigits hremark hid
  refine ⟨(Text.int? 32 ((Text.searchLast networkMark? idText).getD digits)).getD (-1), ?_, ?_⟩
  · rw [connectionEvent, List.splitOn_eq_singleton hline, List.findSome?_cons, hconnection]
    rfl
  · cases hlast : Text.searchLast networkMark? idText with
    | none =>
      exact .inl ⟨searchLast_networkMark?_eq_none_iff.1 hlast,
        Text.getD_int?_of_isDigit hdigits.isDigit (-1)⟩
    | some digits' =>
      have hbracket := searchLast_networkMark?_eq_some_iff.1 hlast
      obtain ⟨t, -, hdigits', -⟩ := hbracket
      exact .inr ⟨digits', searchLast_networkMark?_eq_some_iff.1 hlast,
        Text.getD_int?_of_isDigit hdigits'.isDigit (-1)⟩

/-! ### Lines -/

lemma afterDash_connectedText (m : MacAddress) (remark : String)
    (digits idText : List Char) :
    afterDash (connectedText m remark digits idText) = connectedPayload m remark digits idText := by
  have htext : connectedText m remark digits idText = "CTRL-EVENT-CONNECTED".toList
      ++ (' ' :: "- ".toList ++ connectedPayload m remark digits idText) := rfl
  have hdash : " - ".toList = ' ' :: "- ".toList := rfl
  rw [afterDash, htext, hdash, Text.find?_append_of_notMem (by decide)]
  rfl

lemma connectedAddress?_connectedText (m : MacAddress) (remark : String)
    (digits idText : List Char) :
    connectedAddress? (connectedText m remark digits idText) = some m := by
  have htext : connectedText m remark digits idText = "CTRL-EVENT-CONNECTED - ".toList
      ++ connectedPayload m remark digits idText := rfl
  have hspace : ' ' ∉ m.toChars := MacAddress.notMem_toChars (by decide) (by decide) m
  have hword : " completed".toList = ' ' :: "completed".toList := rfl
  rw [connectedAddress?, htext]
  unfold connectedPayload
  rw [Text.find?_append_of_tails (by decide)]
  simp only [Option.bind_eq_bind, Option.bind_some]
  rw [hword, Text.find?_append_of_notMem hspace]
  exact MacAddress.ofChars?_toChars m

variable {σ : Type} {c : Classifier} {isRegistered : String → Bool} {raw i : String}

/-- A completed connection is an event with the address that was written, and that address is
remembered. Its network identifier is the one that was written if the text shown for the network has
no bracket, and otherwise the one in the last bracket there. -/
theorem classify_of_connectedText (hdigits : IsNumeral digits) (hremark : remark ∈ remarks)
    (hid : '\n' ∉ idText)
    (habout : Classifier.IsAbout c.config isRegistered raw i
      (connectedText m remark digits idText)) (daemon : Daemon σ) (state : σ) :
    ∃ id c', (c.classify isRegistered raw).run daemon state
        = ((⟨some i, some (.networkConnection id (some m.render)), .goOn⟩, c'), [], state)
      ∧ c'.lastBssid? i = some m
      ∧ (¬HasBracket idText ∧ id = decimalOr (-1) digits
        ∨ ∃ digits', LastBracket idText digits' ∧ id = decimalOr (-1) digits') := by
  have hmem : ("CONNECTED", Kind.connected) ∈ Kind.table := by decide
  obtain ⟨id, hevent, hvalue⟩ := connectionEvent_connectedPayload (m := m) hdigits hremark hid
  obtain ⟨verdict, exchanges, state', hverdict, hrun⟩ :=
    Classifier.run_classify_of_isAbout habout daemon state
  have hdone : (c.remember i (connectedText m remark digits idText)).verdict i
      (connectedText m remark digits idText)
        = .done (.event (.networkConnection id (some m.render))) := by
    rw [← hevent, ← afterDash_connectedText]
    exact verdict_eventText _ i hmem _
  rw [hdone] at hverdict
  cases hverdict
  have hname : HasName "CONNECTED" (connectedText m remark digits idText) := by
    have hmark : mark <+: connectedText m remark digits idText := ⟨_, rfl⟩
    exact (hasName_iff hmark hmem).2 (kind?_eventText hmem _)
  have hlast := Classifier.lastBssid?_settle (i := i) (j := i)
    (c := c.remember i (connectedText m remark digits idText))
    (.event (.networkConnection id (some m.render)))
  rw [Classifier.lastBssid?_remember_of_hasName hname, if_pos rfl,
    connectedAddress?_connectedText] at hlast
  exact ⟨id, _, hrun, hlast, hvalue⟩

/-- A line end behind the report, an identifier that has no place in 32 bits, and a bracket without
a space in the text shown for the network. -/
theorem classify_of_connectedText_longId :
    ∃ id c', ((Classifier.new {}).classify (fun _ => false)
        ("IFNAME=wlan0 CTRL-EVENT-CONNECTED - Connection to 00:1e:58:ec:d5:6d completed (auth)"
          ++ " [id=3000000000 id_str=a [id=7]]\n")).run Daemon.silent ()
        = ((⟨some "wlan0", some (.networkConnection id (some "00:1e:58:ec:d5:6d")), .goOn⟩, c'),
          [], ())
      ∧ c'.lastBssid? "wlan0" = some ⟨0x00, 0x1e, 0x58, 0xec, 0xd5, 0x6d⟩
      ∧ id = -1 := by
  have habout : Classifier.IsAbout {} (fun _ => false)
      ("IFNAME=wlan0 CTRL-EVENT-CONNECTED - Connection to 00:1e:58:ec:d5:6d completed (auth)"
        ++ " [id=3000000000 id_str=a [id=7]]\n") "wlan0"
      (connectedText ⟨0x00, 0x1e, 0x58, 0xec, 0xd5, 0x6d⟩ " (auth)" "3000000000".toList
        "a [id=7]".toList) :=
    Classifier.resolve?_eq_some_iff.1 (by decide +kernel)
  have hnone : Text.searchLast networkMark? "a [id=7]".toList = none := by
    decide +kernel
  obtain ⟨id, c', hrun, hlast, ⟨-, hid⟩ | ⟨digits, hbracket, -⟩⟩ :=
    classify_of_connectedText (c := .new {}) ⟨by decide, by decide⟩ (by decide) (by decide) habout
      Daemon.silent ()
  · exact ⟨id, c', hrun, hlast, hid⟩
  · rw [searchLast_networkMark?_eq_some_iff.2 hbracket] at hnone
    cases hnone

/-- The identifier in the text shown for the network is taken for that of the network. -/
theorem classify_of_connectedText_astray :
    ∃ raw, raw = "IFNAME=wlan0 CTRL-EVENT-CONNECTED - Connection to 00:1e:58:ec:d5:6d completed"
        ++ " [id=1 id_str=x [id=7 y]"
      ∧ (((Classifier.new {}).classify (fun _ => false) raw).run Daemon.silent ()).1.1
        = ⟨some "wlan0", some (.networkConnection 7 (some "00:1e:58:ec:d5:6d")), .goOn⟩
      ∧ (((Classifier.new {}).classify (fun _ => false) raw).run Daemon.silent ()).1.1
        ≠ ⟨some "wlan0", some (.networkConnection 1 (some "00:1e:58:ec:d5:6d")), .goOn⟩ :=
  ⟨_, rfl, by decide +kernel, by decide +kernel⟩

end SupplicantWatch.Control
