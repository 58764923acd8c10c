import Mathlib.Tactic.Common
import SupplicantWatch.Proofs.Classifier.Families
import SupplicantWatch.Proofs.Control.Address
import SupplicantWatch.Proofs.Control.NetworkName
import SupplicantWatch.Proofs.Text.Decimal

/-!
# Codes of failures

Why a connection ended, an association was rejected or a setup failed is told by numbers in the
line, of which some may be missing and any may be too long. Main statement:
`verdict_of_failureCodes`.
-/

namespace SupplicantWatch

open Text (IsNumeral decimalOr)

variable {digits rest : List Char} {m : MacAddress}

/-! ### Codes behind an address -/

namespace Control

/-- The report of a disconnection as the supplicant writes it. -/
def disconnectedText (m : MacAddress) (reason : List Char) (isLocal : Bool) : List Char :=
  eventText "DISCONNECTED" ("bssid=".toList ++ (m.toChars ++ (" reason=".toList ++ (reason
    ++ (" locally_generated=".toList ++ [if isLocal then '1' else '0'])))))

/-- The report of a rejected association, of an older supplicant without the address. -/
def rejectedText (bssid : Option MacAddress) (status : List Char) : List Char :=
  eventText "ASSOC-REJECT" (match bssid with
    | some m => "bssid=".toList ++ (m.toChars ++ (" status_code=".toList ++ status))
    | none => "status_code=".toList ++ status)

/-- A text without a dash behind the name of the event is read from its start. -/
lemma afterDash_eventText {event : String} {kind : Kind} (h : (event, kind) ∈ Kind.table)
    {payload : List Char} (hdash : '-' ∉ payload) :
    afterDash (eventText event payload) = eventText event payload := by
  have hspace := space_notMem_of_mem_table h
  have hnone : Text.find? " - ".toList (eventText event payload) = none := by
    rw [← Option.not_isSome_iff_eq_none]
    intro hsome
    have hinfix : ' ' :: "- ".toList <:+: mark ++ event.toList ++ ' ' :: payload :=
      Text.occurs_iff.1 hsome
    have hmem : '-' ∈ ' ' :: payload :=
      (Text.infix_of_infix_append hspace hinfix).subset (by decide)
    rcases List.mem_cons.1 hmem with hmem | hmem
    · cases hmem
    · exact hdash hmem
  rw [afterDash, hnone]
  rfl

/-- One space is taken off the word behind it. -/
lemma some?_space_append {w : List Char} (hne : w ≠ []) (h : ∀ c ∈ w.head?, (c == ' ') = false)
    (rest : List Char) : Text.some? (· == ' ') (' ' :: (w ++ rest)) = some ([' '], w ++ rest) :=
  Text.some?_eq_some_iff.2 ⟨rfl, by simp, by simp, Text.forall_head?_append hne h rest⟩

lemma disconnection?_append {reason : List Char} (h : IsNumeral reason) (m : MacAddress)
    (isLocal : Bool) :
    disconnection? (m.toChars ++ (" reason=".toList ++ (reason
        ++ (" locally_generated=".toList ++ [if isLocal then '1' else '0']))))
      = some (m.toChars, decimalOr (-1) reason, isLocal) := by
  have hreason (t : List Char) : Text.some? (· == ' ') (" reason=".toList ++ t)
      = some ([' '], "reason=".toList ++ t) :=
    some?_space_append (by decide) (by decide) t
  have horigin (t : List Char) : Text.some? (· == ' ') (" locally_generated=".toList ++ t)
      = some ([' '], "locally_generated=".toList ++ t) :=
    some?_space_append (by decide) (by decide) t
  have hdigits (t : List Char) : Text.some? Char.isDigit
      (reason ++ (" locally_generated=".toList ++ t))
        = some (reason, " locally_generated=".toList ++ t) :=
    h.some?_append (Text.forall_head?_append (by decide) (by decide) t)
  rw [disconnection?, MacAddress.takeLower?_toChars_append]
  simp only [Option.bind_eq_bind, Option.bind_some, hreason, Text.isPrefixOf?_append, hdigits,
    horigin, List.head?_cons, Text.getD_int?_of_isDigit h.isDigit]
  cases isLocal <;> rfl

lemma dash_notMem_digits (h : IsNumeral digits) : '-' ∉ digits :=
  Text.notMem_of_forall h.isDigit (by decide)

lemma dash_notMem_toChars (m : MacAddress) : '-' ∉ m.toChars :=
  MacAddress.notMem_toChars (by decide) (by decide) m

lemma verdict_disconnectedText (c : Classifier) (i : String) (m : MacAddress) {reason : List Char}
    (h : IsNumeral reason) (isLocal : Bool) :
    c.verdict i (disconnectedText m reason isLocal)
      = .done (.event (.networkDisconnection m.render (decimalOr (-1) reason) isLocal)) := by
  have hmem : ("DISCONNECTED", Kind.disconnected) ∈ Kind.table := by decide
  have hscan (t : List Char) (ht : MacAddress.takeLower? t = none) : disconnection? t = none := by
    rw [disconnection?, ht]
    rfl
  have hpayload : '-' ∉ "bssid=".toList ++ (m.toChars ++ (" reason=".toList ++ (reason
      ++ (" locally_generated=".toList ++ [if isLocal then '1' else '0'])))) := by
    cases isLocal <;> simp [dash_notMem_digits h, dash_notMem_toChars m]
  have hline (t : List Char) : eventText "DISCONNECTED" ("bssid=".toList ++ t)
      = "CTRL-EVENT-DISCONNECTED bssid=".toList ++ t := rfl
  unfold disconnectedText
  rw [verdict_eventText c i hmem, Kind.verdict, afterDash_eventText hmem hpayload,
    disconnectionEvent, hline, MacAddress.search_append_of_noAddress hscan (by decide),
    Text.search_of_eq_some (disconnection?_append h m isLocal)]
  rfl

lemma statusCode?_append {status : List Char} (h : IsNumeral status) :
    statusCode? ("status_code=".toList ++ status) = some (decimalOr (-1) status) := by
  have hdigits : Text.some? Char.isDigit status = some (status, []) :=
    Text.some?_eq_some_iff.2 ⟨(List.append_nil status).symm, h.ne_nil, h.isDigit, by simp⟩
  rw [statusCode?, Text.isPrefixOf?_append]
  simp only [Option.bind_eq_bind, Option.bind_some, hdigits, Text.getD_int?_of_isDigit h.isDigit]
  rfl

lemma statusCode?_eq_none {s : List Char} (h : ¬"status_code=".toList <+: s) :
    statusCode? s = none := by
  rw [statusCode?, Text.isPrefixOf?_eq_none_iff.2 h]
  rfl

/-- A part of a line without addresses where no status code stands or begins is passed over. -/
lemma search_rejection?_append {front : List Char} (haddress : MacAddress.NoAddress front)
    (htails : ∀ t ∈ front.tails, t ≠ [] →
      ¬t <+: "status_code=".toList ∧ ¬"status_code=".toList <+: t) (rest : List Char) :
    Text.search rejection? (front ++ rest) = Text.search rejection? rest := by
  have hstatus : ∀ t, t <:+ front → t ≠ [] → statusCode? (t ++ rest) = none :=
    Text.scan_append_of_tails (fun _ => statusCode?_eq_none) htails rest
  apply Text.search_append
  intro t ht hne
  rw [rejection?, addressedStatus?, haddress.takeLower?_append rest t ht hne, hstatus t ht hne]
  rfl

lemma rejection?_toChars_append {status : List Char} (h : IsNumeral status) (m : MacAddress) :
    rejection? (m.toChars ++ (" status_code=".toList ++ status))
      = some (m.toChars, decimalOr (-1) status) := by
  have hspace : Text.some? (· == ' ') (" status_code=".toList ++ status)
      = some ([' '], "status_code=".toList ++ status) :=
    some?_space_append (by decide) (by decide) status
  have hstatus : addressedStatus? (m.toChars ++ (" status_code=".toList ++ status))
      = some (m.toChars, decimalOr (-1) status) := by
    rw [addressedStatus?, MacAddress.takeLower?_toChars_append]
    simp only [Option.bind_eq_bind, Option.bind_some, hspace, statusCode?_append h]
    rfl
  rw [rejection?, hstatus, Option.some_or]

lemma rejection?_append {status : List Char} (h : IsNumeral status) :
    rejection? ("status_code=".toList ++ status) = some ([], decimalOr (-1) status) := by
  have hclear : MacAddress.NoAddress "status_code=".toList := by decide
  rw [rejection?, addressedStatus?,
    hclear.takeLower?_append status _ List.suffix_rfl (by decide), statusCode?_append h]
  rfl

lemma verdict_rejectedText (c : Classifier) (i : String) (bssid : Option MacAddress)
    {status : List Char} (h : IsNumeral status) :
    c.verdict i (rejectedText bssid status)
      = .done (.event (.associationRejection ((bssid.map MacAddress.render).getD "")
          (decimalOr (-1) status))) := by
  have hmem : ("ASSOC-REJECT", Kind.assocReject) ∈ Kind.table := by decide
  -- With an address the first shape is found at the address, without one the second at the key.
  cases bssid with
  | some m =>
    have hpayload : '-' ∉ "bssid=".toList ++ (m.toChars ++ (" status_code=".toList ++ status)) := by
      simp [dash_notMem_digits h, dash_notMem_toChars m]
    have hline (t : List Char) : eventText "ASSOC-REJECT" ("bssid=".toList ++ t)
        = "CTRL-EVENT-ASSOC-REJECT bssid=".toList ++ t := rfl
    unfold rejectedText
    dsimp only
    rw [verdict_eventText c i hmem, Kind.verdict, afterDash_eventText hmem hpayload,
      rejectionEvent, hline, search_rejection?_append (by decide) (by decide),
      Text.search_of_eq_some (rejection?_toChars_append h m)]
    rfl
  | none =>
    have hpayload : '-' ∉ "status_code=".toList ++ status := by
      simp [dash_notMem_digits h]
    have hline (t : List Char) : eventText "ASSOC-REJECT" t
        = "CTRL-EVENT-ASSOC-REJECT ".toList ++ t := rfl
    unfold rejectedText
    dsimp only
    rw [verdict_eventText c i hmem, Kind.verdict, afterDash_eventText hmem hpayload,
      rejectionEvent, hline, search_rejection?_append (by decide) (by decide),
      Text.search_of_eq_some (rejection?_append h)]
    rfl

end Control

/-! ### Codes of a failed setup -/

/-- The reason of a failed setup according to its codes. -/
inductive WpsFailure.DecidedBy (config vendor : Int) : WpsFailure → Prop where
  | tkip (h : vendor = 1) : DecidedBy config vendor .tkipOnlyProhibited
  | wep (h : vendor = 2) : DecidedBy config vendor .wepProhibited
  | auth (hv : vendor ≠ 1 ∧ vendor ≠ 2) (hc : config = 18) : DecidedBy config vendor .authFailure
  | overlap (hv : vendor ≠ 1 ∧ vendor ≠ 2) (hc : config = 12) : DecidedBy config vendor .overlap
  | vendor (hv : vendor ≠ 0 ∧ vendor ≠ 1 ∧ vendor ≠ 2) (hc : config ≠ 18 ∧ config ≠ 12) :
    DecidedBy config vendor (.generic vendor)
  | config (hv : vendor = 0) (hc : config ≠ 18 ∧ config ≠ 12) :
    DecidedBy config vendor (.generic config)

/-- The codes decide on exactly one reason. -/
lemma WpsFailure.decidedBy_iff {config vendor : Int} {reason : WpsFailure} :
    reason.DecidedBy config vendor ↔ reason = ofCodes config vendor := by
  constructor
  · intro h
    cases h with
    | tkip h => simp [ofCodes, h]
    | wep h => simp [ofCodes, h]
    | auth hv hc => simp [ofCodes, hv, hc]
    | overlap hv hc => simp [ofCodes, hv, hc]
    | vendor hv hc => simp [ofCodes, hv, hc]
    | config hv hc => simp [ofCodes, hv, hc]
  · rintro rfl
    unfold ofCodes
    split_ifs with htkip hwep hauth hoverlap hnone
    · exact .tkip htkip
    · exact .wep hwep
    · exact .auth ⟨htkip, hwep⟩ hauth
    · exact .overlap ⟨htkip, hwep⟩ hoverlap
    · exact .config hnone ⟨hauth, hoverlap⟩
    · exact .vendor ⟨hnone, htkip, hwep⟩ ⟨hauth, hoverlap⟩

namespace Classifier

variable {w : String} {msg s : List Char} {code config vendor : Option (List Char)}

/-- A code with its key, if there is one. -/
def codeItem (w : String) : Option (List Char) → List Char
  | some digits => w.toList ++ digits
  | none => []

/-- The report of a failed setup as the supplicant writes it, with some text behind the codes. -/
def wpsFailText (msg : List Char) (config vendor : Option (List Char)) (rest : List Char) :
    List Char :=
  "WPS-FAIL msg=".toList ++ (msg ++ (codeItem " config_error=" config
    ++ (codeItem " reason=" vendor ++ rest)))

/-- A text begins with a key and a digit behind it. -/
def BeginsCode (w : String) (s : List Char) : Prop :=
  ∃ c rest, s = w.toList ++ c :: rest ∧ Text.isDecimalDigit c = true

/-- The text behind the codes: it is empty, or a space begins it and no code. -/
structure EndsCodes (s : List Char) : Prop where
  head_eq : ∀ c ∈ s.head?, c = ' '
  not_beginsCode : ∀ w ∈ [" config_error=", " reason="], ¬BeginsCode w s

lemma some?_isDecimalDigit_append (h : IsNumeral digits)
    (hrest : ∀ c ∈ rest.head?, c = ' ') :
    Text.some? Text.isDecimalDigit (digits ++ rest) = some (digits, rest) := by
  refine Text.some?_eq_some_iff.2 ⟨rfl, h.ne_nil, ?_, ?_⟩
  · exact fun c hc => Text.isDecimalDigit_of_isDigit (h.isDigit c hc)
  · intro c hc
    rw [hrest c hc]
    decide

lemma optionalCode_of_not_beginsCode (h : ¬BeginsCode w s) : optionalCode w s = ([], s) := by
  cases hafter : List.isPrefixOf? w.toList s with
  | none =>
    rw [optionalCode, hafter]
    rfl
  | some rest =>
    have hnone : Text.some? Text.isDecimalDigit rest = none := by
      cases rest with
      | nil => rfl
      | cons c rest =>
        have hc : ¬Text.isDecimalDigit c = true := fun hc =>
          h ⟨c, rest, (List.append_eq_of_isPrefixOf?_eq_some hafter).symm, hc⟩
        rw [Text.some?, List.takeWhile_cons_of_neg hc]
    rw [optionalCode, hafter, Option.bind_some, hnone]
    rfl

/-- A code is taken off the text behind it. -/
lemma optionalCode_codeItem (h : ∀ digits ∈ code, IsNumeral digits)
    (hhead : ∀ c ∈ rest.head?, c = ' ') (hrest : ¬BeginsCode w rest) :
    optionalCode w (codeItem w code ++ rest) = (code.getD [], rest) := by
  cases code with
  | none => exact optionalCode_of_not_beginsCode hrest
  | some digits =>
    rw [codeItem, List.append_assoc, optionalCode, Text.isPrefixOf?_append, Option.bind_some,
      some?_isDecimalDigit_append (h digits rfl) hhead]
    rfl

lemma head_codeItem (hne : w.toList ≠ []) (hw : ∀ c ∈ w.toList.head?, c = ' ')
    (hhead : ∀ c ∈ rest.head?, c = ' ') (code : Option (List Char)) :
    ∀ c ∈ (codeItem w code ++ rest).head?, c = ' ' := by
  cases code with
  | none => exact hhead
  | some digits =>
    rw [codeItem, List.append_assoc]
    exact Text.forall_head?_append hne hw (digits ++ rest)

lemma getD_int?_code (h : ∀ digits ∈ code, IsNumeral digits) :
    (Text.int? 32 (code.getD [])).getD 0 = decimalOr 0 (code.getD []) := by
  apply Text.getD_int?_of_isDigit
  cases code with
  | none => exact List.forall_mem_nil _
  | some digits => exact (h digits rfl).isDigit

lemma wpsCodes?_wpsFailText (hmsg : IsNumeral msg) (hconfig : ∀ digits ∈ config, IsNumeral digits)
    (hvendor : ∀ digits ∈ vendor, IsNumeral digits) (hrest : EndsCodes rest) :
    wpsCodes? (wpsFailText msg config vendor rest)
      = some (decimalOr 0 (config.getD []), decimalOr 0 (vendor.getD [])) := by
  have hvendorHead : ∀ c ∈ (codeItem " reason=" vendor ++ rest).head?, c = ' ' :=
    head_codeItem (by decide) (by decide) hrest.head_eq vendor
  have hconfigHead : ∀ c ∈ (codeItem " config_error=" config
      ++ (codeItem " reason=" vendor ++ rest)).head?, c = ' ' :=
    head_codeItem (by decide) (by decide) hvendorHead config
  -- If the first code is missing, the second is not taken for it.
  have hbegins : ¬BeginsCode " config_error=" (codeItem " reason=" vendor ++ rest) := by
    cases vendor with
    | none => exact hrest.not_beginsCode _ (by simp)
    | some digits =>
      rintro ⟨c, t, ht, -⟩
      cases ht
  have hreason := optionalCode_codeItem hvendor hrest.head_eq
    (hrest.not_beginsCode " reason=" (by simp))
  unfold wpsFailText
  rw [wpsCodes?, Text.isPrefixOf?_append]
  simp only [Option.bind_eq_bind, Option.bind_some,
    some?_isDecimalDigit_append hmsg hconfigHead,
    optionalCode_codeItem hconfig hvendorHead hbegins, hreason, getD_int?_code hconfig,
    getD_int?_code hvendor]
  rfl

lemma verdict_wpsFailText (c : Classifier) (i : String) (hmsg : IsNumeral msg)
    (hconfig : ∀ digits ∈ config, IsNumeral digits)
    (hvendor : ∀ digits ∈ vendor, IsNumeral digits) (hrest : EndsCodes rest) :
    c.verdict i (wpsFailText msg config vendor rest)
      = .done (.event (.wpsFail
          (.ofCodes (decimalOr 0 (config.getD [])) (decimalOr 0 (vendor.getD []))))) := by
  have hprefix : "WPS-FAIL".toList <+: wpsFailText msg config vendor rest := ⟨_, rfl⟩
  have hfamily : Family.of? (wpsFailText msg config vendor rest) = some .wpsFail :=
    (Family.of?_eq_iff_prefix (by simp [Family.table])).2 hprefix
  have hcodes := Text.search_of_eq_some (wpsCodes?_wpsFailText hmsg hconfig hvendor hrest)
  rw [verdict, hfamily]
  dsimp only
  rw [familyVerdict, wpsFailEvent, hcodes]
  rfl

/-- The reports of a disconnection, a rejected association and a failed setup are events with the
codes that were written, however long these are. A reason or a status that has no place in 32 bits
is read as -1. A rejection without an address has an empty one. The vendor's code decides before the
configuration error why a setup failed, and either counts as zero if it is not there or has no
place. -/
theorem verdict_of_failureCodes (c : Classifier) (i : String) (m : MacAddress) :
    (∀ reason isLocal, IsNumeral reason → c.verdict i (Control.disconnectedText m reason isLocal)
      = .done (.event (.networkDisconnection m.render (decimalOr (-1) reason) isLocal)))
    ∧ (∀ status, IsNumeral status →
        c.verdict i (Control.rejectedText (some m) status)
          = .done (.event (.associationRejection m.render (decimalOr (-1) status)))
        ∧ c.verdict i (Control.rejectedText none status)
          = .done (.event (.associationRejection "" (decimalOr (-1) status))))
    ∧ ∀ msg config vendor rest, IsNumeral msg → (∀ digits ∈ config, IsNumeral digits) →
        (∀ digits ∈ vendor, IsNumeral digits) → EndsCodes rest →
        ∃ reason : WpsFailure, c.verdict i (wpsFailText msg config vendor rest)
            = .done (.event (.wpsFail reason))
          ∧ reason.DecidedBy (decimalOr 0 (config.getD [])) (decimalOr 0 (vendor.getD [])) := by
  refine ⟨?disconnection, ?rejection, ?setup⟩
  case disconnection =>
    intro reason isLocal h
    exact Control.verdict_disconnectedText c i m h isLocal
  case rejection =>
    intro status h
    exact ⟨Control.verdict_rejectedText c i (some m) h, Control.verdict_rejectedText c i none h⟩
  case setup =>
    intro msg config vendor rest hmsg hconfig hvendor hrest
    exact ⟨_, verdict_wpsFailText c i hmsg hconfig hvendor hrest,
      WpsFailure.decidedBy_iff.2 rfl⟩

/-- Codes that have no place in 32 bits, and a reason without digits behind the codes. -/
theorem verdict_of_failureCodes_tooLong :
    ∃ m : MacAddress, ∃ rest : List Char, m.render = "ac:22:0b:24:70:74"
      ∧ rest = " reason=none".toList
      ∧ (Classifier.new {}).verdict "wlan0"
          (Control.disconnectedText m "2147483648".toList true)
        = .done (.event (.networkDisconnection "ac:22:0b:24:70:74" (-1) true))
      ∧ (Classifier.new {}).verdict "wlan0" (Control.rejectedText none "2147483647".toList)
        = .done (.event (.associationRejection "" 2147483647))
      ∧ (Classifier.new {}).verdict "wlan0"
          (wpsFailText "8".toList (some "99999999999".toList) none rest)
        = .done (.event (.wpsFail (.generic 0))) := by
  have hrest : EndsCodes " reason=none".toList := by
    refine ⟨by decide, ?_⟩
    rintro w hw ⟨c, t, ht, hc⟩
    simp only [List.mem_cons, List.not_mem_nil, or_false] at hw
    rcases hw with rfl | rfl
    · cases ht
    · cases ht
      exact absurd hc (by decide)
  have hconfig : ∀ digits ∈ some "99999999999".toList, IsNumeral digits := by
    rintro _ ⟨⟩
    exact ⟨by decide, by decide⟩
  obtain ⟨hdisconnection, hrejection, hsetup⟩ :=
    verdict_of_failureCodes (.new {}) "wlan0" ⟨0xac, 0x22, 0x0b, 0x24, 0x70, 0x74⟩
  obtain ⟨reason, hverdict, hreason⟩ := hsetup "8".toList (some "99999999999".toList) none
    " reason=none".toList ⟨by decide, by decide⟩ hconfig nofun hrest
  rw [WpsFailure.decidedBy_iff.1 hreason] at hverdict
  exact ⟨_, _, by decide +kernel, rfl, hdisconnection _ true ⟨by decide, by decide⟩,
    (hrejection _ ⟨by decide, by decide⟩).2, hverdict⟩

end Classifier

end SupplicantWatch
