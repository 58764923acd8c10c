import Mathlib.Tactic.Common
import SupplicantWatch.Proofs.Credential.Requests
import SupplicantWatch.Proofs.Text.Blanks

/-!
# White space behind a credential request

The name of the network is all of the rest of a credential request, so it ends in the white space
behind the line. A request that shows no name is read without that. Main statement:
`eventOfLine?_append_blanks_iff`.
-/

namespace SupplicantWatch.Credential

open Text (IsBlank IsNumeral IsSolid)

variable {α : Type} {scan scan' : List Char → Option α} {nameOf : α → List Char} {a : α}
  {digits name s t b : List Char} {id : Int} {request : SimRequest}

/-! ### Names at the end of a text -/

/-- What a scanner reads of a text without line feeds is told with a name that ends the text, and it
reads the text with anything behind it too. -/
structure ReadsName (scan : List Char → Option α) (nameOf : α → List Char) : Prop where
  suffix {s : List Char} {a : α} (hs : '\n' ∉ s) (h : scan s = some a) :
    nameOf a ≠ [] ∧ nameOf a <:+ s
  append {s b : List Char} (hs : '\n' ∉ s ++ b) (h : scan s ≠ none) : scan (s ++ b) ≠ none

lemma ReadsName.search (h : ReadsName scan nameOf) : ReadsName (Text.search scan) nameOf where
  suffix hs hscan := by
    obtain ⟨t, ht, hscan, -⟩ := Text.search_eq_some_iff.1 hscan
    obtain ⟨hne, hsuffix⟩ := h.suffix (fun hmem => hs (ht.subset hmem)) hscan
    exact ⟨hne, hsuffix.trans ht⟩
  append {s b} hs hscan := by
    rw [ne_eq, Text.search_eq_none_iff] at hscan ⊢
    push Not at hscan ⊢
    obtain ⟨t, ⟨front, rfl⟩, hfound⟩ := hscan
    have htb : t ++ b <:+ front ++ t ++ b := ⟨front, (List.append_assoc front t b).symm⟩
    exact ⟨t ++ b, htb, h.append (fun hmem => hs (htb.subset hmem)) hfound⟩

lemma ReadsName.or (h : ReadsName scan nameOf) (h' : ReadsName scan' nameOf) :
    ReadsName (fun s => (scan s).or (scan' s)) nameOf where
  suffix hs hscan := by
    rcases Option.or_eq_some_iff.1 hscan with hscan | ⟨-, hscan⟩
    · exact h.suffix hs hscan
    · exact h'.suffix hs hscan
  append hs hscan := by
    rw [ne_eq, Option.or_eq_none_iff, not_and_or] at hscan ⊢
    exact hscan.imp (h.append hs) (h'.append hs)

/-- The name goes on in the white space behind the text. -/
lemma ReadsName.append_blanks_iff (h : ReadsName scan nameOf) (hs : IsSolid s) (hb : IsBlank b)
    (hne : b ≠ []) (hline : '\n' ∉ s ++ b) : scan (s ++ b) = scan s ↔ scan (s ++ b) = none := by
  constructor
  · intro heq
    by_contra hsome
    obtain ⟨a, ha⟩ := Option.ne_none_iff_exists'.1 hsome
    obtain ⟨hname, front, hfront⟩ := h.suffix hline ha
    obtain ⟨-, front', hfront'⟩ := h.suffix (fun hmem => hline (List.mem_append_left b hmem))
      (heq ▸ ha)
    -- The name would end in white space as part of the one text, and not as part of the other.
    rw [← hfront'] at hs
    have hsolid := (hs.of_append hname).append_left front
    rw [hfront] at hsolid
    exact Text.not_isSolid_append_blanks hb hne hsolid
  · intro hnone
    rw [hnone]
    by_contra hsome
    exact h.append hline (Ne.symm hsome) hnone

/-! ### The three shapes -/

lemma exists_identityText_of_identity? (hs : '\n' ∉ s) (h : identity? s = some (id, name)) :
    ∃ digits, s = identityText digits name ∧ IsNumeral digits ∧ IsName name := by
  simp only [identity?, Option.bind_eq_bind, Option.bind_eq_some_iff] at h
  obtain ⟨behind, hmark, ⟨digits, tail⟩, hdigits, last, hneeded, name', hssid, hresult⟩ := h
  cases hresult
  rw [List.isPrefixOf?_eq_some_iff_append_eq] at hmark hneeded
  obtain ⟨rfl, hne, hall, -⟩ := Text.some?_eq_some_iff.1 hdigits
  have htext : s = identityText digits last := by
    unfold identityText
    rw [hneeded, hmark]
  have hlast : '\n' ∉ last := by
    intro hmem
    apply hs
    rw [htext]
    unfold identityText
    simp [hmem]
  obtain ⟨rfl, hname⟩ := (ssid?_eq_some_iff hlast).1 hssid
  exact ⟨digits, htext, ⟨hne, hall⟩, hname⟩

lemma exists_umtsText_of_umts? (hs : '\n' ∉ s) (h : umts? s = some request) :
    ∃ digits rand autn name, s = umtsText digits rand autn name
      ∧ (∀ c ∈ digits, Char.isDigit c = true) ∧ IsLowerHex rand ∧ IsLowerHex autn
      ∧ IsName name := by
  simp only [umts?, Option.bind_eq_bind, Option.bind_eq_some_iff] at h
  obtain ⟨behind, hmark, tail, hkind, ⟨rand, tail'⟩, hrand, colon, hcolon, ⟨autn, tail''⟩, hautn,
    last, hneeded, name, hssid, -⟩ := h
  obtain ⟨rfl, hrandne, hrandall, -⟩ := Text.some?_eq_some_iff.1 hrand
  obtain ⟨rfl, hautnne, hautnall, -⟩ := Text.some?_eq_some_iff.1 hautn
  have hparts : behind.takeWhile Char.isDigit ++ behind.dropWhile Char.isDigit = behind :=
    List.takeWhile_append_dropWhile
  rw [List.isPrefixOf?_eq_some_iff_append_eq] at hmark hkind hcolon hneeded
  have htext : s = umtsText (behind.takeWhile Char.isDigit) rand autn last := by
    rw [umtsText, List.cons_append, hneeded, ← List.singleton_append, hcolon, hkind, hparts, hmark]
  have hlast : '\n' ∉ last := by
    intro hmem
    apply hs
    rw [htext]
    simp [umtsText, hmem]
  obtain ⟨rfl, hname⟩ := (ssid?_eq_some_iff hlast).1 hssid
  exact ⟨_, rand, autn, _, htext, List.all_eq_true.1 List.all_takeWhile, ⟨hrandne, hrandall⟩,
    ⟨hautnne, hautnall⟩, hname⟩

lemma IsName.append (h : IsName name) (hb : '\n' ∉ b) : IsName (name ++ b) :=
  ⟨List.append_ne_nil_of_left_ne_nil h.ne_nil b,
    List.not_mem_append h.lineFeed_notMem hb⟩

lemma readsName_identity? : ReadsName identity? (·.2) where
  suffix {s a} hs h := by
    obtain ⟨digits, rfl, -, hname⟩ := exists_identityText_of_identity? hs h
    refine ⟨hname.ne_nil, "IDENTITY-".toList ++ digits ++ ":Identity needed for SSID ".toList, ?_⟩
    unfold identityText
    simp only [List.append_assoc]
  append {s b} hs h := by
    rw [List.mem_append, not_or] at hs
    obtain ⟨⟨id, name⟩, h⟩ := Option.ne_none_iff_exists'.1 h
    obtain ⟨digits, rfl, hdigits, hname⟩ := exists_identityText_of_identity? hs.1 h
    have htext : identityText digits name ++ b = identityText digits (name ++ b) := by
      unfold identityText
      simp only [List.append_assoc]
    rw [htext, identity?_identityText hdigits (hname.append hs.2)]
    exact Option.some_ne_none _

lemma readsName_gsm? : ReadsName gsm? fun request => request.ssid.toList where
  suffix {s request} hs h := by
    obtain ⟨digits, rands, name, hgsm⟩ := exists_isGsm_of_gsm? hs h
    rw [hgsm.gsm?_eq, Option.some_inj] at h
    subst h
    have hssid : (gsmRequest digits rands name).ssid.toList = name := String.toList_ofList
    rw [hssid, hgsm.text_eq]
    refine ⟨hgsm.isName.ne_nil, "SIM-".toList ++ digits ++ ":GSM-AUTH".toList
      ++ rands.flatMap (':' :: ·) ++ " needed for SSID ".toList, ?_⟩
    simp only [gsmText, List.append_assoc]
  append {s b} hs h := by
    rw [List.mem_append, not_or] at hs
    obtain ⟨request, h⟩ := Option.ne_none_iff_exists'.1 h
    obtain ⟨digits, rands, name, rfl, hdigits, hne, hhex, hname⟩ := exists_isGsm_of_gsm? hs.1 h
    have htext : gsmText digits rands name ++ b = gsmText digits rands (name ++ b) := by
      simp only [gsmText, List.append_assoc]
    have hgsm : IsGsm (gsmText digits rands name ++ b) digits rands (name ++ b) :=
      ⟨htext, hdigits, hne, hhex, hname.append hs.2⟩
    rw [hgsm.gsm?_eq]
    exact Option.some_ne_none _

lemma readsName_umts? : ReadsName umts? fun request => request.ssid.toList where
  suffix {s request} hs h := by
    obtain ⟨digits, rand, autn, name, rfl, hdigits, hrand, hautn, hname⟩ :=
      exists_umtsText_of_umts? hs h
    rw [umts?_umtsText hdigits hrand hautn hname, Option.some_inj] at h
    subst h
    have hssid : (umtsRequest digits rand autn name).ssid.toList = name := String.toList_ofList
    rw [hssid]
    refine ⟨hname.ne_nil, "SIM-".toList ++ digits ++ ":UMTS-AUTH:".toList ++ rand ++ ':' :: autn
      ++ " needed for SSID ".toList, ?_⟩
    simp only [umtsText, List.append_assoc]
  append {s b} hs h := by
    rw [List.mem_append, not_or] at hs
    obtain ⟨request, h⟩ := Option.ne_none_iff_exists'.1 h
    obtain ⟨digits, rand, autn, name, rfl, hdigits, hrand, hautn, hname⟩ :=
      exists_umtsText_of_umts? hs.1 h
    have htext : umtsText digits rand autn name ++ b = umtsText digits rand autn (name ++ b) := by
      simp only [umtsText, List.append_assoc, List.cons_append]
    rw [htext, umts?_umtsText hdigits hrand hautn (hname.append hs.2)]
    exact Option.some_ne_none _

/-! ### Requests -/

/-- The event of a request for an identity. -/
def identityEvent : Option (Int × List Char) → Event
  | some (id, ssid) => .requestIdentity id (some (String.ofList ssid))
  | none => .requestIdentity (-2) none

/-- What a request for SIM authentication says. -/
def sim? (s : List Char) : Option SimRequest :=
  (Text.search gsm? s).or (Text.search umts? s)

lemma readsName_sim? : ReadsName sim? fun request => request.ssid.toList :=
  readsName_gsm?.search.or readsName_umts?.search

/-- A credential request shows the name of its network. -/
def ShowsName (t : List Char) : Prop :=
  ∃ request, t = mark ++ request
    ∧ ("IDENTITY".toList <+: request ∧ Text.search identity? request ≠ none
      ∨ "SIM".toList <+: request ∧ sim? request ≠ none)

lemma identityEvent_injective : Function.Injective identityEvent := by
  rintro (_ | ⟨id, ssid⟩) (_ | ⟨id', ssid'⟩) h
  · rfl
  · cases h
  · cases h
  · simpa [identityEvent, String.ofList_inj] using h

lemma eventOfLine?_identity {request : List Char} (h : "IDENTITY".toList <+: request) :
    eventOfLine? (mark ++ request) = some (identityEvent (Text.search identity? request)) := by
  rw [← List.isPrefixOf_iff_prefix] at h
  rw [eventOfLine?, Text.isPrefixOf?_append]
  simp only [Option.bind_eq_bind, Option.bind_some, h, if_true]
  cases Text.search identity? request <;> rfl

lemma eventOfLine?_other {request : List Char} (hidentity : ¬"IDENTITY".toList <+: request)
    (hsim : ¬"SIM".toList <+: request) : eventOfLine? (mark ++ request) = none := by
  rw [← List.isPrefixOf_iff_prefix] at hidentity hsim
  rw [eventOfLine?, Text.isPrefixOf?_append]
  simp only [Option.bind_eq_bind, Option.bind_some, hidentity, hsim, Bool.false_eq_true, if_false]

lemma eventOfLine?_mark_append_blanks_iff {request : List Char} (hsolid : IsSolid (mark ++ request))
    (hb : IsBlank b) (hne : b ≠ []) (hline : '\n' ∉ request ++ b) :
    eventOfLine? (mark ++ (request ++ b)) = eventOfLine? (mark ++ request)
      ↔ ¬("IDENTITY".toList <+: request ++ b ∧ Text.search identity? (request ++ b) ≠ none
        ∨ "SIM".toList <+: request ++ b ∧ sim? (request ++ b) ≠ none) := by
  have hstarts {w : List Char} (hw : IsSolid w) : w <+: request ++ b ↔ w <+: request :=
    hw.isPrefix_append_iff hb
  have hrequest {w : List Char} (hw : w <+: request) (hwne : w ≠ []) : IsSolid request :=
    hsolid.of_append fun hnil => hwne (List.prefix_nil.1 (hnil ▸ hw))
  -- The two words that a request may begin with are not in the white space, so they are there with
  -- it or without.
  by_cases hidentity : "IDENTITY".toList <+: request
  · have hidentity' := (hstarts (w := "IDENTITY".toList) (by decide)).2 hidentity
    have hsim' : ¬"SIM".toList <+: request ++ b := fun h =>
      absurd (List.prefix_or_prefix_of_prefix hidentity' h) (by decide)
    rw [eventOfLine?_identity hidentity, eventOfLine?_identity hidentity', Option.some_inj,
      identityEvent_injective.eq_iff, readsName_identity?.search.append_blanks_iff
        (hrequest hidentity (by decide)) hb hne hline]
    simp only [hidentity', hsim', true_and, false_and, or_false, ne_eq, not_not]
  have hidentity' := (hstarts (w := "IDENTITY".toList) (by decide)).not.2 hidentity
  by_cases hsim : "SIM".toList <+: request
  · have hsim' := (hstarts (w := "SIM".toList) (by decide)).2 hsim
    have hinjective : Function.Injective (Option.map Event.requestSimAuth) :=
      Option.map_injective fun _ _ => Event.requestSimAuth.inj
    rw [eventOfLine?_ofSim hsim, eventOfLine?_ofSim hsim', ← sim?, ← sim?, hinjective.eq_iff,
      readsName_sim?.append_blanks_iff (hrequest hsim (by decide)) hb hne hline]
    simp only [hidentity', hsim', true_and, false_and, false_or, ne_eq, not_not]
  · have hsim' := (hstarts (w := "SIM".toList) (by decide)).not.2 hsim
    rw [eventOfLine?_other hidentity hsim, eventOfLine?_other hidentity' hsim']
    simp only [hidentity', hsim', false_and, or_false, not_false_eq_true]

/-- A credential request is read otherwise with white space behind it if it then shows the name of
its network. -/
theorem eventOfLine?_append_blanks_iff (ht : IsSolid t) (hb : IsBlank b) (hne : b ≠ [])
    (hline : '\n' ∉ t ++ b) : eventOfLine? (t ++ b) = eventOfLine? t ↔ ¬ShowsName (t ++ b) := by
  have hmark : IsSolid mark := by decide
  by_cases hm : mark <+: t
  · obtain ⟨request, rfl⟩ := hm
    rw [List.append_assoc] at hline ⊢
    have hline' : '\n' ∉ request ++ b := fun hmem => hline (List.mem_append_right mark hmem)
    rw [eventOfLine?_mark_append_blanks_iff ht hb hne hline', ShowsName]
    simp only [List.append_cancel_left_eq, exists_eq_left']
  · have hnone {s : List Char} (h : ¬mark <+: s) : eventOfLine? s = none := by
      rw [eventOfLine?, Text.isPrefixOf?_eq_none_iff.2 h]
      rfl
    have hm' : ¬mark <+: t ++ b := by rwa [hmark.isPrefix_append_iff hb]
    rw [hnone hm, hnone hm']
    refine iff_of_true rfl ?_
    rintro ⟨request, heq, -⟩
    exact hm' ⟨request, heq.symm⟩

end SupplicantWatch.Credential
