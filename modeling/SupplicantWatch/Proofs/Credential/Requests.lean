import Mathlib.Tactic.Common
import SupplicantWatch.Credential
import SupplicantWatch.Proofs.Text.Decimal
import SupplicantWatch.Proofs.Text.Search

/-!
# What is read of a credential request

A request ends with the name of its network, which may be any text. Requests for an identity and for
GSM authentication are read as they were written. The shape of a request for GSM authentication is
looked for in all of the text, though, and before that of one for UMTS authentication, so where the
name of a request of the latter kind has the former in it, that is what is read. Main statement:
`eventOfLine?_requests`.
-/

namespace SupplicantWatch.Credential

open Text (IsNumeral decimalOr)

variable {digits name rand autn s rest : List Char} {rands groups : List (List Char)}
  {request : SimRequest}

/-! ### Written requests -/

/-- A request for an identity. -/
def identityText (digits name : List Char) : List Char :=
  "IDENTITY-".toList ++ (digits ++ (":Identity needed for SSID ".toList ++ name))

/-- A request for GSM authentication. -/
def gsmText (digits : List Char) (rands : List (List Char)) (name : List Char) : List Char :=
  "SIM-".toList ++ (digits ++ (":GSM-AUTH".toList
    ++ (rands.flatMap (':' :: ·) ++ (" needed for SSID ".toList ++ name))))

/-- A request for UMTS authentication. -/
def umtsText (digits rand autn name : List Char) : List Char :=
  "SIM-".toList ++ (digits ++ (":UMTS-AUTH:".toList
    ++ (rand ++ (':' :: autn ++ (" needed for SSID ".toList ++ name)))))

/-- One or more hexadecimal digits in lower case. -/
structure IsLowerHex (s : List Char) : Prop where
  ne_nil : s ≠ []
  isLowerHex : ∀ c ∈ s, Text.isLowerHex c = true

lemma isLowerHex_iff : IsLowerHex s ↔ (!s.isEmpty && s.all Text.isLowerHex) = true := by
  rw [Bool.and_eq_true, Bool.not_eq_true', List.isEmpty_eq_false_iff, List.all_eq_true]
  exact ⟨fun h => ⟨h.ne_nil, h.isLowerHex⟩, fun h => ⟨h.1, h.2⟩⟩

instance (s : List Char) : Decidable (IsLowerHex s) :=
  decidable_of_iff' _ isLowerHex_iff

/-- A text of one line, and not an empty one. -/
structure IsName (name : List Char) : Prop where
  ne_nil : name ≠ []
  lineFeed_notMem : '\n' ∉ name

/-- A text is a request for GSM authentication. -/
structure IsGsm (text digits : List Char) (rands : List (List Char)) (name : List Char) :
    Prop where
  text_eq : text = gsmText digits rands name
  isDigit : ∀ c ∈ digits, Char.isDigit c = true
  rands_ne : rands ≠ []
  isLowerHex : ∀ rand ∈ rands, IsLowerHex rand
  isName : IsName name

/-- What a request for GSM authentication says. -/
def gsmRequest (digits : List Char) (rands : List (List Char)) (name : List Char) : SimRequest :=
  ⟨decimalOr (-1) digits, .sim, String.ofList name, rands.map String.ofList⟩

/-- What a request for UMTS authentication says. -/
def umtsRequest (digits rand autn name : List Char) : SimRequest :=
  ⟨decimalOr (-1) digits, .aka, String.ofList name, [String.ofList rand, String.ofList autn]⟩

/-- The first request for GSM authentication in a text. -/
def FirstGsm (s digits : List Char) (rands : List (List Char)) (name : List Char) : Prop :=
  ∃ text, text <:+ s ∧ IsGsm text digits rands name
    ∧ ∀ text' digits' rands' name', text' <:+ s → IsGsm text' digits' rands' name' →
      text'.length ≤ text.length

/-! ### Their parts -/

lemma networkId_of_isDigit (h : ∀ c ∈ digits, Char.isDigit c = true) :
    networkId digits = decimalOr (-1) digits :=
  Text.getD_int?_of_isDigit h (-1)

lemma IsLowerHex.some?_append (hs : IsLowerHex s)
    (hrest : ∀ c ∈ rest.head?, Text.isLowerHex c = false) :
    Text.some? Text.isLowerHex (s ++ rest) = some (s, rest) :=
  Text.some?_eq_some_iff.2 ⟨rfl, hs.ne_nil, hs.isLowerHex, hrest⟩

lemma ssid?_eq_some_iff (hs : '\n' ∉ s) : ssid? s = some name ↔ s = name ∧ IsName name := by
  rw [ssid?, Option.map_eq_some_iff]
  constructor
  · rintro ⟨⟨front, rest⟩, hsome, rfl⟩
    obtain ⟨rfl, hne, hfront, hrest⟩ := Text.some?_eq_some_iff.1 hsome
    cases rest with
    | nil => exact ⟨List.append_nil front, hne, by simpa using hs⟩
    | cons c rest =>
      have hc : c = '\n' := by simpa using hrest c rfl
      simp [hc] at hs
  · rintro ⟨rfl, hname⟩
    have hall := Text.forall_bne_of_notMem hs
    exact ⟨(s, []),
      Text.some?_eq_some_iff.2 ⟨(List.append_nil s).symm, hname.ne_nil, hall, by simp⟩, rfl⟩

lemma IsName.ssid?_eq (h : IsName name) : ssid? name = some name :=
  (ssid?_eq_some_iff h.lineFeed_notMem).2 ⟨rfl, h⟩

/-- The groups are taken off as far as what follows does not go on with them. -/
lemma hexGroups_flatMap (hgroups : ∀ group ∈ groups, IsLowerHex group)
    (hrest : ∀ c ∈ rest.head?, c ≠ ':' ∧ Text.isLowerHex c = false) :
    hexGroups (groups.flatMap (':' :: ·) ++ rest) = (groups, rest) := by
  induction groups with
  | nil =>
    cases rest with
    | nil => simp [hexGroups]
    | cons c rest => simp [hexGroups, (hrest c rfl).1]
  | cons group groups ih =>
    rw [List.forall_mem_cons] at hgroups
    -- Behind the digits of a group the colon of the next one stands, or what follows.
    have hnext : ∀ c ∈ (groups.flatMap (':' :: ·) ++ rest).head?, Text.isLowerHex c = false := by
      cases groups with
      | nil => exact fun c hc => (hrest c hc).2
      | cons group groups => simp [show Text.isLowerHex ':' = false by decide]
    have htake := Text.takeWhile_append_of_head? hgroups.1.isLowerHex hnext
    rw [List.flatMap_cons, List.cons_append, List.cons_append, List.append_assoc, hexGroups, htake,
      List.drop_left, ih hgroups.2]
    simp [hgroups.1.ne_nil]

lemma eq_of_hexGroups (h : hexGroups s = (groups, rest)) :
    s = groups.flatMap (':' :: ·) ++ rest ∧ ∀ group ∈ groups, IsLowerHex group := by
  fun_induction hexGroups s generalizing groups rest with
  | case1 =>
    cases h
    simp
  | case2 c s group hgroup groups' rest' hrec =>
    rename_i ih
    cases h
    obtain ⟨hs, hgroups⟩ := ih hrec
    obtain ⟨rfl, hne⟩ := hgroup
    have hparts : _ ++ s.drop _ = s :=
      List.prefix_iff_eq_append.1 (List.takeWhile_prefix Text.isLowerHex)
    refine ⟨?_, List.forall_mem_cons.2 ⟨⟨hne, List.all_eq_true.1 List.all_takeWhile⟩, hgroups⟩⟩
    rw [List.flatMap_cons, List.cons_append, List.cons_append, List.append_assoc, ← hs, hparts]
  | case3 =>
    cases h
    simp

/-! ### GSM authentication -/

lemma IsGsm.gsm?_eq {text : List Char} (h : IsGsm text digits rands name) :
    gsm? text = some (gsmRequest digits rands name) := by
  obtain ⟨rfl, hdigits, hne, hhex, hname⟩ := h
  have hcolon (t : List Char) : ∀ c ∈ (":GSM-AUTH".toList ++ t).head?, Char.isDigit c = false :=
    Text.forall_head?_append (by decide) (by decide) t
  have hspace (t : List Char) : ∀ c ∈ (" needed for SSID ".toList ++ t).head?,
      c ≠ ':' ∧ Text.isLowerHex c = false :=
    Text.forall_head?_append (by decide) (by decide) t
  simp only [gsm?, gsmText, Text.isPrefixOf?_append,
    Text.takeWhile_append_of_head? hdigits (hcolon _),
    Text.dropWhile_append_of_head? hdigits (hcolon _), hexGroups_flatMap hhex (hspace _), hne,
    hname.ssid?_eq, networkId_of_isDigit hdigits,
    Option.bind_eq_bind, Option.bind_some]
  rfl

lemma exists_isGsm_of_gsm? (hs : '\n' ∉ s) (h : gsm? s = some request) :
    ∃ digits rands name, IsGsm s digits rands name := by
  simp only [gsm?, Option.bind_eq_bind, Option.bind_eq_some_iff] at h
  obtain ⟨behind, hmark, tail, hkind, h⟩ := h
  split at h
  · cases h
  next hne =>
  obtain ⟨last, hneeded, name, hssid, -⟩ := by simpa only [Option.bind_eq_some_iff] using h
  obtain ⟨htail, hgroups⟩ := eq_of_hexGroups (Prod.eta (hexGroups tail)).symm
  have hparts : behind.takeWhile Char.isDigit ++ behind.dropWhile Char.isDigit = behind :=
    List.takeWhile_append_dropWhile
  rw [List.isPrefixOf?_eq_some_iff_append_eq] at hmark hkind hneeded
  have htext : s = gsmText (behind.takeWhile Char.isDigit) (hexGroups tail).1 last := by
    rw [gsmText, hneeded, ← htail, hkind, hparts, hmark]
  have hlast : '\n' ∉ last := by
    intro hmem
    apply hs
    rw [htext]
    simp [gsmText, hmem]
  obtain ⟨rfl, hname⟩ := (ssid?_eq_some_iff hlast).1 hssid
  exact ⟨_, _, _, htext, List.all_eq_true.1 List.all_takeWhile, hne, hgroups, hname⟩

lemma FirstGsm.search_eq (hs : '\n' ∉ s) (h : FirstGsm s digits rands name) :
    Text.search gsm? s = some (gsmRequest digits rands name) := by
  obtain ⟨text, htext, hgsm, hfirst⟩ := h
  refine Text.search_eq_some_iff.2 ⟨text, htext, hgsm.gsm?_eq, ?_⟩
  intro u hu hne
  obtain ⟨request, hrequest⟩ := Option.ne_none_iff_exists'.1 hne
  obtain ⟨digits', rands', name', hgsm'⟩ :=
    exists_isGsm_of_gsm? (fun hmem => hs (hu.subset hmem)) hrequest
  exact hfirst u digits' rands' name' hu hgsm'

lemma exists_firstGsm_iff (hs : '\n' ∉ s) :
    (∃ digits rands name, FirstGsm s digits rands name) ↔ Text.search gsm? s ≠ none := by
  constructor
  · rintro ⟨digits, rands, name, hfirst⟩
    rw [hfirst.search_eq hs]
    exact Option.some_ne_none _
  · intro h
    obtain ⟨request, hrequest⟩ := Option.ne_none_iff_exists'.1 h
    obtain ⟨text, htext, hsome, hfirst⟩ := Text.search_eq_some_iff.1 hrequest
    obtain ⟨digits, rands, name, hgsm⟩ :=
      exists_isGsm_of_gsm? (fun hmem => hs (htext.subset hmem)) hsome
    refine ⟨digits, rands, name, text, htext, hgsm, ?_⟩
    intro text' digits' rands' name' htext' hgsm'
    exact hfirst text' htext' (by simp [hgsm'.gsm?_eq])

/-- A request for GSM authentication is longer than the name of any network may be. -/
lemma IsGsm.lt_length (h : IsGsm s digits rands name) : 32 < s.length := by
  obtain ⟨rfl, -, hne, hhex, hname⟩ := h
  obtain ⟨rand, rands, rfl⟩ := List.exists_cons_of_ne_nil hne
  have hrand := List.length_pos_of_ne_nil (hhex rand List.mem_cons_self).ne_nil
  have hlast := List.length_pos_of_ne_nil hname.ne_nil
  have hsim : "SIM-".toList.length = 4 := rfl
  have hkind : ":GSM-AUTH".toList.length = 9 := rfl
  have hneeded : " needed for SSID ".toList.length = 17 := rfl
  -- The fixed parts have 30 characters, and there is a colon, a digit and a character of the name.
  simp only [gsmText, List.flatMap_cons, List.length_append, List.length_cons, hsim, hkind, hneeded]
  omega

lemma FirstGsm.lt_length (h : FirstGsm s digits rands name) : 32 < s.length := by
  obtain ⟨text, htext, hgsm, -⟩ := h
  exact hgsm.lt_length.trans_le htext.length_le

/-! ### UMTS authentication -/

lemma gsm?_eq_none (h : ¬"SIM-".toList <+: s) : gsm? s = none := by
  rw [gsm?, Text.isPrefixOf?_eq_none_iff.2 h]
  rfl

lemma gsm?_umtsText (hdigits : ∀ c ∈ digits, Char.isDigit c = true) (rand autn name : List Char) :
    gsm? (umtsText digits rand autn name) = none := by
  have hcolon (t : List Char) : ∀ c ∈ (":UMTS-AUTH:".toList ++ t).head?, Char.isDigit c = false :=
    Text.forall_head?_append (by decide) (by decide) t
  have hkind (t : List Char) :
      List.isPrefixOf? ":GSM-AUTH".toList (":UMTS-AUTH:".toList ++ t) = none :=
    rfl
  simp only [gsm?, umtsText, Text.isPrefixOf?_append,
    Text.dropWhile_append_of_head? hdigits (hcolon _), hkind, Option.bind_eq_bind,
    Option.bind_some, Option.bind_none]

lemma umts?_umtsText (hdigits : ∀ c ∈ digits, Char.isDigit c = true) (hrand : IsLowerHex rand)
    (hautn : IsLowerHex autn) (hname : IsName name) :
    umts? (umtsText digits rand autn name) = some (umtsRequest digits rand autn name) := by
  have hcolon (t : List Char) : ∀ c ∈ (":UMTS-AUTH:".toList ++ t).head?, Char.isDigit c = false :=
    Text.forall_head?_append (by decide) (by decide) t
  have hneeded (t : List Char) : ∀ c ∈ (" needed for SSID ".toList ++ t).head?,
      Text.isLowerHex c = false :=
    Text.forall_head?_append (by decide) (by decide) t
  have hnext (t : List Char) : ∀ c ∈ (':' :: t).head?, Text.isLowerHex c = false := by
    rintro _ ⟨⟩
    decide
  have hafter (t : List Char) : List.isPrefixOf? [':'] (':' :: t) = some t :=
    Text.isPrefixOf?_append [':'] t
  simp only [umts?, umtsText, Text.isPrefixOf?_append,
    Text.takeWhile_append_of_head? hdigits (hcolon _),
    Text.dropWhile_append_of_head? hdigits (hcolon _), List.cons_append,
    hrand.some?_append (hnext _), hafter, hautn.some?_append (hneeded _), hname.ssid?_eq,
    networkId_of_isDigit hdigits, Option.bind_eq_bind, Option.bind_some]
  rfl

lemma search_gsm?_umtsText (hdigits : ∀ c ∈ digits, Char.isDigit c = true)
    (hrand : IsLowerHex rand) (hautn : IsLowerHex autn) (name : List Char) :
    Text.search gsm? (umtsText digits rand autn name) = Text.search gsm? name := by
  have hnone (t : List Char) (ht : ¬('S' :: "IM-".toList <+: t)) : gsm? t = none := gsm?_eq_none ht
  have hdigit : 'S' ∉ digits := Text.notMem_of_forall hdigits (by decide)
  have hrand' : 'S' ∉ rand := Text.notMem_of_forall hrand.isLowerHex (by decide)
  have hautn' : 'S' ∉ ':' :: autn := by
    rw [List.mem_cons, not_or]
    exact ⟨by decide, Text.notMem_of_forall hautn.isLowerHex (by decide)⟩
  have hstart : umtsText digits rand autn name = 'S' :: ("IM-".toList ++ (digits
      ++ (":UMTS-AUTH:".toList ++ (rand ++ (':' :: autn ++ (" needed for SSID ".toList
      ++ name)))))) :=
    rfl
  have hfirst := gsm?_umtsText hdigits rand autn name
  rw [hstart] at hfirst ⊢
  -- No request for GSM authentication begins where the text does, and none in its parts in front of
  -- the name.
  rw [Text.search, hfirst, Option.none_or,
    Text.search_append (Text.scan_append_of_notMem hnone (by decide) _),
    Text.search_append (Text.scan_append_of_notMem hnone hdigit _),
    Text.search_append (Text.scan_append_of_tails hnone (by decide) _),
    Text.search_append (Text.scan_append_of_notMem hnone hrand' _),
    Text.search_append (Text.scan_append_of_notMem hnone hautn' _),
    Text.search_append (Text.scan_append_of_tails hnone (by decide) _)]

/-! ### Requests -/

lemma identity?_identityText (hdigits : IsNumeral digits) (hname : IsName name) :
    identity? (identityText digits name) = some (decimalOr (-1) digits, name) := by
  have hcolon (t : List Char) : ∀ c ∈ (":Identity needed for SSID ".toList ++ t).head?,
      Char.isDigit c = false :=
    Text.forall_head?_append (by decide) (by decide) t
  have hrun (t : List Char) : Text.some? Char.isDigit
      (digits ++ (":Identity needed for SSID ".toList ++ t))
        = some (digits, ":Identity needed for SSID ".toList ++ t) :=
    hdigits.some?_append (hcolon t)
  unfold identity? identityText
  simp only [Text.isPrefixOf?_append, hrun, hname.ssid?_eq,
    networkId_of_isDigit hdigits.isDigit, Option.bind_eq_bind, Option.bind_some]
  rfl

lemma eventOfLine?_identityText (digits name : List Char) :
    eventOfLine? (mark ++ identityText digits name)
      = match Text.search identity? (identityText digits name) with
        | some (id, ssid) => some (.requestIdentity id (some (String.ofList ssid)))
        | none => some (.requestIdentity (-2) none) := by
  have hkind : "IDENTITY".toList.isPrefixOf (identityText digits name) = true := rfl
  rw [eventOfLine?, Text.isPrefixOf?_append]
  simp only [Option.bind_eq_bind, Option.bind_some, hkind, if_true]
  rfl

lemma eventOfLine?_ofSim {text : List Char} (h : "SIM".toList <+: text) :
    eventOfLine? (mark ++ text)
      = ((Text.search gsm? text).or (Text.search umts? text)).map .requestSimAuth := by
  obtain ⟨rest, rfl⟩ := h
  have hidentity : "IDENTITY".toList.isPrefixOf ("SIM".toList ++ rest) = false := rfl
  have hsim : "SIM".toList.isPrefixOf ("SIM".toList ++ rest) = true := rfl
  rw [eventOfLine?, Text.isPrefixOf?_append]
  simp only [Option.bind_eq_bind, Option.bind_some, hidentity, hsim, if_true, Bool.false_eq_true,
    if_false]
  rw [Option.map_eq_bind]
  rfl

lemma eventOfLine?_sim {text : List Char} (h : "SIM-".toList <+: text) :
    eventOfLine? (mark ++ text)
      = ((Text.search gsm? text).or (Text.search umts? text)).map .requestSimAuth := by
  have hsim : "SIM".toList <+: "SIM-".toList := by decide
  exact eventOfLine?_ofSim (hsim.trans h)

lemma eventOfLine?_umtsText (hdigits : ∀ c ∈ digits, Char.isDigit c = true)
    (hrand : IsLowerHex rand) (hautn : IsLowerHex autn) (hname : IsName name) :
    eventOfLine? (mark ++ umtsText digits rand autn name)
      = some (.requestSimAuth
          ((Text.search gsm? name).getD (umtsRequest digits rand autn name))) := by
  have hsim : "SIM-".toList <+: umtsText digits rand autn name := List.prefix_append _ _
  have humts := Text.search_of_eq_some (umts?_umtsText hdigits hrand hautn hname)
  rw [eventOfLine?_sim hsim, search_gsm?_umtsText hdigits hrand hautn, humts]
  cases Text.search gsm? name <;> rfl

/-- Requests for an identity and for GSM authentication are read as they were written, whatever the
name of their network. So are those for UMTS authentication, unless a request for GSM authentication
ends the name of their network: then the first of these is read. That takes a name of more than 32
characters. An identifier that is not there or has no place in 32 bits is read as -1. -/
theorem eventOfLine?_requests (hdigits : ∀ c ∈ digits, Char.isDigit c = true)
    (hname : IsName name) :
    (digits ≠ [] → eventOfLine? (mark ++ identityText digits name)
      = some (.requestIdentity (decimalOr (-1) digits) (some (String.ofList name))))
    ∧ (∀ rands, rands ≠ [] → (∀ rand ∈ rands, IsLowerHex rand) →
        eventOfLine? (mark ++ gsmText digits rands name)
          = some (.requestSimAuth (gsmRequest digits rands name)))
    ∧ ∀ rand autn, IsLowerHex rand → IsLowerHex autn →
        (eventOfLine? (mark ++ umtsText digits rand autn name)
            = some (.requestSimAuth (umtsRequest digits rand autn name))
          ↔ ∀ digits' rands' name', ¬FirstGsm name digits' rands' name')
        ∧ ∀ digits' rands' name', FirstGsm name digits' rands' name' →
            32 < name.length ∧ eventOfLine? (mark ++ umtsText digits rand autn name)
              = some (.requestSimAuth (gsmRequest digits' rands' name')) := by
  refine ⟨?identity, ?gsm, ?umts⟩
  case identity =>
    intro hne
    have hidentity := identity?_identityText ⟨hne, hdigits⟩ hname
    rw [eventOfLine?_identityText, Text.search_of_eq_some hidentity]
  case gsm =>
    intro rands hne hhex
    have hgsm : IsGsm (gsmText digits rands name) digits rands name :=
      ⟨rfl, hdigits, hne, hhex, hname⟩
    have hsim : "SIM-".toList <+: gsmText digits rands name := List.prefix_append _ _
    rw [eventOfLine?_sim hsim, Text.search_of_eq_some hgsm.gsm?_eq]
    rfl
  case umts =>
    intro rand autn hrand hautn
    rw [eventOfLine?_umtsText hdigits hrand hautn hname]
    refine ⟨⟨?_, ?_⟩, ?_⟩
    · intro h digits' rands' name' hfirst
      simp [hfirst.search_eq hname.lineFeed_notMem, gsmRequest, umtsRequest] at h
    · intro h
      have hnone : Text.search gsm? name = none := by
        by_contra hne
        obtain ⟨digits', rands', name', hfirst⟩ := (exists_firstGsm_iff hname.lineFeed_notMem).2 hne
        exact h digits' rands' name' hfirst
      rw [hnone]
      rfl
    · intro digits' rands' name' hfirst
      refine ⟨hfirst.lt_length, ?_⟩
      rw [hfirst.search_eq hname.lineFeed_notMem]
      rfl

/-- A name that is laid out as a request of its own: asking for the identity or over GSM it is shown
as it is, and a request over UMTS, which shows a name such as `op`, is taken for the one that the
name spells. -/
theorem eventOfLine?_requests_longName :
    ∃ name : List Char, name = "SIM-2:GSM-AUTH:00 needed for SSID x".toList
      ∧ eventOfLine? (mark ++ identityText "1".toList name)
        = some (.requestIdentity 1 (some "SIM-2:GSM-AUTH:00 needed for SSID x"))
      ∧ eventOfLine? (mark ++ gsmText "1".toList ["aa".toList, "bb".toList] name)
        = some (.requestSimAuth ⟨1, .sim, "SIM-2:GSM-AUTH:00 needed for SSID x", ["aa", "bb"]⟩)
      ∧ eventOfLine? (mark ++ umtsText "1".toList "aabb".toList "ccdd".toList name)
        = some (.requestSimAuth ⟨2, .sim, "x", ["00"]⟩)
      ∧ eventOfLine? (mark ++ umtsText [] "aabb".toList "ccdd".toList "op".toList)
        = some (.requestSimAuth ⟨-1, .aka, "op", ["aabb", "ccdd"]⟩) := by
  have hname : IsName "SIM-2:GSM-AUTH:00 needed for SSID x".toList := ⟨by decide, by decide⟩
  have hfirst : FirstGsm "SIM-2:GSM-AUTH:00 needed for SSID x".toList "2".toList ["00".toList]
      "x".toList :=
    ⟨_, List.suffix_rfl, ⟨by decide, by decide, by decide, by decide, by decide, by decide⟩,
      fun _ _ _ _ hsuffix _ => hsuffix.length_le⟩
  have hnone (digits rands name) : ¬FirstGsm "op".toList digits rands name :=
    fun h => absurd h.lt_length (by decide)
  have hdigits : ∀ c ∈ "1".toList, Char.isDigit c = true := by
    decide
  obtain ⟨hidentity, hgsm, humts⟩ := eventOfLine?_requests hdigits hname
  have hop : IsName "op".toList := ⟨by decide, by decide⟩
  obtain ⟨-, -, haka⟩ := eventOfLine?_requests (List.forall_mem_nil _) hop
  exact ⟨_, rfl, hidentity (by decide), hgsm _ (by decide) (by decide),
    ((humts _ _ (by decide) (by decide)).2 _ _ _ hfirst).2,
    (haka "aabb".toList "ccdd".toList (by decide) (by decide)).1.2 hnone⟩

/-- The name of the network is read, and not the request for UMTS authentication. -/
theorem eventOfLine?_umtsText_astray :
    ∃ name : List Char, name = "SIM-2:GSM-AUTH:00 needed for SSID x".toList
      ∧ eventOfLine? (mark ++ umtsText "1".toList "aabb".toList "ccdd".toList name)
        = some (.requestSimAuth ⟨2, .sim, "x", ["00"]⟩)
      ∧ eventOfLine? (mark ++ umtsText "1".toList "aabb".toList "ccdd".toList name)
        ≠ some (.requestSimAuth ⟨1, .aka, String.ofList name, ["aabb", "ccdd"]⟩) :=
  ⟨_, rfl, by decide +kernel, by decide +kernel⟩

end SupplicantWatch.Credential
