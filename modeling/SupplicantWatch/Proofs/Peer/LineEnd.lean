import Mathlib.Data.List.Find
import Mathlib.Tactic.Common
import SupplicantWatch.Peer.Notice
import SupplicantWatch.Proofs.Fields.LineEnd

/-!
# White space behind a peer-to-peer notice

The words of a line do not see the white space behind it. A field that ends the line goes on in it,
and so does a status, unless a space comes first. Main statement: `eventOfLine?_append_blanks_iff`.
-/

namespace SupplicantWatch.Peer

open Text (IsBlank Sticks)
open Fields (EndsIn)

variable {t b : List Char}

lemma or_eq_or_iff {α : Type} {x x' y y' : Option α} (h : x' = none ↔ x = none) :
    x'.or y' = x.or y ↔ x' = x ∧ (x = none → y' = y) := by
  cases x <;> cases x' <;> simp_all

/-! ### Devices -/

namespace Device

/-- The descriptor in a line shows the field with a key. -/
def Shows (t : List Char) (key : String) : Prop :=
  key ∈ ["p2p_dev_addr", "pri_dev_type", "name"]
    ∨ key = "dev_addr" ∧ (Fields.ofLine t).get? "p2p_dev_addr" = none
    ∨ key ∈ ["config_methods", "dev_capab", "group_capab"] ∧ (Fields.ofLine t).hexWord key ≠ 0

/-- A field that the descriptor shows ends the line. -/
def Minds (t : List Char) : Prop :=
  Device.ofLine? t ≠ none ∧ ∃ key, EndsIn key t ∧ Shows t key

/-- The address of the device in a line. -/
def addressOf? (t : List Char) : Option String :=
  (((Fields.ofLine t).get? "p2p_dev_addr").or ((Fields.ofLine t).get? "dev_addr")).or
    (firstAddress? t)

lemma ofLine?_eq (t : List Char) :
    Device.ofLine? t = (addressOf? t).map fun address =>
      ⟨address, (Fields.ofLine t).get? "pri_dev_type", (Fields.ofLine t).get? "name",
        (Fields.ofLine t).hexWord "config_methods", (Fields.ofLine t).hexWord "dev_capab",
        (Fields.ofLine t).hexWord "group_capab"⟩ := by
  change (addressOf? t).bind _ = _
  cases addressOf? t <;> rfl

lemma addressOf?_append_blanks_iff (hb : IsBlank b) (t : List Char) :
    (addressOf? (t ++ b) = none ↔ addressOf? t = none)
      ∧ (addressOf? (t ++ b) = addressOf? t ↔ ¬(Sticks b ∧ EndsIn "p2p_dev_addr" t)
        ∧ ((Fields.ofLine t).get? "p2p_dev_addr" = none → ¬(Sticks b ∧ EndsIn "dev_addr" t))) := by
  have hnone := Fields.get?_append_blanks_eq_none_iff hb t
  have hwords : firstAddress? (t ++ b) = firstAddress? t := by
    rw [firstAddress?, Text.words_append_blanks hb, firstAddress?]
  have hor : ((Fields.ofLine (t ++ b)).get? "p2p_dev_addr").or
        ((Fields.ofLine (t ++ b)).get? "dev_addr") = none
      ↔ ((Fields.ofLine t).get? "p2p_dev_addr").or ((Fields.ofLine t).get? "dev_addr") = none := by
    rw [Option.or_eq_none_iff, Option.or_eq_none_iff, hnone, hnone]
  constructor
  · rw [addressOf?, addressOf?, Option.or_eq_none_iff, hor, hwords, ← Option.or_eq_none_iff]
  · rw [addressOf?, addressOf?, or_eq_or_iff hor, hwords, or_eq_or_iff (hnone "p2p_dev_addr"),
      Fields.get?_append_blanks_iff hb, Fields.get?_append_blanks_iff hb]
    simp only [implies_true, and_true]

theorem ofLine?_append_blanks_iff (hb : IsBlank b) (t : List Char) :
    Device.ofLine? (t ++ b) = Device.ofLine? t ↔ ¬(Sticks b ∧ Minds t) := by
  obtain ⟨hnone, haddress⟩ := addressOf?_append_blanks_iff hb t
  have hget := Fields.get?_append_blanks_iff hb t
  have hhex := Fields.hexWord_append_blanks_iff hb t
  rw [Minds, ofLine?_eq, ofLine?_eq]
  cases ht : addressOf? t with
  | none =>
    rw [hnone.2 ht]
    exact iff_of_true rfl fun h => h.2.1 rfl
  | some address =>
    cases htb : addressOf? (t ++ b) with
    | none =>
      rw [hnone.1 htb] at ht
      cases ht
    | some address' =>
      rw [ht, htb, Option.some_inj] at haddress
      -- Both lines show an address, so the descriptors agree just if all of their fields do.
      simp only [Option.map_some, Option.some_inj, Device.mk.injEq, haddress, hget, hhex]
      constructor
      · rintro ⟨⟨hp, hd⟩, hpri, hname, hconfig, hdevice, hgroup⟩ ⟨hs, -, key, hend, hshows⟩
        rcases hshows with hmem | ⟨rfl, hpnone⟩ | ⟨hmem, hne⟩
        · simp only [List.mem_cons, List.not_mem_nil, or_false] at hmem
          rcases hmem with rfl | rfl | rfl
          · exact hp ⟨hs, hend⟩
          · exact hpri ⟨hs, hend⟩
          · exact hname ⟨hs, hend⟩
        · exact hd hpnone ⟨hs, hend⟩
        · simp only [List.mem_cons, List.not_mem_nil, or_false] at hmem
          rcases hmem with rfl | rfl | rfl
          · exact hconfig ⟨⟨hs, hend⟩, hne⟩
          · exact hdevice ⟨⟨hs, hend⟩, hne⟩
          · exact hgroup ⟨⟨hs, hend⟩, hne⟩
      · intro h
        have hnot {key : String} (hshows : Shows t key) : ¬(Sticks b ∧ EndsIn key t) :=
          fun hends => h ⟨hends.1, Option.some_ne_none _, key, hends.2, hshows⟩
        refine ⟨⟨hnot (.inl (by decide)), fun hp => hnot (.inr (.inl ⟨rfl, hp⟩))⟩,
          hnot (.inl (by decide)), hnot (.inl (by decide)), ?_, ?_, ?_⟩
        all_goals exact fun hends => hnot (.inr (.inr ⟨by decide, hends.2⟩)) hends.1

end Device

/-! ### Groups -/

namespace Group

/-- What is said of a group that starts or is removed shows the field with a key. -/
def ChangeShows (t : List Char) (key : String) : Prop :=
  key ∈ ["ssid", "psk", "passphrase", "go_dev_addr", "reason"]
    ∨ key = "freq" ∧ ((Fields.ofLine t).get? "freq").bind (fun val => Text.word? 10 32 val.toList)
      ≠ none

/-- What is said of an invitation to a group shows the field with a key. -/
def InvitationShows (t : List Char) (key : String) : Prop :=
  key ∈ ["go_dev_addr", "bssid"] ∨ key = "sa" ∧ (Fields.ofLine t).get? "go_dev_addr" = none
    ∨ key = "persistent"
      ∧ ((Fields.ofLine t).get? "persistent").bind (fun val => Text.int? 32 val.toList) ≠ none

/-- A field that the group shows ends the line. -/
def Minds (t : List Char) : Prop :=
  match Text.words t with
  | event :: _ :: _ :: _ =>
    if "P2P-GROUP".toList.isPrefixOf event then ∃ key, EndsIn key t ∧ ChangeShows t key
    else event = "P2P-INVITATION-RECEIVED".toList ∧ ∃ key, EndsIn key t ∧ InvitationShows t key
  | _ => False

lemma ofChange_append_blanks_iff (hb : IsBlank b) (t interface role : List Char) :
    ofChange (t ++ b) interface role = ofChange t interface role
      ↔ ¬(Sticks b ∧ ∃ key, EndsIn key t ∧ ChangeShows t key) := by
  have hget := Fields.get?_append_blanks_iff hb t
  have hfreq := Text.eq_iff_of_cases (Fields.bind_get?_append_blanks_cases
    (fun c s => Text.word?_eq_none_of_isBlank 10 32) hb t "freq")
  simp only [ofChange, Group.mk.injEq, Text.words_append_blanks hb, hget, hfreq, true_and]
  constructor
  · rintro ⟨hssid, hfreq, hpsk, hpassphrase, howner, hreason⟩ ⟨hs, key, hend, hmem | ⟨rfl, hne⟩⟩
    · simp only [List.mem_cons, List.not_mem_nil, or_false] at hmem
      rcases hmem with rfl | rfl | rfl | rfl | rfl
      · exact hssid ⟨hs, hend⟩
      · exact hpsk ⟨hs, hend⟩
      · exact hpassphrase ⟨hs, hend⟩
      · exact howner ⟨hs, hend⟩
      · exact hreason ⟨hs, hend⟩
    · exact hfreq ⟨⟨hs, hend⟩, hne⟩
  · intro h
    have hnot {key : String} (hshows : ChangeShows t key) : ¬(Sticks b ∧ EndsIn key t) :=
      fun hends => h ⟨hends.1, key, hends.2, hshows⟩
    exact ⟨hnot (.inl (by decide)), fun hends => hnot (.inr ⟨rfl, hends.2⟩) hends.1,
      hnot (.inl (by decide)), hnot (.inl (by decide)), hnot (.inl (by decide)),
      hnot (.inl (by decide))⟩

lemma ofInvitation_append_blanks_iff (hb : IsBlank b) (t : List Char) :
    ofInvitation (t ++ b) = ofInvitation t
      ↔ ¬(Sticks b ∧ ∃ key, EndsIn key t ∧ InvitationShows t key) := by
  have hget := Fields.get?_append_blanks_iff hb t
  have hnone := Fields.get?_append_blanks_eq_none_iff hb t
  have hid := Text.eq_iff_of_cases (Fields.bind_get?_append_blanks_cases
    (fun c s => Text.int?_eq_none_of_isBlank 32) hb t "persistent")
  -- The address of the owner is in one of two fields, of which the first counts.
  have howner : ((Fields.ofLine (t ++ b)).get? "go_dev_addr").or
          ((Fields.ofLine (t ++ b)).get? "sa")
        = ((Fields.ofLine t).get? "go_dev_addr").or ((Fields.ofLine t).get? "sa") ↔ _ :=
    or_eq_or_iff (hnone "go_dev_addr")
  rw [hget, hget] at howner
  simp only [ofInvitation, Group.mk.injEq, howner, hget, true_and, and_true]
  constructor
  · rintro ⟨⟨hgo, hsa⟩, -, hnetwork, hbssid⟩ ⟨hs, key, hend, hmem | ⟨rfl, hgonone⟩ | ⟨rfl, hne⟩⟩
    · simp only [List.mem_cons, List.not_mem_nil, or_false] at hmem
      rcases hmem with rfl | rfl
      · exact hgo ⟨hs, hend⟩
      · exact hbssid ⟨hs, hend⟩
    · exact hsa hgonone ⟨hs, hend⟩
    · exact hid.1 hnetwork ⟨⟨hs, hend⟩, hne⟩
  · intro h
    have hnot {key : String} (hshows : InvitationShows t key) : ¬(Sticks b ∧ EndsIn key t) :=
      fun hends => h ⟨hends.1, key, hends.2, hshows⟩
    have hnetwork := hid.2 fun hends => hnot (.inr (.inr ⟨rfl, hends.2⟩)) hends.1
    exact ⟨⟨hnot (.inl (by decide)), fun hgo => hnot (.inr (.inl ⟨rfl, hgo⟩))⟩, by rw [hnetwork],
      hnetwork, hnot (.inl (by decide))⟩

theorem ofLine?_append_blanks_iff (hb : IsBlank b) (t : List Char) :
    Group.ofLine? (t ++ b) = Group.ofLine? t ↔ ¬(Sticks b ∧ Minds t) := by
  rw [Group.ofLine?, Group.ofLine?, Text.words_append_blanks hb, Minds]
  match Text.words t with
  | event :: interface :: role :: rest =>
    dsimp only
    split_ifs with hgroup hinvitation
    · rw [Option.some_inj, ofChange_append_blanks_iff hb]
    · rw [Option.some_inj, ofInvitation_append_blanks_iff hb, and_iff_right hinvitation]
    · exact iff_of_true rfl fun h => hinvitation h.2.1
  | [] | [_] | [_, _] => exact iff_of_true rfl fun h => h.2

end Group

/-! ### Negotiations and outcomes -/

/-- The identifier that asks for a way of setting up other than the button ends the line. -/
def Negotiation.Minds (t : List Char) : Prop :=
  EndsIn "dev_passwd_id" t ∧ ∃ n, Negotiation.ofLine? t = some n ∧ n.setup ≠ .pushButton

/-- A password identifier with white space in it asks for the button. -/
lemma Setup.ofPasswordId_of_isBlank {c : Char} {s : List Char} (hc : Text.isBlank c = true)
    (h : c ∈ s) : Setup.ofPasswordId (some (String.ofList s)) = .pushButton := by
  have hne {w : String} (hw : ∀ c ∈ w.toList, Text.isBlank c = false) : String.ofList s ≠ w := by
    rintro rfl
    rw [String.toList_ofList] at hw
    rw [hw c h] at hc
    cases hc
  unfold Setup.ofPasswordId
  split
  · next heq => exact absurd (Option.some.inj heq) (hne (by decide))
  · next heq => exact absurd (Option.some.inj heq) (hne (by decide))
  · rfl

theorem Negotiation.ofLine?_append_blanks_iff (hb : IsBlank b) (t : List Char) :
    Negotiation.ofLine? (t ++ b) = Negotiation.ofLine? t ↔ ¬(Sticks b ∧ Negotiation.Minds t) := by
  have hsetup : Setup.ofPasswordId ((Fields.ofLine (t ++ b)).get? "dev_passwd_id")
        = Setup.ofPasswordId ((Fields.ofLine t).get? "dev_passwd_id")
      ↔ ¬((Sticks b ∧ EndsIn "dev_passwd_id" t)
        ∧ Setup.ofPasswordId ((Fields.ofLine t).get? "dev_passwd_id") ≠ .pushButton) := by
    apply Text.eq_iff_of_cases
    rcases Fields.get?_append_blanks_cases hb t "dev_passwd_id" with
      ⟨hsticks, hend, val, -, htb⟩ | ⟨hnot, heq⟩
    · obtain ⟨c, hmem, hc⟩ := hsticks.exists_mem_before hb
      rw [htb]
      have hbutton := Setup.ofPasswordId_of_isBlank hc (List.mem_append_right val hmem)
      exact .inl ⟨⟨hsticks, hend⟩, hbutton⟩
    · exact .inr ⟨hnot, by rw [heq]⟩
  have hof (u : List Char) : Negotiation.ofLine? u = (Text.words u)[1]?.bind fun address =>
      (MacAddress.ofChars? address).map fun _ =>
        ⟨String.ofList address, .ofPasswordId ((Fields.ofLine u).get? "dev_passwd_id")⟩ := by
    rw [Negotiation.ofLine?]
    refine Option.bind_congr fun address _ => ?_
    cases MacAddress.ofChars? address <;> rfl
  rw [Negotiation.Minds, hof, hof, Text.words_append_blanks hb]
  cases (Text.words t)[1]? with
  | none => exact iff_of_true rfl (by simp)
  | some address =>
    cases haddress : MacAddress.ofChars? address with
    | none => exact iff_of_true (by simp [haddress]) (by simp [haddress])
    | some m =>
      simp only [Option.bind_some, haddress, Option.map_some, Option.some_inj, Negotiation.mk.injEq,
        true_and, hsetup, exists_eq_left', and_assoc]

/-- The outcome that a line tells ends the line. -/
def Status.Minds (t : List Char) : Prop :=
  (t.splitOn ' ').length = 2 ∧ Status.ofLine t ≠ .unknown

/-- The outcome that a word tells. -/
def Status.ofWord (word : List Char) : Status :=
  match word.splitOn '=' with
  | [_, value] =>
    if value = "FREQ_CONFLICT".toList then .noCommonChannel
    else (Text.int? 32 value).elim .unknown .ofCode
  | _ => .unknown

lemma Status.ofLine_eq (line : List Char) :
    Status.ofLine line = (line.splitOn ' ')[1]?.elim .unknown Status.ofWord := by
  rw [Status.ofLine]
  cases (line.splitOn ' ')[1]? with
  | none => rfl
  | some word =>
    rw [Option.map_some, Option.elim_some, Status.ofWord]
    match word.splitOn '=' with
    | [_, _] => rfl
    | [] | [_] | _ :: _ :: _ :: _ => rfl

lemma Status.ofWord_append_blanks {word : List Char} {c : Char} (hb : IsBlank b) (hmem : c ∈ b) :
    Status.ofWord (word ++ b) = .unknown := by
  have hequal : '=' ∉ b := hb.notMem (by decide)
  have hc := hb c hmem
  obtain ⟨init, last, rest, hs, ht, hst⟩ := Text.exists_splitOn_append '=' word b
  rw [List.splitOn_eq_singleton hequal] at ht
  obtain ⟨hbefore, rfl⟩ := List.cons.inj ht
  rw [← hbefore] at hst
  have hvalue : last ++ b ≠ "FREQ_CONFLICT".toList := by
    intro heq
    have hall : ∀ c ∈ "FREQ_CONFLICT".toList, Text.isBlank c = false := by decide
    rw [hall c (heq ▸ List.mem_append_right last hmem)] at hc
    cases hc
  have hint : Text.int? 32 (last ++ b) = none :=
    Text.int?_eq_none_of_isBlank 32 hc (List.mem_append_right last hmem)
  rw [Status.ofWord, hst]
  match init with
  | [] => rfl
  | [name] =>
    change (if last ++ b = "FREQ_CONFLICT".toList then Status.noCommonChannel
      else (Text.int? 32 (last ++ b)).elim .unknown .ofCode) = .unknown
    rw [if_neg hvalue, hint]
    rfl
  | _ :: _ :: [] => rfl
  | _ :: _ :: _ :: _ => rfl

theorem Status.ofLine_append_blanks_iff (hb : IsBlank b) (t : List Char) :
    Status.ofLine (t ++ b) = Status.ofLine t ↔ ¬(Sticks b ∧ Status.Minds t) := by
  have hspace : ' ' ∉ Text.before ' ' b := (Text.before_eq_iff.1 rfl).1
  have hbefore : IsBlank (Text.before ' ' b) :=
    fun c hc => hb c ((List.takeWhile_prefix _).subset hc)
  rw [Status.Minds, ← and_assoc]
  apply Text.eq_iff_of_cases
  obtain ⟨init, last, rest, hs, ht, hst⟩ := Text.exists_splitOn_append ' ' t b
  rw [Status.ofLine_eq, Status.ofLine_eq, hs, hst]
  -- The white space goes on the last word, and the second word is the one that counts.
  match init with
  | [] =>
    refine .inr ⟨by simp, ?_⟩
    -- What is behind the first space is white space, and that tells no outcome.
    cases hrest : rest with
    | nil => rfl
    | cons piece rest' =>
      have hmem : piece ∈ b.splitOn ' ' := by
        rw [ht, hrest]
        simp
      have hword : Status.ofWord piece = .unknown := by
        have hequal : '=' ∉ piece := (Text.isBlank_of_mem_splitOn hb hmem).notMem (by decide)
        rw [Status.ofWord, List.splitOn_eq_singleton hequal]
      exact hword
  | [event] =>
    by_cases hsticks : Sticks b
    · obtain ⟨c, hmem, -⟩ := hsticks.exists_mem_before hb
      exact .inl ⟨⟨hsticks, rfl⟩, Status.ofWord_append_blanks hbefore hmem⟩
    · refine .inr ⟨fun h => hsticks h.1, ?_⟩
      rw [Sticks, ne_eq, not_not] at hsticks
      rw [hsticks, List.append_nil]
      rfl
  | event :: word :: init => exact .inr ⟨by simp, rfl⟩

/-! ### Notices -/

/-- What the notices show at the end of their lines. -/
def minding : List (String × (List Char → Prop)) :=
  [("P2P-DEVICE-FOUND", Device.Minds), ("P2P-DEVICE-LOST", Device.Minds),
   ("P2P-GO-NEG-REQUEST", Negotiation.Minds), ("P2P-GO-NEG-FAILURE", Status.Minds),
   ("P2P-GROUP-FORMATION-FAILURE", Status.Minds), ("P2P-GROUP-STARTED", Group.Minds),
   ("P2P-GROUP-REMOVED", Group.Minds), ("P2P-INVITATION-RECEIVED", Group.Minds),
   ("P2P-INVITATION-RESULT", Status.Minds)]

/-- A notice shows what its line ends in. -/
def Minds (t : List Char) : Prop :=
  ∃ row ∈ minding, row.1.toList <+: t ∧ row.2 t

/-- The notices of a name show what their lines end in. -/
def MindsAs (name : String) (t : List Char) : Prop :=
  ∃ row ∈ minding, row.1 = name ∧ row.2 t

/-- Whether a notice is read otherwise with white space behind its line. -/
lemma read_append_blanks_iff {notice : String × (List Char → Option Event)}
    (h : notice ∈ notices) (hb : IsBlank b) (t : List Char) :
    notice.2 (t ++ b) = notice.2 t ↔ ¬(Sticks b ∧ MindsAs notice.1 t) := by
  have hread {α : Type} {f : α → Event} (hf : Function.Injective f) {name : String} {p : Prop}
      {x y : Option α} (hxy : x = y ↔ ¬(Sticks b ∧ p)) (hname : MindsAs name t ↔ p) :
      x.map f = y.map f ↔ ¬(Sticks b ∧ MindsAs name t) := by
    rw [(Option.map_injective hf).eq_iff, hxy, hname]
  have hdevice := Device.ofLine?_append_blanks_iff hb t
  have hnegotiation := Negotiation.ofLine?_append_blanks_iff hb t
  have hgroup := Group.ofLine?_append_blanks_iff hb t
  have hstatus : some (Status.ofLine (t ++ b)) = some (Status.ofLine t)
      ↔ ¬(Sticks b ∧ Status.Minds t) := by
    rw [Option.some_inj, Status.ofLine_append_blanks_iff hb]
  have hsame {x y : Option Event} {name : String} (hxy : x = y)
      (hname : ∀ row ∈ minding, row.1 ≠ name) : x = y ↔ ¬(Sticks b ∧ MindsAs name t) :=
    iff_of_true hxy fun ⟨_, row, hmem, heq, _⟩ => hname row hmem heq
  have hprovisioning : Provisioning.ofLine? (t ++ b) = Provisioning.ofLine? t := by
    rw [Provisioning.ofLine?, Text.words_append_blanks hb, Provisioning.ofLine?]
  have hservice : ServiceAnswer.listOfLine? (t ++ b) = ServiceAnswer.listOfLine? t := by
    rw [ServiceAnswer.listOfLine?, Text.words_append_blanks hb, ServiceAnswer.listOfLine?]
  -- The rows of the table one by one: each either does not see the end of its line or has a
  -- condition of its own.
  simp only [notices, List.mem_cons, List.not_mem_nil, or_false] at h
  rcases h with rfl | rfl | rfl | rfl | rfl | rfl | rfl | rfl | rfl | rfl | rfl | rfl | rfl | rfl
    | rfl | rfl | rfl | rfl
  · exact hread (fun _ _ => Event.peerFound.inj) hdevice (by simp [MindsAs, minding])
  · exact hread (fun _ _ => Event.peerLost.inj) hdevice (by simp [MindsAs, minding])
  · exact hsame rfl (by simp [minding])
  · exact hread (fun _ _ => Event.negotiationRequest.inj) hnegotiation (by simp [MindsAs, minding])
  · exact hsame rfl (by simp [minding])
  · exact hread (fun _ _ => Event.negotiationFailure.inj) hstatus (by simp [MindsAs, minding])
  · exact hsame rfl (by simp [minding])
  · exact hread (fun _ _ => Event.groupFormationFailure.inj) hstatus (by simp [MindsAs, minding])
  · exact hread (fun _ _ => Event.groupStarted.inj) hgroup (by simp [MindsAs, minding])
  · exact hread (fun _ _ => Event.groupRemoved.inj) hgroup (by simp [MindsAs, minding])
  · exact hread (fun _ _ => Event.invitationReceived.inj) hgroup (by simp [MindsAs, minding])
  · exact hread (fun _ _ => Event.invitationResult.inj) hstatus (by simp [MindsAs, minding])
  · exact hsame (congrArg (Option.map Provisioning.event) hprovisioning) (by simp [minding])
  · exact hsame (congrArg (Option.map Provisioning.event) hprovisioning) (by simp [minding])
  · exact hsame (congrArg (Option.map Provisioning.event) hprovisioning) (by simp [minding])
  · exact hsame (congrArg (Option.map Provisioning.event) hprovisioning) (by simp [minding])
  · exact hsame rfl (by simp [minding])
  · exact hsame (congrArg (Option.map Event.serviceDiscoveryResponse) hservice) (by simp [minding])

/-- No notice's name begins another's. -/
lemma minds_iff_mindsAs {notice : String × (List Char → Option Event)} (h : notice ∈ notices)
    (hstart : notice.1.toList <+: t) : Minds t ↔ MindsAs notice.1 t := by
  have hnames : ∀ row ∈ minding, ∀ name ∈ notices.map (·.1),
      row.1.toList <+: name.toList ∨ name.toList <+: row.1.toList → row.1 = name := by
    decide +kernel
  refine exists_congr fun row => and_congr_right fun hrow => and_congr_left fun _ => ?_
  constructor
  · intro hp
    exact hnames row hrow _ (List.mem_map_of_mem h) (List.prefix_or_prefix_of_prefix hp hstart)
  · intro heq
    rwa [heq]

/-- A notice is read otherwise with white space behind it if that goes on the end of its line and
the notice shows what the line ends in. -/
theorem eventOfLine?_append_blanks_iff (hb : IsBlank b) (t : List Char) :
    eventOfLine? (t ++ b) = eventOfLine? t ↔ ¬(Sticks b ∧ Minds t) := by
  have hsolid : ∀ name ∈ notices.map (·.1), Text.IsSolid name.toList := by
    decide +kernel
  have hnames : ∀ row ∈ minding, row.1 ∈ notices.map (·.1) := by
    simp [minding, notices]
  have hstart : ∀ notice ∈ notices,
      notice.1.toList.isPrefixOf (t ++ b) = notice.1.toList.isPrefixOf t := by
    intro notice hnotice
    rw [Bool.eq_iff_iff, List.isPrefixOf_iff_prefix, List.isPrefixOf_iff_prefix,
      (hsolid _ (List.mem_map_of_mem hnotice)).isPrefix_append_iff hb]
  rw [eventOfLine?, eventOfLine?, List.find?_congr hstart]
  cases hfind : notices.find? fun notice => notice.1.toList.isPrefixOf t with
  | none =>
    refine iff_of_true rfl ?_
    rintro ⟨-, row, hrow, hp, -⟩
    obtain ⟨notice, hnotice, heq⟩ := List.mem_map.1 (hnames row hrow)
    have hnot := List.find?_eq_none.1 hfind notice hnotice
    rw [List.isPrefixOf_iff_prefix, heq] at hnot
    exact hnot hp
  | some notice =>
    have hnotice := List.mem_of_find?_eq_some hfind
    have hp := List.find?_some hfind
    rw [List.isPrefixOf_iff_prefix] at hp
    rw [Option.bind_some, Option.bind_some, read_append_blanks_iff hnotice hb,
      minds_iff_mindsAs hnotice hp]

end SupplicantWatch.Peer
