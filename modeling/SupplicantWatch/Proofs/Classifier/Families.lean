import Mathlib.Data.List.Nodup
import Mathlib.Tactic.Common
import SupplicantWatch.Classifier

/-!
# Families of lines

The rules of the families are told apart by how a line begins, so a line fits one of them at most
and the order in which they are tried does not matter. Main statements: `Family.of?_eq_some_iff`,
and `Classifier.familyVerdict_eq_pure`, which families ask nothing and yield no event of
Hotspot 2.0.
-/

namespace SupplicantWatch

variable {text : List Char}

/-! ### Rules -/

namespace Family

private lemma nodup_families : (table.map (·.2)).Nodup := by
  decide

private lemma eq_of_starts :
    ∀ a ∈ table, ∀ b ∈ table, a.1.start.toList <+: b.1.start.toList → a.2 = b.2 := by
  decide

/-- No text looks like two families, so the order in which they are tried does not matter. -/
theorem of?_eq_some_iff {row : Rule × Family} (h : row ∈ table) :
    of? text = some row.2 ↔ row.1.fits text = true := by
  constructor
  · intro hof
    obtain ⟨row', hfind, hfamily⟩ := Option.map_eq_some_iff.1 hof
    obtain rfl :=
      List.inj_on_of_nodup_map nodup_families (List.mem_of_find?_eq_some hfind) h hfamily
    have hfits := List.find?_some hfind
    exact hfits
  · intro hfits
    cases hfind : table.find? fun row => row.1.fits text with
    | none => exact absurd hfits (List.find?_eq_none.1 hfind row h)
    | some row' =>
      have hmem := List.mem_of_find?_eq_some hfind
      have hfits' := List.find?_some hfind
      rw [Rule.fits, Bool.and_eq_true, List.isPrefixOf_iff_prefix] at hfits hfits'
      rw [of?, hfind, Option.map_some, Option.some.injEq]
      rcases List.prefix_or_prefix_of_prefix hfits.1 hfits'.1 with hpre | hpre
      · exact (eq_of_starts row h row' hmem hpre).symm
      · exact eq_of_starts row' hmem row h hpre

/-- A rule without an ending is about the start of a text alone. -/
lemma of?_eq_iff_prefix {start : String} {family : Family} (h : (⟨start, ""⟩, family) ∈ table) :
    of? text = some family ↔ start.toList <+: text := by
  rw [of?_eq_some_iff h, Rule.fits, Bool.and_eq_true, List.isPrefixOf_iff_prefix,
    List.isSuffixOf_iff_suffix]
  exact and_iff_left List.nil_suffix

end Family

/-! ### Events -/

/-- Whether an event is one of Hotspot 2.0. -/
def Event.isHotspot : Event → Bool
  | anqpDone _ | iconDone _ | management _ => true
  | _ => false

variable {event : Event}

lemma Control.isHotspot_eq_false (h : verdict text = .event event) : event.isHotspot = false := by
  unfold verdict at h
  cases hk : kind? text with
  | none =>
    rw [hk] at h
    cases h
  | some kind =>
    rw [hk] at h
    unfold Kind.verdict at h
    cases kind with
    | connected =>
      unfold connectionEvent at h
      dsimp only at h
      split at h <;> cases h <;> rfl
    | disconnected =>
      unfold disconnectionEvent at h
      dsimp only at h
      split at h <;> cases h <;> rfl
    | assocReject =>
      unfold rejectionEvent at h
      dsimp only at h
      split at h <;> cases h <;> rfl
    | tempDisabled | reenabled =>
      unfold disabledEvent at h
      dsimp only at h
      split at h <;> cases h <;> rfl
    | stateChange | driverState | terminating | eapFailure =>
      dsimp only at h
      split at h <;> cases h <;> rfl
    | scanResults | scanFailed =>
      cases h
      rfl
    | _ => cases h

lemma Peer.isHotspot_eq_false (h : eventOfLine? text = some event) : event.isHotspot = false := by
  have hprovisioning : ∀ event, (Provisioning.ofLine? text).map (·.event) = some event →
      event.isHotspot = false := by
    intro event hevent
    obtain ⟨notice, -, rfl⟩ := Option.map_eq_some_iff.1 hevent
    rw [Provisioning.event]
    split <;> rfl
  have hall : ∀ row ∈ notices, ∀ event, row.2 text = some event → event.isHotspot = false := by
    simp [notices, Event.isHotspot]
    exact hprovisioning
  obtain ⟨row, hrow, hevent⟩ := Option.bind_eq_some_iff.1 h
  exact hall row (List.mem_of_find?_eq_some hrow) event hevent

lemma Credential.isHotspot_eq_false (h : eventOfLine? text = some event) :
    event.isHotspot = false := by
  obtain ⟨request, -, h⟩ := Option.bind_eq_some_iff.1 h
  split_ifs at h
  · split at h <;> cases h <;> rfl
  · obtain ⟨sim, -, h⟩ := Option.bind_eq_some_iff.1 h
    cases h
    rfl

lemma Classifier.isHotspot_eq_false (h : stationEvent? text = some event) :
    event.isHotspot = false := by
  simp only [stationEvent?] at h
  split_ifs at h
  all_goals
    obtain ⟨device, -, rfl⟩ := Option.map_eq_some_iff.1 h
    rfl

/-- Apart from the families of Hotspot 2.0, a text comes to what it does without any question, and
to none of their events. -/
theorem Classifier.familyVerdict_eq_pure {family : Family}
    (hf : family ∉ [.anqp, .icon, .remediation, .deauth]) (chunkSize : Nat) (bssid : MacAddress)
    (text : List Char) :
    ∃ verdict, familyVerdict chunkSize bssid text family = pure verdict
      ∧ ∀ event, verdict = .event event → event.isHotspot = false := by
  have hof {e? : Option Event} (h : ∀ event, e? = some event → event.isHotspot = false)
      (event : Event) (heq : Verdict.ofEvent? e? = .event event) : event.isHotspot = false := by
    cases e? with
    | none => cases heq
    | some e =>
      cases heq
      exact h _ rfl
  -- The four families that are left out ask questions or report notices.
  cases family with
  | anqp | icon | remediation | deauth => exact absurd (by decide) hf
  | control => exact ⟨_, rfl, fun _ => Control.isHotspot_eq_false⟩
  | peer => exact ⟨_, rfl, hof fun _ => Peer.isHotspot_eq_false⟩
  | accessPoint => exact ⟨_, rfl, hof fun _ => isHotspot_eq_false⟩
  | credential => exact ⟨_, rfl, hof fun _ => Credential.isHotspot_eq_false⟩
  | _ =>
    refine ⟨_, rfl, ?_⟩
    rintro event ⟨⟩
    rfl

end SupplicantWatch
