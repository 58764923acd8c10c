import Mathlib.Data.List.Nodup
import Mathlib.Tactic.Common
import SupplicantWatch.Program
import SupplicantWatch.Proofs.Json.Injective
import SupplicantWatch.Proofs.Text.Split

/-!
# Records and their events

A record tells the interface and the event that it is the record of: no two events have the same
code, and what events of one kind carry is written out in full. Whatever characters an event holds,
its record is one line. Main statement: `Event.record_lines`.
-/

namespace SupplicantWatch

/-! ### Parts of values -/

namespace Json

variable {α : Type}

lemma ofOption_injective {f : α → Json} (hf : Function.Injective f) (hnull : ∀ a, f a ≠ null) :
    Function.Injective (ofOption f) := by
  rintro (_ | a) (_ | b) h
  · rfl
  · exact absurd h.symm (hnull b)
  · exact absurd h (hnull a)
  · exact congrArg some (hf h)

@[simp] lemma optString_inj {a b : Option String} : optString a = optString b ↔ a = b :=
  (ofOption_injective (fun _ _ => Json.string.inj) nofun).eq_iff

@[simp] lemma nat_inj {m n : Nat} : nat m = nat n ↔ m = n := by
  rw [nat, nat, Json.int.injEq, Int.ofNat_inj]

@[simp] lemma optNat_inj {a b : Option Nat} : ofOption nat a = ofOption nat b ↔ a = b :=
  (ofOption_injective (fun _ _ => nat_inj.1) nofun).eq_iff

@[simp] lemma optInt_inj {a b : Option Int} : ofOption int a = ofOption int b ↔ a = b :=
  (ofOption_injective (fun _ _ => Json.int.inj) nofun).eq_iff

lemma bytes_injective : Function.Injective bytes :=
  fun _ _ h => List.map_injective_iff.2 (fun _ _ h => UInt8.toNat_inj.1 (nat_inj.1 h))
    (Json.array.inj h)

@[simp] lemma bytes_inj {a b : List UInt8} : bytes a = bytes b ↔ a = b :=
  bytes_injective.eq_iff

@[simp] lemma map_string_inj {a b : List String} : a.map string = b.map string ↔ a = b :=
  (List.map_injective_iff.2 fun _ _ => Json.string.inj).eq_iff

lemma table_injective :
    Function.Injective fun t : Table String =>
      object (t.toList.map fun e => (e.1, string e.2)) := by
  rintro ⟨entries, sorted⟩ ⟨entries', sorted'⟩ h
  have hentry : Function.Injective fun e : String × String => (e.1, string e.2) := by
    rintro ⟨key, value⟩ ⟨key', value'⟩ h
    cases h
    rfl
  obtain rfl : entries = entries' := List.map_injective_iff.2 hentry (Json.object.inj h)
  rfl

@[simp] lemma optTable_inj {a b : Option (Table String)} :
    ofOption (fun t => object (t.toList.map fun e => (e.1, string e.2))) a
        = ofOption (fun t => object (t.toList.map fun e => (e.1, string e.2))) b ↔ a = b :=
  (ofOption_injective table_injective nofun).eq_iff

@[simp] lemma optBytes_inj {a b : Option (List UInt8)} :
    ofOption bytes a = ofOption bytes b ↔ a = b :=
  (ofOption_injective bytes_injective nofun).eq_iff

end Json

/-- An address is written as no other is. -/
@[simp] lemma MacAddress.render_inj {a b : MacAddress} : a.render = b.render ↔ a = b := by
  refine ⟨?_, congrArg _⟩
  intro h
  rw [render, render, String.ofList_inj] at h
  have hread := congrArg ofChars? h
  rw [ofChars?_toChars, ofChars?_toChars] at hread
  exact Option.some.inj hread

/-! ### Names -/

lemma injective_of_nodup_map {α β : Type} {f : α → β} (all : List α) (hall : ∀ a, a ∈ all)
    (h : (all.map f).Nodup) : Function.Injective f :=
  fun a b hab => List.inj_on_of_nodup_map h (hall a) (hall b) hab

@[simp] lemma Peer.Setup.name_inj {a b : Setup} : a.name = b.name ↔ a = b :=
  (injective_of_nodup_map [.pushButton, .display, .keypad] (by rintro ⟨⟩ <;> decide)
    (by decide)).eq_iff

@[simp] lemma Peer.ProvisioningKind.name_inj {a b : ProvisioningKind} :
    a.name = b.name ↔ a = b :=
  (injective_of_nodup_map [.pushButtonRequest, .pushButtonResponse, .enterPin, .showPin]
    (by rintro ⟨⟩ <;> decide) (by decide)).eq_iff

@[simp] lemma Peer.Status.name_inj {a b : Status} : a.name = b.name ↔ a = b :=
  (injective_of_nodup_map (.unknown :: coded) (by rintro ⟨⟩ <;> decide) (by decide)).eq_iff

@[simp] lemma SupplicantState.name_inj {a b : SupplicantState} : a.name = b.name ↔ a = b :=
  (injective_of_nodup_map (table.map (·.1)) (by rintro ⟨⟩ <;> decide) (by decide)).eq_iff

@[simp] lemma AuthFailure.name_inj {a b : AuthFailure} : a.name = b.name ↔ a = b :=
  (injective_of_nodup_map [.unspecified, .timeout, .wrongPassword, .eapFailure]
    (by rintro ⟨⟩ <;> decide) (by decide)).eq_iff

@[simp] lemma SimMethod.name_inj {a b : SimMethod} : a.name = b.name ↔ a = b :=
  (injective_of_nodup_map [.sim, .aka] (by rintro ⟨⟩ <;> decide) (by decide)).eq_iff

/-- No two kinds have one code. -/
lemma EventKind.code_inj {a b : EventKind} : a.code = b.code ↔ a = b := by
  refine ⟨?_, congrArg _⟩
  intro h
  have hkind := congrArg ofCode? h
  rw [ofCode?_code, ofCode?_code] at hkind
  exact Option.some.inj hkind

/-! ### What events carry -/

namespace Peer

@[simp] lemma Device.toJson_inj {a b : Device} : a.toJson = b.toJson ↔ a = b := by
  cases a
  cases b
  simp [toJson]

@[simp] lemma Negotiation.toJson_inj {a b : Negotiation} : a.toJson = b.toJson ↔ a = b := by
  cases a
  cases b
  simp [toJson]

@[simp] lemma Group.toJson_inj {a b : Group} : a.toJson = b.toJson ↔ a = b := by
  cases a
  cases b
  simp [toJson]

@[simp] lemma Provisioning.toJson_inj {a b : Provisioning} : a.toJson = b.toJson ↔ a = b := by
  cases a
  cases b
  simp [toJson]

@[simp] lemma ServiceType.toJson_inj {a b : ServiceType} : a.toJson = b.toJson ↔ a = b := by
  cases a <;> cases b <;> simp [toJson, UInt8.toNat_inj]

@[simp] lemma ServiceAnswer.toJson_inj {a b : ServiceAnswer} : a.toJson = b.toJson ↔ a = b := by
  cases a
  cases b
  simp [toJson, UInt8.toNat_inj]

@[simp] lemma ServiceAnswer.map_toJson_inj {a b : List ServiceAnswer} :
    a.map (·.toJson) = b.map (·.toJson) ↔ a = b :=
  (List.map_injective_iff.2 fun _ _ => toJson_inj.1).eq_iff

end Peer

@[simp] lemma StateChange.toJson_inj {a b : StateChange} : a.toJson = b.toJson ↔ a = b := by
  cases a
  cases b
  simp [toJson]

@[simp] lemma WpsFailure.toJson_inj {a b : WpsFailure} : a.toJson = b.toJson ↔ a = b := by
  cases a <;> cases b <;> simp [toJson]

@[simp] lemma SimRequest.toJson_inj {a b : SimRequest} : a.toJson = b.toJson ↔ a = b := by
  cases a
  cases b
  simp [toJson]

@[simp] lemma AnqpResult.toJson_inj {a b : AnqpResult} : a.toJson = b.toJson ↔ a = b := by
  cases a
  cases b
  simp [toJson]

@[simp] lemma Icon.toJson_inj {a b : Icon} : a.toJson = b.toJson ↔ a = b := by
  cases a
  cases b
  simp [toJson]

@[simp] lemma ManagementNotice.toJson_inj {a b : ManagementNotice} :
    a.toJson = b.toJson ↔ a = b := by
  cases a <;> cases b <;> simp [toJson]

/-! ### Events -/

namespace Event

/-- What an event carries tells it among the events of its kind. -/
lemma eq_of_data?_eq {e f : Event} (hkind : e.kind = f.kind) (hdata : e.data? = f.data?) :
    e = f := by
  cases e <;> cases f <;> try cases hkind
  all_goals first
    | rfl
    | simpa [data?] using hdata

/-- No two events have the same fields. -/
lemma eq_of_jsonFields_eq {e f : Event} (hkind : e.kind = f.kind)
    (h : e.jsonFields = f.jsonFields) : e = f := by
  refine eq_of_data?_eq hkind ?_
  have hdata := congrArg List.head? (List.cons.inj h).2
  rw [Option.head?_toList, Option.head?_toList] at hdata
  exact Option.map_injective (fun _ _ h => (Prod.mk.inj h).2) hdata

lemma recordJson_inj {i j : String} {e f : Event} :
    e.recordJson i = f.recordJson j ↔ i = j ∧ e = f := by
  constructor
  · intro h
    rw [recordJson, recordJson, Json.object.injEq, List.cons.injEq, List.cons.injEq,
      Prod.mk.injEq, Prod.mk.injEq, Json.string.injEq, Json.nat_inj, EventKind.code_inj] at h
    obtain ⟨⟨-, hi⟩, ⟨-, hkind⟩, hfields⟩ := h
    exact ⟨hi, eq_of_jsonFields_eq hkind hfields⟩
  · rintro ⟨rfl, rfl⟩
    rfl

/-- A record tells the interface and the event. -/
theorem record_inj {i j : String} {e f : Event} : e.record i = f.record j ↔ i = j ∧ e = f := by
  rw [record, record, Json.render_injective.eq_iff, recordJson_inj]

/-- A record has no control character. -/
lemma le_of_mem_record {i : String} {e : Event} {c : Char} (h : c ∈ (e.record i).toList) :
    32 ≤ c.toNat := by
  rw [record, Json.render, String.toList_ofList] at h
  exact Json.le_toChars _ c h

end Event

/-! ### Output -/

namespace Program

lemma flatMap_printed (filter : Logging.Filter) (calls : List (Call String)) :
    calls.flatMap (printed filter true) = calls.map fun call => call.event.record call.handler :=
  List.map_eq_flatMap.symm

/-- The records that are printed are as many lines. -/
lemma linesOf_printed (filter : Logging.Filter) (calls : List (Call String)) :
    linesOf (calls.flatMap (printed filter true))
      = calls.map fun call => call.event.record call.handler := by
  have hline : ∀ t ∈ calls.map fun call => (call.event.record call.handler).toList,
      '\n' ∉ t ∧ '\r' ∉ t := by
    intro t ht
    obtain ⟨call, -, rfl⟩ := List.mem_map.1 ht
    refine ⟨?_, ?_⟩
    · intro h
      exact absurd (Event.le_of_mem_record h) (by decide)
    · intro h
      exact absurd (Event.le_of_mem_record h) (by decide)
  have hlines := Text.lines_flatMap hline
  rw [List.flatMap_map] at hlines
  rw [linesOf, flatMap_printed, List.flatMap_map, hlines, List.map_map]
  exact List.map_congr_left fun call _ => String.ofList_toList

end Program

/-- A record has no control character, so the records that are printed are as many lines, and it
tells the interface and the event. -/
theorem Event.record_lines :
    (∀ (i : String) (e : Event), ∀ c ∈ (e.record i).toList, 32 ≤ c.toNat)
      ∧ (∀ (filter : Logging.Filter) (calls : List (Call String)),
        Program.linesOf (calls.flatMap (Program.printed filter true))
          = calls.map fun call => call.event.record call.handler)
      ∧ ∀ (i j : String) (e f : Event), e.record i = f.record j ↔ i = j ∧ e = f :=
  ⟨fun _ _ _ => le_of_mem_record, Program.linesOf_printed, fun _ _ _ _ => record_inj⟩

/-- A line feed that an event holds is written with a backslash, and not as the letter alone. -/
theorem Event.record_lines_lineFeed :
    let line := (Event.targetBssid (some "\n")).record "wlan0"
    '\\' ∈ line.toList ∧ 32 ≤ '\\'.toNat
      ∧ line ≠ (Event.targetBssid (some "n")).record "wlan0" := by
  have hmem : '\\' ∈ ((Event.targetBssid (some "\n")).record "wlan0").toList := by decide +kernel
  refine ⟨hmem, record_lines.1 "wlan0" _ _ hmem, ?_⟩
  intro h
  have hevent := ((record_lines.2.2 _ _ _ _).1 h).2
  revert hevent
  decide

end SupplicantWatch
