import Mathlib.Tactic.Common
import SupplicantWatch.Hotspot.Icon
import SupplicantWatch.Proofs.Dialogue.Course
import SupplicantWatch.Proofs.Text.Encoding

/-!
# How an icon is fetched

An icon is asked for piece by piece, each time for what is still lacking, until a reply is refused
or nothing is lacking; then it is released. The peer decides how many bytes a reply brings, so the
offsets follow from the replies and not from the requests. Main statement: `fetched_run_fetch`.
-/

namespace SupplicantWatch.Hotspot

/-! ### Replies -/

section Reply

variable {command response : String} {offset size : Nat} {reply : Option String}
  {bytes bytes' : List UInt8} {e : FetchError}

/-- A reply brings some bytes: it is not the word for failure and, but for white space, it is what
they are written as. -/
def Brings (reply : Option String) (bytes : List UInt8) : Prop :=
  ∃ response, reply = some response ∧ Text.trimEnd response.toList ≠ "FAIL".toList
    ∧ response.toList.filter (!Text.isBlank ·) = Base64.encode bytes

/-- A reply brings some bytes of those that are lacking from an offset on. -/
structure Accepts (offset size : Nat) (reply : Option String) (bytes : List UInt8) : Prop where
  brings : Brings reply bytes
  ne_nil : bytes ≠ []
  fits : offset + bytes.length ≤ size

/-- A reply to a command is refused, for the first of these reasons that it gives. -/
inductive Refuses (command : String) (offset size : Nat) : Option String → FetchError → Prop where
  | silent : Refuses command offset size none (.noResponse command)
  | failure {response : String} (h : Text.trimEnd response.toList = "FAIL".toList) :
    Refuses command offset size (some response) (.noResponse command)
  | garbled {response : String} (hfail : Text.trimEnd response.toList ≠ "FAIL".toList)
      (h : ∀ bytes, ¬Brings (some response) bytes) :
    Refuses command offset size (some response) (.undecodable command)
  | empty {response : String} (h : Brings (some response) []) :
    Refuses command offset size (some response) (.emptyChunk command response)
  | excess {response : String} {bytes : List UInt8} (h : Brings (some response) bytes)
      (hne : bytes ≠ []) (hlt : size < offset + bytes.length) :
    Refuses command offset size (some response) (.overflow offset bytes.length size)

/-- What is told from a reply that brings some bytes is told from the bytes alone. -/
lemma chunk_of_brings (h : Brings (some response) bytes) :
    chunk command offset size (some response)
      = if bytes = [] then .error (.emptyChunk command response)
        else if size < offset + bytes.length then .error (.overflow offset bytes.length size)
        else .ok bytes := by
  obtain ⟨_, ⟨⟩, hfail, hbytes⟩ := h
  simp only [chunk, if_neg hfail, Base64.decode?_eq_some_iff.2 hbytes]

/-- A reply brings some bytes, or nothing is made of it. -/
lemma brings_or_chunk_eq_error (command response : String) (offset size : Nat) :
    (∃ bytes, Brings (some response) bytes)
      ∨ ∃ e, chunk command offset size (some response) = .error e
        ∧ Refuses command offset size (some response) e := by
  by_cases hfail : Text.trimEnd response.toList = "FAIL".toList
  · exact .inr ⟨_, by simp only [chunk, if_pos hfail], .failure hfail⟩
  cases hd : Base64.decode? (response.toList.filter (!Text.isBlank ·)) with
  | some bytes => exact .inl ⟨bytes, response, rfl, hfail, Base64.decode?_eq_some_iff.1 hd⟩
  | none =>
    refine .inr ⟨_, by simp only [chunk, if_neg hfail, hd], .garbled hfail ?_⟩
    rintro bytes ⟨_, ⟨⟩, -, hbytes⟩
    cases hd.symm.trans (Base64.decode?_eq_some_iff.2 hbytes)

/-- Each reply is taken for what it is: refused, or accepted with the bytes that it brings. -/
lemma chunk_cases (command : String) (offset size : Nat) (reply : Option String) :
    (∃ e, chunk command offset size reply = .error e ∧ Refuses command offset size reply e)
      ∨ ∃ bytes, chunk command offset size reply = .ok bytes ∧ Accepts offset size reply bytes := by
  cases reply with
  | none => exact .inl ⟨_, rfl, .silent⟩
  | some response =>
    obtain ⟨bytes, h⟩ | hrefused := brings_or_chunk_eq_error command response offset size
    · by_cases hne : bytes = []
      · subst hne
        exact .inl ⟨_, chunk_of_brings h, .empty h⟩
      by_cases hlt : size < offset + bytes.length
      · exact .inl ⟨_, by rw [chunk_of_brings h, if_neg hne, if_pos hlt], .excess h hne hlt⟩
      · exact .inr ⟨bytes, by rw [chunk_of_brings h, if_neg hne, if_neg hlt], h, hne,
          Nat.le_of_not_lt hlt⟩
    · exact .inl hrefused

lemma Brings.unique (h : Brings reply bytes) (h' : Brings reply bytes') : bytes = bytes' := by
  obtain ⟨response, rfl, -, hbytes⟩ := h
  obtain ⟨_, ⟨⟩, -, hbytes'⟩ := h'
  exact Option.some.inj ((Base64.decode?_eq_some_iff.2 hbytes).symm.trans
    (Base64.decode?_eq_some_iff.2 hbytes'))

/-- A reply that is refused is not accepted. -/
lemma Refuses.not_accepts (h : Refuses command offset size reply e) :
    ¬Accepts offset size reply bytes := by
  intro ha
  cases h with
  | silent =>
    obtain ⟨_, hnone, -⟩ := ha.brings
    cases hnone
  | failure hfail =>
    obtain ⟨_, ⟨⟩, hne, -⟩ := ha.brings
    exact hne hfail
  | garbled _ h => exact h _ ha.brings
  | empty h => exact ha.ne_nil (ha.brings.unique h)
  | excess h _ hlt =>
    obtain rfl := ha.brings.unique h
    exact absurd ha.fits (Nat.not_le_of_lt hlt)

end Reply

variable {bssid : MacAddress} {fileName : String} {size chunkSize : Nat}
  {gets exchanges : List Exchange} {get : Exchange} {data data' : List UInt8}
  {result : Except FetchError (List UInt8)}

/-! ### Requests -/

/-- An exchange asks for the bytes that are lacking after some data, at most so many at once. -/
structure Requests (bssid : MacAddress) (fileName : String) (size chunkSize : Nat)
    (data : List UInt8) (get : Exchange) : Prop where
  lacking : data.length < size
  command_eq : get.command
    = getCommand bssid fileName data.length (min (size - data.length) chunkSize)

/-- Requests in turn, each for what is lacking after the replies to those before it, and the bytes
that all the replies have brought. -/
inductive Brought (bssid : MacAddress) (fileName : String) (size chunkSize : Nat) :
    List Exchange → List UInt8 → Prop where
  | nil : Brought bssid fileName size chunkSize [] []
  | concat {gets : List Exchange} {get : Exchange} {data bytes : List UInt8}
      (h : Brought bssid fileName size chunkSize gets data)
      (hrequest : Requests bssid fileName size chunkSize data get)
      (haccept : Accepts data.length size get.reply bytes) :
    Brought bssid fileName size chunkSize (gets ++ [get]) (data ++ bytes)

/-- How the requests for an icon end: nothing is lacking any more, or a reply is refused. -/
inductive Fetched (bssid : MacAddress) (fileName : String) (size chunkSize : Nat) :
    List Exchange → Except FetchError (List UInt8) → Prop where
  | complete {gets : List Exchange} {data : List UInt8}
      (h : Brought bssid fileName size chunkSize gets data) (hsize : data.length = size) :
    Fetched bssid fileName size chunkSize gets (.ok data)
  | stopped {gets : List Exchange} {get : Exchange} {data : List UInt8} {e : FetchError}
      (h : Brought bssid fileName size chunkSize gets data)
      (hrequest : Requests bssid fileName size chunkSize data get)
      (hrefuse : Refuses get.command data.length size get.reply e) :
    Fetched bssid fileName size chunkSize (gets ++ [get]) (.error e)

/-- A piece that is shorter than asked for, and no reply to the request for the rest. -/
example : Fetched .zero "logo" 5 5
    ([⟨getCommand .zero "logo" 0 5, some "AQID\n"⟩] ++ [⟨getCommand .zero "logo" 3 2, none⟩])
    (.error (.noResponse (getCommand .zero "logo" 3 2))) := by
  have haccept : Accepts 0 5 (some "AQID\n") [1, 2, 3] :=
    ⟨⟨"AQID\n", rfl, by decide, by decide⟩, by decide, by decide⟩
  have hbrought : Brought .zero "logo" 5 5 [⟨getCommand .zero "logo" 0 5, some "AQID\n"⟩]
      [1, 2, 3] := .concat .nil ⟨by decide, rfl⟩ haccept
  exact .stopped hbrought ⟨by decide, rfl⟩ .silent

/-- One of several requests is the last or one of those before. -/
lemma cases_of_concat_eq {last : Exchange} {front back : List Exchange}
    (h : gets ++ [last] = front ++ get :: back) :
    front = gets ∧ get = last ∨ ∃ back', gets = front ++ get :: back' := by
  rcases List.eq_nil_or_concat back with rfl | ⟨back', _, rfl⟩
  · obtain ⟨rfl, rfl⟩ := List.append_singleton_inj.1 h
    exact .inl ⟨rfl, rfl⟩
  · rw [List.concat_eq_append, ← List.cons_append, ← List.append_assoc] at h
    exact .inr ⟨back', (List.append_singleton_inj.1 h).1⟩

namespace Brought

/-- Every reply has brought a byte at least, and all of them no more than the icon has. -/
lemma length_le (h : Brought bssid fileName size chunkSize gets data) :
    gets.length ≤ data.length ∧ data.length ≤ size := by
  induction h with
  | nil => exact ⟨Nat.le_refl _, Nat.zero_le _⟩
  | concat _ _ haccept ih =>
    have hpos := List.length_pos_iff.2 haccept.ne_nil
    have hfits := haccept.fits
    simp only [List.length_append, List.length_singleton]
    omega

/-- The last request, and what had been brought before it. -/
lemma of_concat (h : Brought bssid fileName size chunkSize (gets ++ [get]) data') :
    ∃ data bytes, Brought bssid fileName size chunkSize gets data
      ∧ Requests bssid fileName size chunkSize data get ∧ Accepts data.length size get.reply bytes
      ∧ data' = data ++ bytes := by
  generalize hall : gets ++ [get] = all at h
  cases h with
  | nil => simp at hall
  | concat h hrequest haccept =>
    obtain ⟨rfl, rfl⟩ := List.append_singleton_inj.1 hall
    exact ⟨_, _, h, hrequest, haccept, rfl⟩

/-- The replies alone decide which bytes they have brought. -/
lemma unique (h : Brought bssid fileName size chunkSize gets data)
    (h' : Brought bssid fileName size chunkSize gets data') : data = data' := by
  induction h generalizing data' with
  | nil =>
    generalize hnone : [] = none at h'
    cases h' with
    | nil => rfl
    | concat => simp at hnone
  | concat h _ haccept ih =>
    obtain ⟨data₀, bytes₀, h₀, -, haccept₀, rfl⟩ := h'.of_concat
    obtain rfl := ih h₀
    rw [haccept.brings.unique haccept₀.brings]

/-- Each request is for what is lacking after the replies to those before it. -/
lemma requests (h : Brought bssid fileName size chunkSize gets data) {front back : List Exchange}
    (hgets : gets = front ++ get :: back) :
    ∃ data, Brought bssid fileName size chunkSize front data
      ∧ Requests bssid fileName size chunkSize data get := by
  induction h generalizing back with
  | nil => simp at hgets
  | concat h hrequest _ ih =>
    obtain ⟨rfl, rfl⟩ | ⟨back', hgets'⟩ := cases_of_concat_eq hgets
    · exact ⟨_, h, hrequest⟩
    · exact ih hgets'

end Brought

/-! ### Rounds -/

/-- One round: nothing is lacking, or a piece is asked for and the reply ends the fetching or brings
some more bytes. -/
lemma course_fetchFrom_cases
    (h : (fetchFrom bssid fileName size chunkSize data).Course exchanges result) :
    (size ≤ data.length ∧ exchanges = [] ∧ result = .ok data)
      ∨ ∃ get exchanges', Requests bssid fileName size chunkSize data get
        ∧ exchanges = get :: exchanges'
        ∧ ((∃ e, Refuses get.command data.length size get.reply e
            ∧ exchanges' = [] ∧ result = .error e)
          ∨ ∃ bytes, Accepts data.length size get.reply bytes
            ∧ (fetchFrom bssid fileName size chunkSize (data ++ bytes)).Course exchanges'
              result) := by
  rw [fetchFrom] at h
  split_ifs at h with hlt
  · obtain - | ⟨reply, h⟩ := h
    refine .inr ⟨⟨_, reply⟩, _, ⟨hlt, rfl⟩, rfl, ?_⟩
    dsimp only at h ⊢
    obtain ⟨e, he, hrefuse⟩ | ⟨bytes, hbytes, haccept⟩ :=
      chunk_cases (getCommand bssid fileName data.length (min (size - data.length) chunkSize))
        data.length size reply
    · rw [he] at h
      cases h
      exact .inl ⟨e, hrefuse, rfl, rfl⟩
    · rw [hbytes] at h
      exact .inr ⟨bytes, haccept, h⟩
  · cases h
    exact .inl ⟨Nat.le_of_not_lt hlt, rfl, rfl⟩

/-- Requests that have brought some bytes are gone on with until the fetching ends. -/
lemma Brought.fetched (hb : Brought bssid fileName size chunkSize gets data)
    (h : (fetchFrom bssid fileName size chunkSize data).Course exchanges result) :
    Fetched bssid fileName size chunkSize (gets ++ exchanges) result := by
  -- By induction on the number of bytes that are lacking.
  induction hn : size - data.length using Nat.strongRecOn generalizing gets data exchanges with
  | ind n ih =>
    rcases course_fetchFrom_cases h with
      ⟨hge, rfl, rfl⟩
        | ⟨get, exchanges', hrequest, rfl, ⟨e, hrefuse, rfl, rfl⟩ | ⟨bytes, haccept, h'⟩⟩
    · rw [List.append_nil]
      exact .complete hb (Nat.le_antisymm hb.length_le.2 hge)
    · exact .stopped hb hrequest hrefuse
    · have hpos := List.length_pos_iff.2 haccept.ne_nil
      have hlt := hrequest.lacking
      have hless : size - (data ++ bytes).length < n := by
        rw [List.length_append]
        omega
      rw [List.append_cons]
      exact ih _ hless (hb.concat hrequest haccept) h' rfl

namespace Fetched

variable (h : Fetched bssid fileName size chunkSize gets result)
include h

/-- There are no more requests than bytes. -/
lemma length_le : gets.length ≤ size := by
  cases h with
  | complete h => exact Nat.le_trans h.length_le.1 h.length_le.2
  | stopped h hrequest =>
    have hle := h.length_le.1
    have hlt := hrequest.lacking
    rw [List.length_append, List.length_singleton]
    omega

/-- Each request is for what is lacking after the replies to those before it, all of them
accepted. -/
lemma requests {front back : List Exchange} (hgets : gets = front ++ get :: back) :
    ∃ data, Brought bssid fileName size chunkSize front data
      ∧ Requests bssid fileName size chunkSize data get := by
  cases h with
  | complete h => exact h.requests hgets
  | stopped h hrequest =>
    obtain ⟨rfl, rfl⟩ | ⟨back', hgets'⟩ := cases_of_concat_eq hgets
    · exact ⟨_, h, hrequest⟩
    · exact h.requests hgets'

/-- Of an icon that has a size something is asked for. -/
lemma ne_nil (hpos : 0 < size) : gets ≠ [] := by
  cases h with
  | complete h hsize =>
    rintro rfl
    rw [h.unique .nil] at hsize
    exact Nat.ne_of_lt hpos hsize
  | stopped => exact List.append_ne_nil_of_right_ne_nil _ (List.cons_ne_nil _ _)

/-- What is fetched in the end has the size of the icon. -/
lemma length_eq (hok : result = .ok data) : data.length = size := by
  subst hok
  cases h with
  | complete _ hsize => exact hsize

/-- Data are fetched exactly if every reply has brought some, and they are what was brought. -/
lemma eq_ok_iff : result = .ok data ↔ Brought bssid fileName size chunkSize gets data := by
  constructor
  · rintro rfl
    cases h with
    | complete h => exact h
  · intro hb
    cases h with
    | complete h => rw [h.unique hb]
    | stopped h _ hrefuse =>
      obtain ⟨data₀, bytes₀, h₀, -, haccept, -⟩ := hb.of_concat
      obtain rfl := h.unique h₀
      exact absurd haccept hrefuse.not_accepts

end Fetched

/-! ### Releasing -/

/-- An icon is asked for and then released. -/
lemma course_fetch (h : (fetch bssid fileName size chunkSize).Course exchanges result) :
    ∃ gets reply, exchanges = gets ++ [⟨deleteCommand bssid fileName, reply⟩]
      ∧ Fetched bssid fileName size (max 1 chunkSize) gets result := by
  obtain ⟨gets, result', exchanges₂, h₁, h₂, rfl⟩ := Dialogue.course_bind_iff.1 h
  obtain ⟨exchanges₃, reply, exchanges₄, h₃, h₄, rfl⟩ := Dialogue.course_bind_iff.1 h₂
  obtain rfl := Dialogue.course_query_iff.1 h₃
  obtain ⟨rfl, rfl⟩ := Dialogue.course_pure_iff.1 h₄
  have hfetched := Brought.nil.fetched h₁
  rw [List.nil_append] at hfetched
  exact ⟨gets, reply, rfl, hfetched⟩

/-- A request for bytes releases nothing. -/
lemma getCommand_ne_deleteCommand (offset length : Nat) :
    getCommand bssid fileName offset length ≠ deleteCommand bssid fileName := by
  intro h
  have hchars := congrArg String.toList h
  unfold getCommand deleteCommand at hchars
  simp only [String.toList_append, List.append_assoc] at hchars
  have hstart : "GET_HS20_ICON ".toList = "DEL_HS20_ICON ".toList :=
    (List.append_inj hchars (by decide)).1
  exact absurd hstart (by decide)

/-- Whatever the daemon replies, an icon is asked for in pieces, each of them what is lacking after
the replies to those before it and one byte at least, and then released once. There are no more
pieces than bytes. The data are fetched if every reply is accepted, and otherwise the first that is
not ends the fetching. -/
theorem fetched_run_fetch {σ : Type} (bssid : MacAddress) (fileName : String)
    (size chunkSize : Nat) (interface : String) (daemon : Daemon σ) (state : σ) :
    let (result, exchanges, _) :=
      ((fetch bssid fileName size chunkSize).onInterface interface).run daemon state
    ∃ gets reply,
      exchanges = (gets ++ [⟨deleteCommand bssid fileName, reply⟩]).map
        (fun e => ⟨markInterface interface e.command, e.reply⟩)
      ∧ (∀ get ∈ gets, get.command ≠ deleteCommand bssid fileName)
      ∧ gets.length ≤ size
      ∧ (∀ front get back, gets = front ++ get :: back →
        ∃ data, Brought bssid fileName size (max 1 chunkSize) front data
          ∧ Requests bssid fileName size (max 1 chunkSize) data get
          ∧ 1 ≤ min (size - data.length) (max 1 chunkSize))
      ∧ Fetched bssid fileName size (max 1 chunkSize) gets result
      ∧ ∀ data, (result = .ok data ↔ Brought bssid fileName size (max 1 chunkSize) gets data)
        ∧ (result = .ok data → data.length = size) := by
  -- What the run says is said of every course, in which the peer may reply anything.
  have hcourse := Dialogue.course_run daemon
    ((fetch bssid fileName size chunkSize).onInterface interface) state
  obtain ⟨exchanges, h, hexchanges⟩ := Dialogue.course_onInterface_iff.1 hcourse
  obtain ⟨gets, reply, rfl, hfetched⟩ := course_fetch h
  refine ⟨gets, reply, hexchanges, ?_, hfetched.length_le, ?_, hfetched, fun data =>
    ⟨hfetched.eq_ok_iff, hfetched.length_eq⟩⟩
  · intro get hget
    obtain ⟨front, back, hgets⟩ := List.append_of_mem hget
    obtain ⟨data, -, hrequest⟩ := hfetched.requests hgets
    rw [hrequest.command_eq]
    exact getCommand_ne_deleteCommand _ _
  · intro front get back hgets
    obtain ⟨data, hb, hrequest⟩ := hfetched.requests hgets
    have hlt := hrequest.lacking
    exact ⟨data, hb, hrequest, by omega⟩

end SupplicantWatch.Hotspot
