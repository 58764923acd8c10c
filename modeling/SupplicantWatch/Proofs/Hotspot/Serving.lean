import Mathlib.Tactic.Common
import SupplicantWatch.Proofs.Hotspot.Fetching
import SupplicantWatch.Proofs.Text.Decimal
import SupplicantWatch.Proofs.Text.Words

/-!
# Fetching from a daemon that serves an icon

Against a daemon that answers every request with the bytes that are asked for, the icon is asked for
in pieces of the chunk size, one after the other, and put together again. The word for failure is
itself the text of three bytes, so a piece that consists of these is taken for a failure and ends
the fetching. Main statement: `run_fetch_of_serves`.
-/

namespace SupplicantWatch.Hotspot

variable {bssid : MacAddress} {fileName interface : String} {icon bytes data : List UInt8}
  {chunkSize : Nat} {reply : Option String} {gets : List Exchange}
  {result : Except FetchError (List UInt8)}

/-! ### Replies with a piece -/

/-- The bytes of which the text is the word for failure. -/
def failBytes : List UInt8 :=
  [0x14, 0x02, 0x0b]

/-- A reply carries some bytes: it is their text, with nothing but white space behind it. -/
def Carries (reply : Option String) (bytes : List UInt8) : Prop :=
  ∃ response rest, reply = some response ∧ response.toList = Base64.encode bytes ++ rest
    ∧ ∀ c ∈ rest, Text.isBlank c = true

lemma encode_failBytes : Base64.encode failBytes = "FAIL".toList := by
  decide

lemma isBlank_of_mem_encode (bytes : List UInt8) :
    ∀ c ∈ Base64.encode bytes, Text.isBlank c = false :=
  Base64.forall_mem_encode (by decide) (by decide) bytes

lemma trimEnd_encode_append (bytes : List UInt8) {rest : List Char}
    (hrest : ∀ c ∈ rest, Text.isBlank c = true) :
    Text.trimEnd (Base64.encode bytes ++ rest) = Base64.encode bytes := by
  rw [Text.trimEnd_append hrest]
  exact Text.trimEnd_eq_self fun c hc => isBlank_of_mem_encode bytes c (List.mem_of_getLast? hc)

namespace Carries

/-- A reply that carries other bytes than those for failure brings them. -/
lemma brings (h : Carries reply bytes) (hne : bytes ≠ failBytes) : Brings reply bytes := by
  obtain ⟨response, rest, rfl, htext, hrest⟩ := h
  refine ⟨response, rfl, ?_, ?_⟩
  · rw [htext, trimEnd_encode_append bytes hrest, ← encode_failBytes]
    exact mt Base64.encode_inj.1 hne
  · have hword : ∀ c ∈ Base64.encode bytes, (!Text.isBlank c) = true := by
      intro c hc
      rw [isBlank_of_mem_encode bytes c hc, Bool.not_false]
    have hblank : ∀ c ∈ rest, ¬(!Text.isBlank c) = true := by
      intro c hc
      rw [hrest c hc]
      decide
    rw [htext, List.filter_append, List.filter_eq_self.2 hword, List.filter_eq_nil_iff.2 hblank,
      List.append_nil]

/-- A reply that carries the bytes for failure is taken for one. -/
lemma failure (h : Carries reply failBytes) :
    ∃ response, reply = some response ∧ Text.trimEnd response.toList = "FAIL".toList := by
  obtain ⟨response, rest, rfl, htext, hrest⟩ := h
  refine ⟨response, rfl, ?_⟩
  rw [htext, trimEnd_encode_append failBytes hrest, encode_failBytes]

/-- Such a reply brings nothing. -/
lemma not_brings (h : Carries reply failBytes) : ¬Brings reply bytes := by
  obtain ⟨response, rfl, hfail⟩ := h.failure
  rintro ⟨_, ⟨⟩, hne, -⟩
  exact hne hfail

/-- A piece that is asked for and carried is refused only if it is the bytes for failure, and then
for want of a reply. -/
lemma eq_of_refuses {command : String} {offset size : Nat} {e : FetchError}
    (h : Carries reply bytes) (hne : bytes ≠ []) (hfits : offset + bytes.length ≤ size)
    (hrefuse : Refuses command offset size reply e) :
    bytes = failBytes ∧ e = .noResponse command := by
  have hfail : bytes = failBytes := by
    by_contra hother
    exact hrefuse.not_accepts ⟨h.brings hother, hne, hfits⟩
  subst hfail
  obtain ⟨response, rfl, hword⟩ := h.failure
  refine ⟨rfl, ?_⟩
  -- Of the reasons to refuse a reply this is the only one that the word for failure gives.
  cases hrefuse with
  | failure => rfl
  | garbled hother => exact absurd hword hother
  | empty h' => exact absurd h' h.not_brings
  | excess h' => exact absurd h' h.not_brings

end Carries

/-! ### Pieces -/

/-- The bytes of an icon that are asked for in the round of a number. -/
def piece (icon : List UInt8) (chunkSize i : Nat) : List UInt8 :=
  (icon.drop (i * chunkSize)).take chunkSize

/-- The command of the round of a number. -/
def roundCommand (bssid : MacAddress) (fileName : String) (icon : List UInt8)
    (chunkSize i : Nat) : String :=
  getCommand bssid fileName (i * chunkSize) (min (icon.length - i * chunkSize) chunkSize)

/-- The number of pieces. -/
def pieceCount (icon : List UInt8) (chunkSize : Nat) : Nat :=
  (icon.length + chunkSize - 1) / chunkSize

lemma lt_pieceCount_iff (hchunk : 0 < chunkSize) {i : Nat} :
    i < pieceCount icon chunkSize ↔ i * chunkSize < icon.length := by
  rw [pieceCount, Nat.lt_iff_add_one_le, Nat.le_div_iff_mul_le hchunk, Nat.add_one_mul]
  omega

lemma length_piece (icon : List UInt8) (chunkSize i : Nat) :
    (piece icon chunkSize i).length = min chunkSize (icon.length - i * chunkSize) := by
  rw [piece, List.length_take, List.length_drop]

lemma take_append_piece (icon : List UInt8) (chunkSize i : Nat) :
    icon.take (i * chunkSize) ++ piece icon chunkSize i = icon.take ((i + 1) * chunkSize) := by
  rw [piece, Nat.add_one_mul, List.take_add]

/-- Every request among some exchanges is answered with the bytes that it asks for. -/
def Served (bssid : MacAddress) (fileName : String) (icon : List UInt8) (gets : List Exchange) :
    Prop :=
  ∀ get ∈ gets, ∀ offset length, get.command = getCommand bssid fileName offset length →
    Carries get.reply ((icon.drop offset).take length)

/-- Some requests are those for the first pieces, none of which is the bytes for failure. -/
structure InOrder (bssid : MacAddress) (fileName : String) (icon : List UInt8) (chunkSize : Nat)
    (gets : List Exchange) : Prop where
  commands : commandsOf gets
    = (List.range gets.length).map (roundCommand bssid fileName icon chunkSize)
  lacking : ∀ i < gets.length, i * chunkSize < icon.length
  piece_ne : ∀ i < gets.length, piece icon chunkSize i ≠ failBytes

/-- A request behind those for the first pieces is for the next piece. -/
lemma Requests.next {get : Exchange} {n : Nat}
    (h : Requests bssid fileName icon.length chunkSize (icon.take (n * chunkSize)) get) :
    n * chunkSize < icon.length ∧ get.command = roundCommand bssid fileName icon chunkSize n := by
  have hlt := h.lacking
  rw [List.length_take] at hlt
  have hmin : (icon.take (n * chunkSize)).length = n * chunkSize := by
    rw [List.length_take]
    omega
  exact ⟨by omega, by rw [h.command_eq, hmin, roundCommand]⟩

/-- A served request for a piece is answered with the piece. -/
lemma Served.carries {get : Exchange} {n : Nat} (h : Served bssid fileName icon [get])
    (hcommand : get.command = roundCommand bssid fileName icon chunkSize n) :
    Carries get.reply (piece icon chunkSize n) := by
  have hcarries := h get List.mem_cons_self _ _ hcommand
  have hpiece : (icon.drop (n * chunkSize)).take (min (icon.length - n * chunkSize) chunkSize)
      = piece icon chunkSize n := by
    rw [piece, List.take_eq_take_iff, List.length_drop]
    omega
  rwa [hpiece] at hcarries

lemma InOrder.nil : InOrder bssid fileName icon chunkSize [] :=
  ⟨rfl, nofun, nofun⟩

lemma InOrder.commandsOf_concat {get : Exchange} (h : InOrder bssid fileName icon chunkSize gets)
    (hcommand : get.command = roundCommand bssid fileName icon chunkSize gets.length) :
    commandsOf (gets ++ [get])
      = (List.range (gets.length + 1)).map (roundCommand bssid fileName icon chunkSize) := by
  rw [commandsOf_append, h.commands, List.range_succ, List.map_append, List.map_singleton,
    ← hcommand]
  rfl

/-- A request for the next piece goes on with the requests for the first pieces. -/
lemma InOrder.concat {get : Exchange} (h : InOrder bssid fileName icon chunkSize gets)
    (hlt : gets.length * chunkSize < icon.length)
    (hcommand : get.command = roundCommand bssid fileName icon chunkSize gets.length)
    (hne : piece icon chunkSize gets.length ≠ failBytes) :
    InOrder bssid fileName icon chunkSize (gets ++ [get]) := by
  have hcases {i : Nat} (hi : i < (gets ++ [get]).length) : i < gets.length ∨ i = gets.length := by
    rw [List.length_append, List.length_singleton] at hi
    omega
  refine ⟨?_, ?_, ?_⟩
  · rw [h.commandsOf_concat hcommand, List.length_append, List.length_singleton]
  · intro i hi
    rcases hcases hi with hi | rfl
    · exact h.lacking i hi
    · exact hlt
  · intro i hi
    rcases hcases hi with hi | rfl
    · exact h.piece_ne i hi
    · exact hne

/-- What is brought by the replies to served requests is the icon up to the last piece. -/
lemma Brought.inOrder (h : Brought bssid fileName icon.length chunkSize gets data)
    (hserved : Served bssid fileName icon gets) :
    InOrder bssid fileName icon chunkSize gets ∧ data = icon.take (gets.length * chunkSize) := by
  induction h with
  | nil => exact ⟨.nil, by rw [List.length_nil, Nat.zero_mul, List.take_zero]⟩
  | @concat gets get data bytes h hrequest haccept ih =>
    obtain ⟨hinOrder, rfl⟩ := ih fun f hf => hserved f (List.mem_append_left _ hf)
    obtain ⟨hlt, hcommand⟩ := hrequest.next
    have hcarries : Carries get.reply (piece icon chunkSize gets.length) :=
      Served.carries (fun f hf => hserved f (List.mem_append_right _ hf)) hcommand
    have hne : piece icon chunkSize gets.length ≠ failBytes := by
      intro hfail
      rw [hfail] at hcarries
      exact hcarries.not_brings haccept.brings
    obtain rfl := haccept.brings.unique (hcarries.brings hne)
    refine ⟨hinOrder.concat hlt hcommand hne, ?_⟩
    rw [take_append_piece, List.length_append, List.length_singleton]

/-- Served requests go on to the last piece, or to the first one that is the bytes for failure. -/
lemma Fetched.cases_of_served (h : Fetched bssid fileName icon.length chunkSize gets result)
    (hchunk : 0 < chunkSize) (hserved : Served bssid fileName icon gets) :
    (InOrder bssid fileName icon chunkSize gets ∧ gets.length = pieceCount icon chunkSize
        ∧ result = .ok icon)
      ∨ ∃ front get, gets = front ++ [get] ∧ InOrder bssid fileName icon chunkSize front
        ∧ front.length < pieceCount icon chunkSize
        ∧ get.command = roundCommand bssid fileName icon chunkSize front.length
        ∧ piece icon chunkSize front.length = failBytes
        ∧ result = .error (.noResponse get.command) := by
  cases h with
  | @complete gets data h hsize =>
    obtain ⟨hinOrder, rfl⟩ := h.inOrder hserved
    rw [List.length_take] at hsize
    -- Nothing is lacking behind the last request, and something was before each.
    have hle : gets.length ≤ pieceCount icon chunkSize := by
      refine le_of_forall_lt fun i hi => ?_
      rw [lt_pieceCount_iff hchunk]
      exact hinOrder.lacking i hi
    have hge : ¬gets.length < pieceCount icon chunkSize := by
      rw [lt_pieceCount_iff hchunk]
      omega
    refine .inl ⟨hinOrder, by omega, ?_⟩
    rw [List.take_of_length_le (by omega)]
  | @stopped front get data e h hrequest hrefuse =>
    obtain ⟨hinOrder, rfl⟩ := h.inOrder fun f hf => hserved f (List.mem_append_left _ hf)
    obtain ⟨hlt, hcommand⟩ := hrequest.next
    have hcarries : Carries get.reply (piece icon chunkSize front.length) :=
      Served.carries (fun f hf => hserved f (List.mem_append_right _ hf)) hcommand
    have hlength := length_piece icon chunkSize front.length
    -- Something was lacking, so the piece is not empty, and it is no longer than what was lacking.
    have hne : piece icon chunkSize front.length ≠ [] := by
      rw [← List.length_pos_iff]
      omega
    obtain ⟨hfail, rfl⟩ := hcarries.eq_of_refuses hne (by rw [List.length_take]; omega) hrefuse
    exact .inr ⟨front, get, rfl, hinOrder, (lt_pieceCount_iff hchunk).2 hlt, hcommand, hfail, rfl⟩

/-! ### Daemons -/

/-- A command asks for some bytes of an icon. -/
def IsRequest (interface : String) (bssid : MacAddress) (fileName command : String) : Prop :=
  ∃ offset length, command = markInterface interface (getCommand bssid fileName offset length)

/-- As long as it is ready, a daemon answers every request on an interface for bytes of an icon with
these, and stays ready. -/
structure Serves {σ : Type} (daemon : Daemon σ) (interface : String) (bssid : MacAddress)
    (fileName : String) (icon : List UInt8) (ready : σ → Prop) : Prop where
  carries : ∀ s, ready s → ∀ offset length,
    Carries (daemon s (markInterface interface (getCommand bssid fileName offset length))).1
      ((icon.drop offset).take length)
  stays : ∀ s, ready s → ∀ offset length,
    ready (daemon s (markInterface interface (getCommand bssid fileName offset length))).2

/-- The daemon that reads the offset and the length of a request off its last two words. -/
def serve (icon : List UInt8) : Daemon Unit := fun _ command =>
  match (command.toList.splitOn ' ').reverse with
  | length :: offset :: _ =>
    match Text.digits? 10 offset, Text.digits? 10 length with
    | some offset, some length =>
      (some (String.ofList (Base64.encode ((icon.drop offset).take length) ++ ['\n'])), ())
    | _, _ => (none, ())
  | _ => (none, ())

/-- A request ends in its offset and its length. -/
lemma exists_toList_getCommand (interface : String) (bssid : MacAddress) (fileName : String)
    (offset length : Nat) :
    ∃ front, (markInterface interface (getCommand bssid fileName offset length)).toList
      = front ++ ' ' :: ((toString offset).toList ++ ' ' :: (toString length).toList) := by
  have hblank : " ".toList = [' '] := rfl
  refine
    ⟨(markInterface interface ("GET_HS20_ICON " ++ bssid.render ++ " " ++ fileName)).toList, ?_⟩
  unfold markInterface getCommand
  simp only [String.toList_append, List.append_assoc, hblank, List.cons_append, List.nil_append]

lemma serve_getCommand (interface : String) (bssid : MacAddress) (fileName : String)
    (icon : List UInt8) (offset length : Nat) :
    serve icon () (markInterface interface (getCommand bssid fileName offset length))
      = (some (String.ofList (Base64.encode ((icon.drop offset).take length) ++ ['\n'])), ()) := by
  have hspace (n : Nat) : ' ' ∉ (toString n).toList := Text.notMem_toString (by decide)
  have hdigits (n : Nat) : Text.digits? 10 (toString n).toList = some n := by
    rw [Text.toList_toString, Text.digits?_toDigits (by omega) (by omega)]
  obtain ⟨front, htext⟩ := exists_toList_getCommand interface bssid fileName offset length
  have hsplit : (List.splitOn ' '
        (markInterface interface (getCommand bssid fileName offset length)).toList).reverse
      = (toString length).toList :: (toString offset).toList :: (front.splitOn ' ').reverse := by
    rw [htext, List.splitOn_append_cons_self,
      List.splitOn_append_cons_self_of_not_mem (hspace offset),
      List.splitOn_eq_singleton (hspace length), List.reverse_append]
    rfl
  rw [serve, hsplit]
  simp only [hdigits]

lemma serves_serve (interface : String) (bssid : MacAddress) (fileName : String)
    (icon : List UInt8) : Serves (serve icon) interface bssid fileName icon fun _ => True where
  carries := by
    intro s _ offset length
    refine ⟨_, ['\n'], congrArg Prod.fst (serve_getCommand interface bssid fileName icon offset
      length), String.toList_ofList, by decide⟩
  stays _ _ _ _ := trivial

/-- In a run against a daemon that serves an icon the requests that come first are served. -/
lemma Serves.served {σ : Type} {daemon : Daemon σ} {ready : σ → Prop} {state : σ}
    (h : Serves daemon interface bssid fileName icon ready) (hready : ready state)
    {d : Dialogue (Except FetchError (List UInt8))} {rest : List Exchange}
    (hrun : (d.run daemon state).2.1
      = (gets ++ rest).map fun e => ⟨markInterface interface e.command, e.reply⟩)
    (hgets : ∀ get ∈ gets, ∃ offset length,
      get.command = getCommand bssid fileName offset length) :
    Served bssid fileName icon gets := by
  intro get hget offset length hcommand
  obtain ⟨front, back, rfl⟩ := List.append_of_mem hget
  rw [List.append_assoc, List.cons_append, List.map_append, List.map_cons] at hrun
  -- A daemon that serves the icon is ready after every request, so also when this one comes.
  have hstep : ∀ s command, ready s → IsRequest interface bssid fileName command
      → ready (daemon s command).2 := by
    rintro s _ hs ⟨offset, length, rfl⟩
    exact h.stays s hs offset length
  have hfront : ∀ f ∈ front.map fun e =>
      (⟨markInterface interface e.command, e.reply⟩ : Exchange),
      IsRequest interface bssid fileName f.command := by
    intro f hf
    obtain ⟨e, he, rfl⟩ := List.mem_map.1 hf
    obtain ⟨offset, length, hasked⟩ := hgets e (List.mem_append_left _ he)
    exact ⟨offset, length, congrArg (markInterface interface) hasked⟩
  obtain ⟨s, hs, hreply⟩ := Dialogue.exists_reply_eq_of_run hstep hready hrun hfront
  dsimp only at hreply
  rw [hreply, hcommand]
  exact h.carries s hs offset length

/-- Against a daemon that serves an icon the icon is fetched, with one request for each piece in
order and the release behind them, if no piece is the bytes for failure. The first piece that is
ends the fetching with an error, and the icon is released. -/
theorem run_fetch_of_serves {σ : Type} {daemon : Daemon σ} {ready : σ → Prop}
    (h : Serves daemon interface bssid fileName icon ready) (state : σ) (hready : ready state)
    (hchunk : 0 < chunkSize) :
    let (result, exchanges, _) :=
      ((fetch bssid fileName icon.length chunkSize).onInterface interface).run daemon state
    ((∀ i < pieceCount icon chunkSize, piece icon chunkSize i ≠ failBytes) →
      result = .ok icon ∧
      commandsOf exchanges = ((List.range (pieceCount icon chunkSize)).map
          (roundCommand bssid fileName icon chunkSize)
        ++ [deleteCommand bssid fileName]).map (markInterface interface)) ∧
    ∀ i < pieceCount icon chunkSize, piece icon chunkSize i = failBytes →
      (∀ j < i, piece icon chunkSize j ≠ failBytes) →
      result = .error (.noResponse (roundCommand bssid fileName icon chunkSize i)) ∧
      commandsOf exchanges = ((List.range (i + 1)).map
          (roundCommand bssid fileName icon chunkSize)
        ++ [deleteCommand bssid fileName]).map (markInterface interface) := by
  have hcourse := Dialogue.course_run daemon
    ((fetch bssid fileName icon.length chunkSize).onInterface interface) state
  obtain ⟨exchanges, hfetch, hrun⟩ := Dialogue.course_onInterface_iff.1 hcourse
  obtain ⟨gets, reply, rfl, hfetched⟩ := course_fetch hfetch
  rw [max_eq_right hchunk] at hfetched
  have hserved : Served bssid fileName icon gets := by
    refine h.served hready hrun fun get hget => ?_
    obtain ⟨front, back, hgets⟩ := List.append_of_mem hget
    obtain ⟨data, -, hrequest⟩ := hfetched.requests hgets
    exact ⟨_, _, hrequest.command_eq⟩
  have hcommands : commandsOf
        (((fetch bssid fileName icon.length chunkSize).onInterface interface).run daemon state).2.1
      = (commandsOf gets ++ [deleteCommand bssid fileName]).map (markInterface interface) := by
    rw [hrun, commandsOf, List.map_map, List.map_append, List.map_append, commandsOf, List.map_map]
    rfl
  dsimp only
  rw [hcommands]
  rcases hfetched.cases_of_served hchunk hserved with
    ⟨hinOrder, hcount, hok⟩ | ⟨front, get, rfl, hinOrder, hlt, hcommand, hfail, herror⟩
  · rw [← hcount, ← hinOrder.commands]
    refine ⟨fun _ => ⟨hok, rfl⟩, fun i hi hfail _ => ?_⟩
    exact absurd hfail (hinOrder.piece_ne i hi)
  · refine ⟨fun hne => absurd hfail (hne _ hlt), fun i hi hfirst hbefore => ?_⟩
    have hle : ¬front.length < i := fun hlt => hbefore _ hlt hfail
    have hge : ¬i < front.length := fun hlt => hinOrder.piece_ne i hlt hfirst
    obtain rfl : front.length = i := by omega
    exact ⟨by rw [herror, hcommand], by rw [hinOrder.commandsOf_concat hcommand]⟩

/-- An icon that starts with the bytes for failure, in one piece. -/
theorem run_fetch_of_serves_longer :
    ∃ icon daemon, icon = failBytes ++ [1, 2, 3] ∧ daemon = serve icon ∧
      Serves daemon "wlan0" .zero "a" icon (fun _ => True) ∧ 0 < defaultChunkSize ∧
      let (result, exchanges, _) :=
        ((fetch .zero "a" icon.length defaultChunkSize).onInterface "wlan0").run daemon ()
      result = .ok icon ∧
        commandsOf exchanges = ["IFNAME=wlan0 GET_HS20_ICON 00:00:00:00:00:00 a 0 6",
          "IFNAME=wlan0 DEL_HS20_ICON 00:00:00:00:00:00 a"] := by
  have hserves := serves_serve "wlan0" .zero "a" (failBytes ++ [1, 2, 3])
  have hchunk : 0 < defaultChunkSize := by decide
  obtain ⟨hok, hcommands⟩ := (run_fetch_of_serves hserves () trivial hchunk).1 (by decide)
  exact ⟨_, _, rfl, rfl, hserves, hchunk, hok, hcommands.trans (by decide +kernel)⟩

/-- An icon of just these bytes is not fetched. -/
theorem run_fetch_failBytes :
    let (result, exchanges, _) :=
      ((fetch .zero "a" failBytes.length defaultChunkSize).onInterface "wlan0").run
        (serve failBytes) ()
    result ≠ .ok failBytes ∧
      result = .error (.noResponse "GET_HS20_ICON 00:00:00:00:00:00 a 0 3") ∧
      exchanges = [⟨"IFNAME=wlan0 GET_HS20_ICON 00:00:00:00:00:00 a 0 3", some "FAIL\n"⟩,
        ⟨"IFNAME=wlan0 DEL_HS20_ICON 00:00:00:00:00:00 a", none⟩] := by
  decide +kernel

end SupplicantWatch.Hotspot
