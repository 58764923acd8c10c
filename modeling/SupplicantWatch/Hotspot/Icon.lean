import SupplicantWatch.Dialogue
import SupplicantWatch.Event.Basic
import SupplicantWatch.Text.Base64

/-!
# Operator icons

The supplicant keeps an icon that it received and hands it out in pieces of Base64; its copy is to
be released when the pieces have been fetched, whatever came of it.
-/

namespace SupplicantWatch.Hotspot

inductive FetchError where
  /-- There was no reply, or the word for failure. -/
  | noResponse (command : String)
  /-- The reply is no Base64 text. -/
  | undecodable (command : String)
  /-- The reply holds no bytes. -/
  | emptyChunk (command response : String)
  /-- The reply holds more bytes than the icon still lacks. -/
  | overflow (offset chunk size : Nat)
deriving DecidableEq, Repr

def FetchError.message : FetchError → String
  | noResponse command => "no icon data returned for '" ++ command ++ "'"
  | undecodable command => "failed to decode response to '" ++ command ++ "'"
  | emptyChunk command response => "null data for '" ++ command ++ "': " ++ response
  | overflow offset chunk size =>
    "icon chunk exceeds image size: " ++ toString offset ++ " + " ++ toString chunk ++ " > "
      ++ toString size

/-- The number of bytes asked for at once unless a configuration says otherwise. -/
def defaultChunkSize : Nat :=
  1400

def getCommand (bssid : MacAddress) (fileName : String) (offset length : Nat) : String :=
  "GET_HS20_ICON " ++ bssid.render ++ " " ++ fileName ++ " " ++ toString offset ++ " "
    ++ toString length

def deleteCommand (bssid : MacAddress) (fileName : String) : String :=
  "DEL_HS20_ICON " ++ bssid.render ++ " " ++ fileName

/-- The bytes in the reply to a command for the bytes of an icon from an offset on. White space in
the reply does not count. -/
def chunk (command : String) (offset size : Nat) (reply : Option String) :
    Except FetchError (List UInt8) :=
  match reply with
  | none => .error (.noResponse command)
  | some response =>
    -- The word is the Base64 text of three bytes, too, and is taken for the failure all the same.
    if Text.trimEnd response.toList = "FAIL".toList then .error (.noResponse command)
    else match Base64.decode? (response.toList.filter (!Text.isBlank ·)) with
      | none => .error (.undecodable command)
      | some bytes =>
        -- Without a byte in it the next command would be the same again.
        if bytes = [] then .error (.emptyChunk command response)
        else if size < offset + bytes.length then .error (.overflow offset bytes.length size)
        else .ok bytes

/-- A chunk that is accepted is not empty and fits. -/
theorem of_chunk_eq_ok {command : String} {offset size : Nat} {reply : Option String}
    {bytes : List UInt8} (h : chunk command offset size reply = .ok bytes) :
    bytes ≠ [] ∧ offset + bytes.length ≤ size := by
  unfold chunk at h
  split at h
  · simp at h
  · split at h
    · simp at h
    · split at h
      · simp at h
      · split at h
        · simp at h
        · next hne =>
          split at h
          · simp at h
          · next hle =>
            obtain rfl : _ = bytes := by simpa using h
            exact ⟨hne, by omega⟩

/-- Asks for the bytes of an icon that are lacking after `data`, at most `chunkSize` at once. -/
def fetchFrom (bssid : MacAddress) (fileName : String) (size chunkSize : Nat)
    (data : List UInt8) : Dialogue (Except FetchError (List UInt8)) :=
  if data.length < size then
    let command := getCommand bssid fileName data.length (min (size - data.length) chunkSize)
    .ask command fun reply =>
      match _h : chunk command data.length size reply with
      | .error e => .done (.error e)
      | .ok bytes => fetchFrom bssid fileName size chunkSize (data ++ bytes)
  else .done (.ok data)
termination_by size - data.length
decreasing_by
  have hne := List.length_pos_iff.2 (of_chunk_eq_ok _h).1
  simp only [List.length_append]
  omega

/-- Fetches an icon and releases it. A chunk size of zero counts as one. -/
def fetch (bssid : MacAddress) (fileName : String) (size chunkSize : Nat) :
    Dialogue (Except FetchError (List UInt8)) := do
  let result ← fetchFrom bssid fileName size (max 1 chunkSize) []
  let _ ← Dialogue.query (deleteCommand bssid fileName)
  return result

/-- The event of an icon notification: after the name of the event an address, a file name and a
size, with one space between each two. The icon is fetched if it has a name and a size. -/
def iconEvent (line : List Char) (chunkSize : Nat) : Dialogue (Except PayloadError Event) :=
  match line.splitOn ' ' with
  | [_, address, file, number] =>
    match Text.word? 10 32 number, MacAddress.parse (String.ofList address) with
    -- Of two faults the one in the size is told.
    | none, _ => return .error (.badNumeral "icon size" (String.ofList number))
    | some _, .error e => return .error e
    | some size, .ok bssid => do
      let fileName := String.ofList file
      let data ← if file ≠ [] ∧ 0 < size then
          Except.toOption <$> fetch bssid fileName size chunkSize
        else pure none
      return .ok (.iconDone ⟨bssid, fileName, size, data⟩)
  | segments => return .error (.iconSegments segments.length)

end SupplicantWatch.Hotspot
