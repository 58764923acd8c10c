import SupplicantWatch.Text.Numeral
import SupplicantWatch.Text.Scan

/-!
# Service discovery

The answers of a peer to a service discovery query. On the wire an entry is the little-endian
16-bit length of what follows, then type, transaction id and status, a byte each, then the data.
Main statement: what `Entry.wire` writes `Entry.ofWire?` reads back, in front of other bytes too.
-/

namespace SupplicantWatch.Peer

inductive ServiceType where
  | all
  | bonjour
  | upnp
  | vendorSpecific
  | other (code : UInt8)
deriving DecidableEq, Repr

def ServiceType.ofCode (code : UInt8) : ServiceType :=
  if code = 0 then .all
  else if code = 1 then .bonjour
  else if code = 2 then .upnp
  else if code = 255 then .vendorSpecific
  else .other code

/-- One entry of an answer as it goes over the wire. -/
structure Entry where
  type : UInt8
  transactionId : UInt8
  status : UInt8
  data : List UInt8
deriving DecidableEq, Repr

structure ServiceAnswer where
  deviceAddress : String
  serviceType : ServiceType
  transactionId : UInt8
  status : UInt8
  data : List UInt8
deriving DecidableEq, Repr

namespace Entry

def bytes (e : Entry) : List UInt8 :=
  let length := e.data.length + 3
  UInt8.ofNat (length % 256) :: UInt8.ofNat (length / 256) :: e.type :: e.transactionId :: e.status
    :: e.data

def wire (entries : List Entry) : List UInt8 :=
  entries.flatMap bytes

/-- The entries that some bytes consist of. -/
def ofWire? (bs : List UInt8) : Option (List Entry) :=
  match bs with
  | [] => some []
  | lo :: hi :: type :: transactionId :: status :: tail =>
    let length := lo.toNat + 256 * hi.toNat
    let data := tail.take (length - 3)
    -- The length counts the three bytes before the data, too.
    if length < 3 ∨ data.length < length - 3 then none
    else (ofWire? (tail.drop (length - 3))).map (⟨type, transactionId, status, data⟩ :: ·)
  | _ => none
termination_by bs.length
decreasing_by
  simp only [List.length_cons, List.length_drop]
  omega

/-- Whether an entry says nothing: it has no data and a status other than success. -/
def isVoid (e : Entry) : Bool :=
  e.data.isEmpty && e.status != 0

/-- The bytes of an entry whose data fits the length field read back as that entry, in front of what
the bytes behind it are read as. -/
theorem ofWire?_bytes_append {e : Entry} (h : e.data.length ≤ 65532) (rest : List UInt8) :
    ofWire? (e.bytes ++ rest) = (ofWire? rest).map (e :: ·) := by
  have hlo : (UInt8.ofNat ((e.data.length + 3) % 256)).toNat = (e.data.length + 3) % 256 := by
    simp
  have hhi : (UInt8.ofNat ((e.data.length + 3) / 256)).toNat = (e.data.length + 3) / 256 := by
    simp only [UInt8.toNat_ofNat', Nat.reducePow]
    omega
  have hl : (e.data.length + 3) % 256 + 256 * ((e.data.length + 3) / 256) - 3
      = e.data.length := by omega
  unfold bytes
  rw [List.cons_append, ofWire?.eq_def]
  simp only [List.cons_append, hlo, hhi, hl]
  rw [if_neg (by simp; omega), List.drop_left, List.take_left]

/-- The bytes of entries whose data fits the length field read back as those entries, in front of
what the bytes behind them are read as. -/
theorem ofWire?_wire_append {entries : List Entry} (h : ∀ e ∈ entries, e.data.length ≤ 65532)
    (rest : List UInt8) : ofWire? (wire entries ++ rest) = (ofWire? rest).map (entries ++ ·) := by
  induction entries with
  | nil => simp [wire]
  | cons e entries ih =>
    rw [wire, List.flatMap_cons, List.append_assoc, ofWire?_bytes_append (h e List.mem_cons_self),
      ← wire, ih fun e he => h e (List.mem_cons_of_mem _ he), Option.map_map]
    rfl

end Entry

/-- The answers in a line of four words: the second is the address, the fourth the wire bytes in
hexadecimal. Entries that say nothing are passed over. -/
def ServiceAnswer.listOfLine? (line : List Char) : Option (List ServiceAnswer) := do
  match Text.words line with
  | [_, address, _, hex] =>
    let entries ← Entry.ofWire? (← Text.hexBytes? hex)
    return (entries.filter (!·.isVoid)).map fun e =>
      ⟨String.ofList address, .ofCode e.type, e.transactionId, e.status, e.data⟩
  | _ => none

end SupplicantWatch.Peer
