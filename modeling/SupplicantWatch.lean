import SupplicantWatch.Main
import SupplicantWatch.Proofs.Classifier.ReceiveErrors
import SupplicantWatch.Proofs.Monitor.Notification
import SupplicantWatch.Proofs.Monitor.Silence
import SupplicantWatch.Proofs.Monitor.SingleReader
import SupplicantWatch.Proofs.Monitor.Teardown
import SupplicantWatch.Proofs.Registry.History
import SupplicantWatch.Proofs.Socket.HandedOn
import SupplicantWatch.Proofs.Socket.LateReply
import SupplicantWatch.Script
import SupplicantWatch.Socket.Watch
import SupplicantWatch.Proofs.Classifier.Attribution
import SupplicantWatch.Proofs.Monitor.Routing
import SupplicantWatch.Proofs.Classifier.LastConnection
import SupplicantWatch.Proofs.Replay.CaptureLines
import SupplicantWatch.Proofs.Replay.Heard
import SupplicantWatch.Proofs.Control.NetworkName
import SupplicantWatch.Proofs.Dialogue.Course
import SupplicantWatch.Proofs.Hotspot.Commands
import SupplicantWatch.Proofs.Json.Injective
import SupplicantWatch.Proofs.Socket.Files
import SupplicantWatch.Proofs.Event.Record
import SupplicantWatch.Proofs.Monitor.Recording
import SupplicantWatch.Proofs.Ssid.Spelling
import SupplicantWatch.Proofs.Peer.ServiceEntries
import SupplicantWatch.Proofs.Monitor.Starting
import SupplicantWatch.Proofs.Control.ItemOrder
import SupplicantWatch.Proofs.Fields.Items
import SupplicantWatch.Proofs.Peer.DeviceName
import SupplicantWatch.Proofs.Text.Words
import SupplicantWatch.Proofs.Peer.GroupStart
import SupplicantWatch.Proofs.Hotspot.Serving
import SupplicantWatch.Proofs.Credential.Requests
import SupplicantWatch.Proofs.Control.Connection
import SupplicantWatch.Proofs.Classifier.FailureCodes
import SupplicantWatch.Proofs.Hotspot.Elements
import SupplicantWatch.Proofs.MacAddress.Reading
import SupplicantWatch.Proofs.Fields.Layout
import SupplicantWatch.Proofs.Classifier.Places
import SupplicantWatch.Proofs.Replay.LineEnd
