import SerialScript.CommandLine.Arguments
import SerialScript.CommandLine.EventText
import SerialScript.CommandLine.Filter
import SerialScript.CommandLine.Rule
import SerialScript.CommandLine.Rule.Reader
import SerialScript.Directive
import SerialScript.Eol
import SerialScript.Event
import SerialScript.Execution
import SerialScript.Fault
import SerialScript.Host
import SerialScript.Keyword
import SerialScript.Main
import SerialScript.Numeral
import SerialScript.Program
import SerialScript.Program.Basic
import SerialScript.Proofs.Arguments
import SerialScript.Proofs.Closing
import SerialScript.Proofs.Exit
import SerialScript.Proofs.Memory.Inbound
import SerialScript.Proofs.Memory.Latest
import SerialScript.Proofs.Numeral
import SerialScript.Proofs.Numeral.Word
import SerialScript.Proofs.Rehearsal
import SerialScript.Proofs.Script.Grammar
import SerialScript.Proofs.Script.Layout
import SerialScript.Proofs.Script.Printing
import SerialScript.Proofs.Serial.Conservation
import SerialScript.Proofs.Serial.Custody
import SerialScript.Proofs.Serial.Deadline
import SerialScript.Proofs.Serial.Feed
import SerialScript.Proofs.Serial.Hearing
import SerialScript.Proofs.Serial.Ledger
import SerialScript.Proofs.Serial.Origin
import SerialScript.Proofs.Serial.Overrun
import SerialScript.Proofs.Serial.Prompt
import SerialScript.Proofs.Serial.Reconnection
import SerialScript.Proofs.Serial.Retry
import SerialScript.Proofs.Serial.Sending
import SerialScript.Proofs.Serial.Timetable
import SerialScript.Proofs.Serial.Trimming
import SerialScript.Proofs.Serial.Unpolled
import SerialScript.Proofs.Session.Aftermath
import SerialScript.Proofs.Session.Carrying
import SerialScript.Proofs.Session.Duration
import SerialScript.Proofs.Session.FailFast
import SerialScript.Proofs.Session.Failing
import SerialScript.Proofs.Session.Framing
import SerialScript.Proofs.Session.InStep
import SerialScript.Proofs.Session.Interchange
import SerialScript.Proofs.Session.Invariant
import SerialScript.Proofs.Session.Lawful
import SerialScript.Proofs.Session.Portless
import SerialScript.Proofs.Session.Progress
import SerialScript.Proofs.Session.Repeating
import SerialScript.Proofs.Session.Reporting
import SerialScript.Proofs.Session.Settings
import SerialScript.Proofs.Session.Transcript
import SerialScript.Proofs.Session.Verdict
import SerialScript.Proofs.Text.Decoding
import SerialScript.Proofs.Text.Draining
import SerialScript.Proofs.Text.Framing
import SerialScript.Proofs.Text.Lossy
import SerialScript.Proofs.Text.Occurrence
import SerialScript.Proofs.Text.Packing
import SerialScript.Proofs.Text.Utf8
import SerialScript.Run
import SerialScript.Script.Line
import SerialScript.Script.Printer
import SerialScript.Script.Reader
import SerialScript.Session
import SerialScript.Text.Alphanumeric
import SerialScript.Text.Blank
import SerialScript.Text.Control
import SerialScript.Text.Escaped
import SerialScript.Text.Occurrence
import SerialScript.Text.Offset
import SerialScript.Text.Pattern
import SerialScript.Text.Pattern.Atom
import SerialScript.Text.Pattern.Set
import SerialScript.Text.Pieces
import SerialScript.Text.Similarity
import SerialScript.Text.Utf8
import SerialScript.Transport.Absent
import SerialScript.Transport.Backlog
import SerialScript.Transport.Basic
import SerialScript.Transport.Device
import SerialScript.Transport.Memory
import SerialScript.Transport.Serial
import SerialScript.Transport.Serial.Basic
import SerialScript.Transport.Serial.Wait
import SerialScript.Transport.Serial.Write
