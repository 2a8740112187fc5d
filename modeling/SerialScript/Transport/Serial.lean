import SerialScript.Transport.Backlog
import SerialScript.Transport.Serial.Wait
import SerialScript.Transport.Serial.Write

namespace SerialScript.Serial

/-- Waits at most `ms` for a pattern. What is pending already is looked at first, whether the
stream is open or not. The deadline is a sum on a clock without bound, so finding it never fails. -/
def readBytes (pattern : List UInt8) (ms : Nat) (s : Stream) (b : Bench World) :
    Outcome Found × Stream × Bench World :=
  match Text.takeThrough pattern s.pending with
  | some (found, rest) => (.ok (some found), { s with pending := rest }, b)
  | none => await (Backlog.trim pattern) pattern (b.clock + ms) s b

def Found.text : Found → String
  | some found => Text.decodeLossy found
  | none => ""

def readUntil (text : String) (ms : Nat) (s : Stream) (b : Bench World) :
    Outcome String × Stream × Bench World :=
  let (result, s, b) := readBytes (Text.toBytes text) ms s b
  (result.map Found.text, s, b)

/-- Waits are bounded by their own deadlines, so there is no other timeout to change. -/
def setTimeout (_ : Nat) (s : Stream) (b : Bench World) : Stream × Bench World := (s, b)

instance : Transport Stream World where
  openPort := openPort
  isOpen := Stream.isOpen
  close := close
  setTimeout := setTimeout
  write := write
  readUntil := readUntil
  discard s b := (close s b).2

end SerialScript.Serial
