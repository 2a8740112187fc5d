import SerialScript.Transport.Serial.Basic

namespace SerialScript.Serial

/-- Offers data to a device until all of it is accepted. Goes on after a partial write and after
an interruption; gives up when nothing is accepted. Yields the calls made and the acceptances
that are left. -/
def writeAll (timeout : Nat) : List UInt8 → List Acceptance →
    Except Fault Unit × List Call × List Acceptance
  | [], later => (.ok (), [], later)
  | data, [] => (.ok (), [.write timeout (some data)], [])
  | data, .all :: later => (.ok (), [.write timeout (some data)], later)
  | data, .failing f :: later =>
    if f.kind = .interrupted then
      let (result, calls, later) := writeAll timeout data later
      (result, .write timeout none :: calls, later)
    else (.error (.reported f.message), [.write timeout none], later)
  | data, .atMost count :: later =>
    let call := Call.write timeout (some (data.take count))
    if count = 0 then (.error .writeStalled, [call], later)
    else
      let (result, calls, later) := writeAll timeout (data.drop count) later
      (result, call :: calls, later)

def write (data : List UInt8) (s : Stream) (b : Bench World) :
    Outcome Unit × Stream × Bench World :=
  match s.device with
  | none => (.fail (.portClosed s.name), s, b)
  | some d =>
    match setDeviceTimeout s.writeTimeout d b with
    | (.error stop, d, b) => (.error stop, { s with device := some d }, b)
    | (.ok (), d, b) =>
      let b := b.report (traceBytes s.name "write" data)
      let (result, calls, acceptances) := writeAll d.timeout data d.acceptances
      let b := calls.foldl record b
      let d := { d with acceptances }
      match result with
      | .error cause =>
        (.fail (.during (.writingTo s.name) cause), { s with device := some d }, b)
      | .ok () =>
        let b := record b .flush
        match d.flush with
        | (some f, d) => (.fail (.reported f.message), { s with device := some d }, b)
        | (none, d) => (.ok (), { s with device := some d }, b)

end SerialScript.Serial
