import SerialScript.Proofs.Serial.Origin
import SerialScript.Proofs.Session.Failing

namespace SerialScript.Serial

def closing (name : String) : Event where
  level := .debug
  origin := .port
  message := "serial port closed"
  fields := [("port", name)]

def placedAt (o : Origin) : Session Stream World → Session Stream World :=
  Session.carry (Stream.renumber o.handedOut) o.place

/-- Where counting goes on once these events have been reported and the device that is out, if one
is, has come back. -/
def departure (opening : List Event) (s : Session Stream World) : Origin where
  clock := s.bench.clock
  handedOut := s.bench.world.handedOut
  calls :=
    match s.stream.bind Stream.out with
    | none => s.bench.world.calls
    | some id => s.bench.world.calls.push (s.bench.clock, .released id)
  log :=
    match s.stream with
    | some ⟨name, some _, _, _⟩ => (s.bench.log ++ opening.toArray).push (closing name)
    | _ => s.bench.log ++ opening.toArray

def anew (s : Session Stream World) : Session Stream World where
  eol := s.eol
  responseTimeout := s.responseTimeout
  bench := { world := { ports := s.bench.world.ports } }

theorem letGo_eq_place (opening : List Event) (s : Session Stream World) :
    (opening.foldl Session.report s).letGo = (departure opening s).place (anew s).bench := by
  rw [Session.foldl_report]
  obtain ⟨eol, responseTimeout, stream, ⟨⟨ports, handedOut, calls⟩, clock, log⟩⟩ := s
  rcases stream with _ | ⟨name, _ | d, writeTimeout, pending⟩
  · simp [Session.letGo, departure, Origin.place, anew]
  · simp [Session.letGo, departure, Origin.place, anew, Transport.close, Transport.discard, close,
      Stream.out]
  · simp [Session.letGo, departure, Origin.place, anew, Transport.close, Transport.discard, close,
      Stream.out, record, Bench.report, closing]

theorem disconnect_eq_placedAt (opening : List Event) (s : Session Stream World) :
    (opening.foldl Session.report s).disconnect.2 = placedAt (departure opening s) (anew s) := by
  rw [Session.disconnect_eq, letGo_eq_place, Session.foldl_report]
  rfl

/-- What `CONNECT` does once there is no stream. -/
def connectAnew (port : String) (baud : UInt32) (s : Session Stream World) :
    Outcome Unit × Session Stream World :=
  (Directive.connect port baud).reportSuccess "CONNECT Serial port open."
    ((s.openNext port baud).1.during .connecting, (s.openNext port baud).2)

theorem connectAnew_placedAt (o : Origin) (port : String) (baud : UInt32)
    (s : Session Stream World) :
    connectAnew port baud (placedAt o s) =
      Session.carried (Stream.renumber o.handedOut) o.place (connectAnew port baud s) := by
  have h := o.carries_place
  unfold connectAnew placedAt
  rw [h.openNext, ← h.reportSuccess]
  rfl

theorem runLine_connect {line : Line} {port : String} {baud : UInt32}
    (hconnect : line.keyword? = some .connect)
    (hvalid : Directive.ofArguments .connect line.arguments = .ok (.connect port baud)) :
    ∃ opening : List Event, ∀ s : Session Stream World,
      s.runLine line = connectAnew port baud (opening.foldl Session.report s).disconnect.2 := by
  obtain ⟨opening, heq⟩ := Session.exists_opening (S := Stream) (W := World) port baud
  let dispatched : Event :=
    { level := .debug, origin := .engine, message := "dispatch",
      fields := [("line", toString line.number), ("directive", Keyword.connect.spelling)] }
  refine ⟨dispatched :: opening, fun s => ?_⟩
  have hline : s.runLine line = Directive.executeConnect port baud (s.report dispatched) := by
    simp only [Session.runLine, hconnect, Session.perform, hvalid]
    rfl
  rw [hline, heq]
  rfl

/-- Two sessions with the same settings and the same ports before them, whatever has been done with
either, take the same course from a valid `CONNECT` on. Each goes on counting where it was when it
had let go of its stream. -/
theorem connect_erases_history {s t : Session Stream World} (heol : t.eol = s.eol)
    (htimeout : t.responseTimeout = s.responseTimeout)
    (hports : t.bench.world.ports = s.bench.world.ports) {line : Line} {port : String}
    {baud : UInt32} (hconnect : line.keyword? = some .connect)
    (hvalid : Directive.ofArguments .connect line.arguments = .ok (.connect port baud))
    (later : List Line) (scripts : List (List Line)) :
    ∃ (opening : List Event) (results : List (Outcome Unit)) (rest : Session Stream World),
      s.runEach ((line :: later) :: scripts) = (results, placedAt (departure opening s) rest) ∧
      t.runEach ((line :: later) :: scripts) = (results, placedAt (departure opening t) rest) := by
  obtain ⟨opening, hline⟩ := runLine_connect hconnect hvalid
  have hcourse : ∀ u : Session Stream World, u.runEach ((line :: later) :: scripts) =
      Session.carried (Stream.renumber (departure opening u).handedOut) (departure opening u).place
        (Session.follow line later scripts (connectAnew port baud (anew u))) := by
    intro u
    rw [Session.runEach_cons, hline, disconnect_eq_placedAt, connectAnew_placedAt,
      (departure opening u).carries_place.follow]
  have hanew : anew t = anew s := by
    unfold anew
    rw [heol, htimeout, hports]
  refine ⟨opening, _, _, hcourse s, ?_⟩
  rw [hcourse t, hanew]
  rfl

/-- `OK` has come from a device and nobody has asked for it. -/
def leftover : Session Stream World where
  stream := some
    { name := "old", device := some { id := 2, timeout := 1000 }, writeTimeout := 1000,
      pending := [0x4F, 0x4B] }
  bench :=
    { world := { ports := [.ready { id := 0, timeout := 0 } false], handedOut := 3 }, clock := 70 }

def asking : List Line := [⟨2, "CFGRESTIMEOUT 0"⟩, ⟨3, "RES OK"⟩]

/-- Without `CONNECT` the leftover would do for an answer. -/
theorem connect_erases_history_of_leftover :
    let line : Line := ⟨1, "CONNECT p 9600"⟩
    let other := fresh leftover.bench.world.ports
    (leftover.run asking).1.isOk = true ∧
      line.keyword? = some .connect ∧
      Directive.ofArguments .connect line.arguments = .ok (.connect "p" 9600) ∧
      ∃ opening results rest, results.map Except.isOk = [false, false] ∧
        leftover.runEach [line :: asking, asking] =
          (results, placedAt (departure opening leftover) rest) ∧
        other.runEach [line :: asking, asking] =
          (results, placedAt (departure opening other) rest) := by
  intro line other
  have hconnect : line.keyword? = some .connect := by decide +kernel
  have hvalid : Directive.ofArguments .connect line.arguments = .ok (.connect "p" 9600) := by
    decide +kernel
  obtain ⟨opening, results, rest, hleftover, hother⟩ :=
    connect_erases_history (s := leftover) (t := other) rfl rfl rfl hconnect hvalid asking [asking]
  refine ⟨by decide +kernel, hconnect, hvalid, opening, results, rest, ?_, hleftover, hother⟩
  have hresults : (other.runEach [line :: asking, asking]).1 = results := by rw [hother]
  rw [← hresults]
  decide +kernel

end SerialScript.Serial
