import SerialScript.Proofs.Serial.Custody
import SerialScript.Proofs.Session.Carrying

/-!
Serial streams from another origin on. A bench counts time, devices, calls and events from where it
stands, and no call on a stream looks at any of these counts. So what is done from the beginning is
done in the same way later, with all four counts moved.
-/

namespace SerialScript

def Device.renumber (n : Nat) (d : Device) : Device := { d with id := n + d.id }

namespace Serial

/-- Where counting begins: the time, the number of the next device, and the calls and the events
that have been before. -/
structure Origin where
  clock : Nat
  handedOut : Nat
  calls : Array (Nat × Call)
  log : Array Event

def Call.renumber (n : Nat) : Call → Call
  | .handedOut id => .handedOut (n + id)
  | .released id => .released (n + id)
  | call => call

def Stream.renumber (n : Nat) (s : Stream) : Stream :=
  { s with device := s.device.map (Device.renumber n) }

def Round.map (f : Stream → Stream) (g : Bench World → Bench World) : Round → Round
  | .again s b => .again (f s) (g b)
  | .done result s b => .done result (f s) (g b)

namespace Origin

def move (o : Origin) (entry : Nat × Call) : Nat × Call :=
  (o.clock + entry.1, entry.2.renumber o.handedOut)

/-- A bench that has counted from zero, as it is if counting begins here. -/
def place (o : Origin) (b : Bench World) : Bench World where
  world :=
    { ports := b.world.ports, handedOut := o.handedOut + b.world.handedOut,
      calls := o.calls ++ b.world.calls.map o.move }
  clock := o.clock + b.clock
  log := o.log ++ b.log

variable (o : Origin) (b : Bench World)

theorem place_report (event : Event) : (o.place b).report event = o.place (b.report event) := by
  simp [place, Bench.report]

theorem place_wait (ms : Nat) : (o.place b).wait ms = o.place (b.wait ms) := by
  simp [place, Bench.wait, Nat.add_assoc]

theorem place_record (call : Call) :
    record (o.place b) (call.renumber o.handedOut) = o.place (record b call) := by
  simp [place, record, move]

theorem renumber_of_traffic {call : Call} (h : call.IsTraffic) (n : Nat) :
    call.renumber n = call := by
  cases call with
  | handedOut id =>
    have hgiven := h { out := some id }
    simp [Custody.after] at hgiven
  | released id =>
    have hback := h {}
    simp [Custody.after] at hback
  | _ => rfl

theorem place_traffic {call : Call} (h : call.IsTraffic) :
    record (o.place b) call = o.place (record b call) := by
  have hrecord := o.place_record b call
  rwa [renumber_of_traffic h] at hrecord

theorem place_allTraffic {calls : List Call} (h : ∀ call ∈ calls, call.IsTraffic) :
    calls.foldl record (o.place b) = o.place (calls.foldl record b) := by
  induction calls generalizing b with
  | nil => rfl
  | cons call later ih =>
    obtain ⟨hcall, hlater⟩ := List.forall_mem_cons.1 h
    rw [List.foldl_cons, o.place_traffic b hcall]
    exact ih _ hlater

theorem setTimeout_renumber (ms n : Nat) (d : Device) :
    (Device.renumber n d).setTimeout ms = Prod.map id (Device.renumber n) (d.setTimeout ms) := by
  unfold Device.setTimeout
  rcases hs : d.settings with _ | ⟨_ | reason, rest⟩ <;> simp [Device.renumber, hs]

theorem read_renumber (n : Nat) (d : Device) :
    (Device.renumber n d).read = Prod.map id (Prod.map id (Device.renumber n)) d.read := by
  obtain ⟨id, held, readings, acceptances, flushes, settings, timeout⟩ := d
  unfold Device.read
  rcases held with _ | ⟨byte, held⟩
  · rcases readings with _ | ⟨⟨delay, content⟩, rest⟩
    · rfl
    · by_cases hlate : timeout < delay
      · simp [Device.renumber, hlate]
      · cases content <;> simp [Device.renumber, hlate]
  · rfl

theorem flush_renumber (n : Nat) (d : Device) :
    (Device.renumber n d).flush = Prod.map id (Device.renumber n) d.flush := by
  unfold Device.flush
  rcases hs : d.flushes with _ | ⟨outcome, rest⟩ <;> simp [Device.renumber, hs]

theorem place_close (s : Stream) :
    close (s.renumber o.handedOut) (o.place b) =
      Prod.map (Stream.renumber o.handedOut) o.place (close s b) := by
  obtain ⟨name, device, writeTimeout, pending⟩ := s
  cases device with
  | none => rfl
  | some d =>
    have hrecord := o.place_record b (.released d.id)
    simp only [close, Stream.renumber, Option.map_some, Prod.map, ← place_report, ← hrecord]
    rfl

theorem place_openPort (port : String) (baud : UInt32) (responseTimeout openTimeout : Nat) :
    openPort port baud responseTimeout openTimeout (o.place b) =
      Prod.map (Except.map (Stream.renumber o.handedOut)) o.place
        (openPort port baud responseTimeout openTimeout b) := by
  have hasked := o.place_record b (.asked port baud responseTimeout openTimeout)
  unfold openPort
  simp only [Call.renumber] at hasked
  simp only [hasked]
  generalize record b (.asked port baud responseTimeout openTimeout) = b'
  have hports : (o.place b').world.ports = b'.world.ports := rfl
  rcases hnext : b'.world.ports with _ | ⟨reason | ⟨device, closed⟩, ports⟩
  · simp only [hports, hnext]
    rfl
  · simp only [hports, hnext]
    rfl
  · have hgiven := o.place_record
      { b' with world := { b'.world with ports, handedOut := b'.world.handedOut + 1 } }
      (.handedOut b'.world.handedOut)
    simp only [hports, hnext]
    cases closed with
    | false => exact congrArg (Prod.mk _) hgiven
    | true =>
      have hclosed := o.place_close (record
        { b' with world := { b'.world with ports, handedOut := b'.world.handedOut + 1 } }
        (.handedOut b'.world.handedOut))
        { name := port,
          device := some { device with id := b'.world.handedOut, timeout := openTimeout },
          writeTimeout := openTimeout }
      rw [← hgiven] at hclosed
      exact congrArg (Prod.map Except.ok id) hclosed

theorem place_setDeviceTimeout (ms : Nat) (d : Device) :
    setDeviceTimeout ms (d.renumber o.handedOut) (o.place b) =
      Prod.map id (Prod.map (Device.renumber o.handedOut) o.place) (setDeviceTimeout ms d b) := by
  unfold setDeviceTimeout
  rw [setTimeout_renumber]
  rcases d.setTimeout ms with ⟨_ | reason, d'⟩
  · simp only [Prod.map, o.place_traffic b (isTraffic_timeoutSet ms)]
    rfl
  · rfl

theorem place_write (data : List UInt8) (s : Stream) :
    write data (s.renumber o.handedOut) (o.place b) =
      Prod.map id (Prod.map (Stream.renumber o.handedOut) o.place) (write data s b) := by
  obtain ⟨name, device, writeTimeout, pending⟩ := s
  unfold write
  cases device with
  | none => rfl
  | some d =>
    simp only [Stream.renumber, Option.map_some, place_setDeviceTimeout]
    rcases setDeviceTimeout writeTimeout d b with ⟨stop | _, d', b'⟩
    · rfl
    · have htraffic := writeAll_traffic d'.timeout data d'.acceptances
      simp only [Prod.map, id_eq]
      rcases hall : writeAll d'.timeout data d'.acceptances with ⟨_ | _, calls, acceptances⟩
      · rw [hall] at htraffic
        simp only [Device.renumber, hall, place_report, o.place_allTraffic _ htraffic]
        rfl
      · rw [hall] at htraffic
        have hflush := flush_renumber o.handedOut { d' with acceptances }
        simp only [Device.renumber] at hflush
        simp only [Device.renumber, hall, place_report, o.place_allTraffic _ htraffic,
          o.place_traffic _ isTraffic_flush, hflush]
        rcases Device.flush { d' with acceptances } with ⟨_ | f, d''⟩ <;> rfl

theorem place_settle (cut : Cut) (pattern : List UInt8) (s : Stream) :
    settle cut pattern (s.renumber o.handedOut) (o.place b) =
      (settle cut pattern s b).map (Stream.renumber o.handedOut) o.place := by
  unfold settle
  simp only [Stream.renumber]
  cases Text.takeThrough pattern s.pending with
  | some found => rfl
  | none => cases cut s.pending <;> rfl

theorem place_round (cut : Cut) (pattern : List UInt8) (deadline : Nat) (s : Stream) :
    round cut pattern (o.clock + deadline) (s.renumber o.handedOut) (o.place b) =
      (round cut pattern deadline s b).map (Stream.renumber o.handedOut) o.place := by
  obtain ⟨name, device, writeTimeout, pending⟩ := s
  unfold round
  have hclock : (o.place b).clock = o.clock + b.clock := rfl
  by_cases hup : deadline ≤ b.clock
  · rw [if_pos hup, if_pos (by omega)]
    cases hcut : cut pending <;> simp only [Stream.renumber, hcut] <;> rfl
  · rw [if_neg hup, if_neg (by omega)]
    cases device with
    | none => rfl
    | some d =>
      simp only [Stream.renumber, Option.map_some, hclock, Nat.add_sub_add_left,
        place_setDeviceTimeout]
      rcases setDeviceTimeout (min (deadline - b.clock) pollInterval) d b with ⟨stop | _, d', b'⟩
      · rfl
      · simp only [Prod.map, id_eq, read_renumber]
        rcases d'.read with ⟨received, elapsed, d''⟩
        simp only [place_wait, o.place_traffic _ (isTraffic_read _)]
        cases received with
        | nothingInTime => rfl
        | failure f =>
          simp only
          split <;> rfl
        | bytes chunk =>
          cases chunk with
          | nil => rfl
          | cons byte later =>
            simp only [place_report]
            exact o.place_settle _ cut pattern
              { name, device := some d'', writeTimeout, pending := pending ++ byte :: later }

theorem place_await (cut : Cut) (pattern : List UInt8) (deadline : Nat) (s : Stream) :
    await cut pattern (o.clock + deadline) (s.renumber o.handedOut) (o.place b) =
      Prod.map id (Prod.map (Stream.renumber o.handedOut) o.place)
        (await cut pattern deadline s b) := by
  induction s, b using await.induct cut pattern deadline with
  | case1 s b result s' b' hround =>
    have hplaced := o.place_round b cut pattern deadline s
    rw [hround] at hplaced
    rw [await_of_done hround, await_of_done hplaced]
    rfl
  | case2 s b s' b' hround ih =>
    have hplaced := o.place_round b cut pattern deadline s
    rw [hround] at hplaced
    rw [await_of_again hround, await_of_again hplaced]
    exact ih

theorem place_readUntil (text : String) (ms : Nat) (s : Stream) :
    readUntil text ms (s.renumber o.handedOut) (o.place b) =
      Prod.map id (Prod.map (Stream.renumber o.handedOut) o.place) (readUntil text ms s b) := by
  have hread : readBytes (Text.toBytes text) ms (s.renumber o.handedOut) (o.place b) =
      Prod.map id (Prod.map (Stream.renumber o.handedOut) o.place)
        (readBytes (Text.toBytes text) ms s b) := by
    unfold readBytes
    cases hmatch : Text.takeThrough (Text.toBytes text) s.pending with
    | some found =>
      simp only [Stream.renumber, hmatch]
      rfl
    | none =>
      have hclock : (o.place b).clock + ms = o.clock + (b.clock + ms) := Nat.add_assoc _ _ _
      have hplaced : (s.renumber o.handedOut).pending = s.pending := rfl
      simp only [hplaced, hmatch, hclock, place_await]
  unfold readUntil
  rw [hread]
  rfl

/-- What a session does later, it does as it would have done it from the beginning. -/
theorem carries_place : Carries (Stream.renumber o.handedOut) o.place where
  report b event := o.place_report b event
  wait b ms := o.place_wait b ms
  isOpen s := by
    unfold Transport.isOpen
    exact Option.isSome_map ..
  openPort port baud responseTimeout openTimeout b :=
    o.place_openPort b port baud responseTimeout openTimeout
  close s b := o.place_close b s
  setTimeout _ _ _ := rfl
  write data s b := o.place_write b data s
  readUntil text ms s b := o.place_readUntil b text ms s
  discard s b := congrArg Prod.snd (o.place_close b s)

end Origin

end Serial

end SerialScript
