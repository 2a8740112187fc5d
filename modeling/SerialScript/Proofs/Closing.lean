import Mathlib.Data.List.Infix
import SerialScript.Proofs.Text.Occurrence
import SerialScript.Transport.Memory
import SerialScript.Transport.Serial

/-!
Closed streams. In memory a closed stream refuses every write and every wait, and nothing comes of
them. On a line it has given up its device, but not what is pending, and a wait looks there before
it looks for the device, and at the time before it does. So it still hands over what it has
received, and a wait without time ends as it does on an open stream; only the other waits are
refused.
-/

namespace SerialScript

inductive StreamUse where
  | write (data : List UInt8)
  | readUntil (text : String) (ms : Nat)
  | setTimeout (ms : Nat)
  | close

section Any

variable {S W : Type} [Transport S W]

/-- What becomes of a stream and of the bench by a call, whatever is answered. -/
def StreamUse.make (s : S) (b : Bench W) : StreamUse → S × Bench W
  | .write data => (Transport.write data s b).2
  | .readUntil text ms => (Transport.readUntil text ms s b).2
  | .setTimeout ms => Transport.setTimeout ms s b
  | .close => Transport.close s b

def useAll (s : S) (b : Bench W) (uses : List StreamUse) : S × Bench W :=
  uses.foldl (fun (s, b) use => use.make s b) (s, b)

/-- A property of streams that every call keeps is kept by all of them. -/
theorem useAll_induction {P : S → Prop}
    (hmake : ∀ s (b : Bench W) use, P s → P (StreamUse.make s b use).1) {s : S} {b : Bench W}
    (hs : P s) (uses : List StreamUse) : P (useAll s b uses).1 := by
  induction uses generalizing s b with
  | nil => exact hs
  | cons use later ih => exact ih (hmake s b use hs)

/-- What closing brings about and every later call keeps holds after a close, whatever was done
before it and is done after it. -/
theorem useAll_of_close {P : S → Prop}
    (hclose : ∀ s (b : Bench W), P (Transport.close s b).1)
    (hmake : ∀ s (b : Bench W) use, P s → P (StreamUse.make s b use).1) (s : S) (b : Bench W)
    (earlier later : List StreamUse) : P (useAll s b (earlier ++ .close :: later)).1 := by
  unfold useAll
  rw [List.foldl_append]
  exact useAll_induction hmake (hclose _ _) later

structure Shut (s : S) : Prop where
  isOpen : Transport.isOpen s = false
  close : ∀ b : Bench W, Transport.close s b = (s, b)
  write : ∀ data (b : Bench W), ∃ cause, Transport.write data s b = (.fail cause, s, b)
  readUntil : ∀ text ms (b : Bench W), ∃ cause,
    Transport.readUntil text ms s b = (.fail cause, s, b)

end Any

namespace Memory

theorem shut_of_isOpen {s : Stream} (h : s.isOpen = false) : Shut s where
  isOpen := h
  close b := by simp [Transport.close, Memory.close, h]
  write data b := ⟨.memoryStreamClosed, by simp [Transport.write, Memory.write, h]⟩
  readUntil text ms b := ⟨.memoryStreamClosed, by simp [Transport.readUntil, Memory.readUntil, h]⟩

theorem isOpen_close (s : Stream) (b : Bench Memory) : (close s b).1.isOpen = false := by
  unfold close
  cases h : s.isOpen with
  | true => rfl
  | false => exact h

theorem isOpen_make {s : Stream} (h : s.isOpen = false) (b : Bench Memory) (use : StreamUse) :
    (use.make s b).1.isOpen = false := by
  have hshut := shut_of_isOpen h
  cases use with
  | write data =>
    obtain ⟨cause, hwrite⟩ := hshut.write data b
    rw [StreamUse.make, hwrite]
    exact h
  | readUntil text ms =>
    obtain ⟨cause, hread⟩ := hshut.readUntil text ms b
    rw [StreamUse.make, hread]
    exact h
  | setTimeout ms => exact h
  | close => exact isOpen_close s b

end Memory

namespace Serial

/-- A wait on a stream without a device: what is pending is looked at first, then the time, and
only then does the device lack. -/
theorem readUntil_of_closed {s : Stream} (h : s.device = none) (text : String) (ms : Nat)
    (b : Bench World) :
    readUntil text ms s b =
      match Text.takeThrough (Text.toBytes text) s.pending with
      | some (found, rest) => (.ok (Text.decodeLossy found), { s with pending := rest }, b)
      | none =>
        if ms = 0 then
          match Backlog.trim (Text.toBytes text) s.pending with
          | some kept => (.ok "", { s with pending := kept }, b)
          | none => (.error .broken, s, b)
        else (.fail (.portClosed s.name), s, b) := by
  unfold readUntil readBytes
  cases Text.takeThrough (Text.toBytes text) s.pending with
  | some cut => rfl
  | none =>
    simp only
    by_cases hms : ms = 0
    · have hup : b.clock + ms ≤ b.clock := by omega
      rw [if_pos hms]
      cases hcut : Backlog.trim (Text.toBytes text) s.pending with
      | some kept =>
        have hround : round (Backlog.trim (Text.toBytes text)) (Text.toBytes text)
            (b.clock + ms) s b = .done (.ok none) { s with pending := kept } b := by
          simp only [round, if_pos hup, hcut]
        rw [await_of_done hround]
        rfl
      | none =>
        have hround : round (Backlog.trim (Text.toBytes text)) (Text.toBytes text)
            (b.clock + ms) s b = .done (.error .broken) s b := by
          simp only [round, if_pos hup, hcut]
        rw [await_of_done hround]
        rfl
    · have hlater : ¬ b.clock + ms ≤ b.clock := by omega
      have hround : round (Backlog.trim (Text.toBytes text)) (Text.toBytes text)
          (b.clock + ms) s b = .done (.fail (.portClosed s.name)) s b := by
        simp only [round, if_neg hlater, h]
      rw [if_neg hms, await_of_done hround]
      rfl

theorem keeps_of_closed {s : Stream} (h : s.device = none) (text : String) (ms : Nat)
    (b : Bench World) :
    (readUntil text ms s b).2.1.device = none ∧ (readUntil text ms s b).2.2 = b := by
  rw [readUntil_of_closed h]
  split
  · exact ⟨h, rfl⟩
  · split
    · split <;> exact ⟨h, rfl⟩
    · exact ⟨h, rfl⟩

/-- What is left of a stream that is closed. It refuses writes, and of waits those that have time
and wait for what is not pending. -/
structure GivenUp (s : Stream) : Prop where
  isOpen : s.isOpen = false
  close : ∀ b, close s b = (s, b)
  write : ∀ data b, write data s b = (.fail (.portClosed s.name), s, b)
  noCall : ∀ text ms b, (readUntil text ms s b).2.2 = b
  refused : ∀ text ms b, (∃ cause, readUntil text ms s b = (.fail cause, s, b)) ↔
    ¬ Text.toBytes text <:+: s.pending ∧ 0 < ms
  handsOver : ∀ text ms b, Text.toBytes text <:+: s.pending →
    ∃ found rest, s.pending = found ++ rest ∧ Text.toBytes text <:+ found ∧
      readUntil text ms s b = (.ok (Text.decodeLossy found), { s with pending := rest }, b)
  timeUp : ∀ text b, ¬ Text.toBytes text <:+: s.pending → s.pending.length ≤ Backlog.capacity →
    readUntil text 0 s b = (.ok "", s, b)

theorem refused_of_closed {s : Stream} (h : s.device = none) (text : String) (ms : Nat)
    (b : Bench World) :
    (∃ cause, readUntil text ms s b = (.fail cause, s, b)) ↔
      ¬ Text.toBytes text <:+: s.pending ∧ 0 < ms := by
  rw [readUntil_of_closed h, ← Text.takeThrough_eq_none_iff]
  cases hm : Text.takeThrough (Text.toBytes text) s.pending with
  | some cut => simp [Outcome.fail]
  | none =>
    by_cases hms : ms = 0
    · cases hcut : Backlog.trim (Text.toBytes text) s.pending <;> simp [hms, Outcome.fail]
    · simp only [if_neg hms]
      exact iff_of_true ⟨_, rfl⟩ ⟨trivial, Nat.pos_of_ne_zero hms⟩

theorem givenUp_of_device {s : Stream} (h : s.device = none) : GivenUp s where
  isOpen := by simp [Stream.isOpen, h]
  close b := by simp [Serial.close, h]
  write data b := by simp [Serial.write, h]
  noCall text ms b := (keeps_of_closed h text ms b).2
  refused := refused_of_closed h
  handsOver text ms b hin := by
    cases hm : Text.takeThrough (Text.toBytes text) s.pending with
    | none => exact absurd hin (Text.takeThrough_eq_none_iff.1 hm)
    | some cut =>
      obtain ⟨found, rest⟩ := cut
      obtain ⟨hcut, hend⟩ := Text.takeThrough_eq_some_iff.1 hm
      refine ⟨found, rest, hcut.symm, hend.isSuffix, ?_⟩
      rw [readUntil_of_closed h, hm]
  timeUp text b hnot hroom := by
    rw [readUntil_of_closed h, Text.takeThrough_eq_none_iff.2 hnot]
    simp [Backlog.trim, hroom]

theorem device_close (s : Stream) (b : Bench World) : (close s b).1.device = none := by
  unfold close
  cases h : s.device with
  | none => exact h
  | some d => rfl

theorem device_make {s : Stream} (h : s.device = none) (b : Bench World) (use : StreamUse) :
    (use.make s b).1.device = none := by
  cases use with
  | write data =>
    simp only [StreamUse.make, Transport.write, (givenUp_of_device h).write]
    exact h
  | readUntil text ms => exact (keeps_of_closed h text ms b).1
  | setTimeout ms => exact h
  | close => exact device_close s b

end Serial

/-- After a close, whatever was done with the stream before it and is done after it, a stream in
memory refuses everything, and one on a line everything but the waits that it can end from what is
pending or at once. A closed stream on a line makes no call on any device. -/
theorem closed_streams_refuse (earlier later : List StreamUse) :
    (∀ (s : Memory.Stream) (b : Bench Memory),
      Shut (useAll s b (earlier ++ .close :: later)).1) ∧
    (∀ (s : Serial.Stream) (b : Bench Serial.World),
      Serial.GivenUp (useAll s b (earlier ++ .close :: later)).1) := by
  constructor
  · intro s b
    apply Memory.shut_of_isOpen
    exact useAll_of_close (P := fun s : Memory.Stream => s.isOpen = false) Memory.isOpen_close
      (fun s b use h => Memory.isOpen_make h b use) s b earlier later
  · intro s b
    apply Serial.givenUp_of_device
    exact useAll_of_close (P := fun s : Serial.Stream => s.device = none) Serial.device_close
      (fun s b use h => Serial.device_make h b use) s b earlier later

namespace Serial

def prompting : Device where
  id := 0
  readings := [{ content := .ok [0x61, 0x62, 0x4F, 0x4B] }]
  timeout := 1000

def closedEarly : Stream × Bench World :=
  useAll { name := "p", device := some prompting, writeTimeout := 1000 } { world := {} }
    [.readUntil "ab" 100, .close]

/-- What a wait has left pending is handed over by a later one although the stream has been closed
between them. -/
theorem closed_stream_hands_over :
    closedEarly.1.isOpen = false ∧
      (readUntil "OK" 100 closedEarly.1 closedEarly.2).1 = .ok "OK" ∧
      (readUntil "OK" 100 closedEarly.1 closedEarly.2).2.1.pending ≠ closedEarly.1.pending := by
  decide +kernel

end Serial

end SerialScript
