import Mathlib.Data.List.Forall2
import SerialScript.Proofs.Serial.Prompt
import SerialScript.Proofs.Text.Utf8
import SerialScript.Transport.Memory

namespace SerialScript

structure Wait (S W : Type) where
  result : Outcome String
  elapsed : Nat
  stream : S
  bench : Bench W

def waits {S W : Type} [Transport S W] : List (String × Nat) → S → Bench W → List (Wait S W)
  | [], _, _ => []
  | (text, ms) :: later, s, b =>
    let (result, s', b') := Transport.readUntil text ms s b
    ⟨result, b'.clock - b.clock, s', b'⟩ :: waits later s' b'

namespace Rehearsal

open Backlog (capacity)

/-- What is pending on the line and what is to come are the inbound text in memory. -/
def InStep (s : Serial.Stream) (m : Bench Memory) : Prop :=
  ∃ d, s.device = some d ∧ d.Prompt ∧
    s.pending ++ d.undelivered = Text.toBytes m.world.inbound ∧
    (Text.toBytes m.world.inbound).length ≤ capacity

structure Agrees (serial : Wait Serial.Stream Serial.World) (memory : Wait Memory.Stream Memory) :
    Prop where
  result : ∃ text, serial.result = .ok text ∧ memory.result = .ok text
  elapsed : serial.elapsed = memory.elapsed
  inbound : ∃ d, serial.stream.device = some d ∧
    serial.stream.pending ++ d.undelivered = Text.toBytes memory.bench.world.inbound

theorem toBytes_ofList (text : List Char) :
    Text.toBytes (String.ofList text) = Text.bytes text := by
  rw [Text.toBytes, String.toList_ofList]

theorem memory_readUntil (text : String) (ms : Nat) (m : Bench Memory) :
    (∃ found rest, Text.takeThrough text.toList m.world.inbound.toList = some (found, rest) ∧
      Memory.readUntil text ms ⟨true⟩ m = (.ok (String.ofList found), ⟨true⟩,
        { m with world := { m.world with inbound := String.ofList rest } })) ∨
    (Text.takeThrough text.toList m.world.inbound.toList = none ∧
      Memory.readUntil text ms ⟨true⟩ m = (.ok "", ⟨true⟩, m.wait ms)) := by
  unfold Memory.readUntil
  rw [if_pos rfl]
  cases hm : Text.takeThrough text.toList m.world.inbound.toList with
  | some cut => exact .inl ⟨cut.1, cut.2, rfl, rfl⟩
  | none => exact .inr ⟨rfl, rfl⟩

theorem readUntil_inStep (text : String) {ms : Nat} {s : Serial.Stream} {m : Bench Memory}
    (b : Bench Serial.World) (h : InStep s m) (hms : 1 ≤ ms) :
    ∃ found elapsed s' b' m',
      Serial.readUntil text ms s b = (.ok found, s', b') ∧
      Memory.readUntil text ms ⟨true⟩ m = (.ok found, ⟨true⟩, m') ∧
      b'.clock = b.clock + elapsed ∧ m'.clock = m.clock + elapsed ∧ InStep s' m' := by
  obtain ⟨d, hd, hprompt, htext, hroom⟩ := h
  have hserved := Serial.readBytes_prompt (Text.toBytes text) b hd hprompt hms (by rwa [htext])
  rw [htext] at hserved
  have hsearch := Text.takeThrough_bytes text.toList m.world.inbound.toList
  unfold Serial.readUntil
  generalize hserial : Serial.readBytes (Text.toBytes text) ms s b = outcome at hserved
  rcases memory_readUntil text ms m with ⟨found, rest, hm, hmem⟩ | ⟨hm, hmem⟩
  · rw [hm, Option.map_some] at hsearch
    have hcut := Text.append_of_takeThrough hm
    cases hserved with
    | missing hmissing => cases hsearch.symm.trans hmissing
    | @found bytes pending d' b' hfound hprompt' hclock =>
      obtain ⟨hbytes, hrest⟩ := Prod.mk.inj (Option.some.inj (hsearch.symm.trans hfound))
      refine ⟨String.ofList found, 0, { s with device := some d', pending }, b',
        { m with world := { m.world with inbound := String.ofList rest } }, ?_, hmem, hclock, rfl,
        d', rfl, hprompt', ?_, ?_⟩
      · rw [← hbytes]
        simp only [Except.map, Serial.Found.text, Text.decodeLossy_bytes]
      · rw [toBytes_ofList, hrest]
      · rw [toBytes_ofList]
        rw [Text.toBytes, ← hcut, Text.bytes_append, List.length_append] at hroom
        omega
  · rw [hm, Option.map_none] at hsearch
    cases hserved with
    | found hfound => cases hsearch.symm.trans hfound
    | @missing d' b' _ hprompt' hempty hclock =>
      refine ⟨_, ms, _, _, _, rfl, hmem, hclock, rfl, d', rfl, hprompt', ?_, hroom⟩
      rw [hempty, List.append_nil]
      rfl

theorem waits_inStep {s : Serial.Stream} {m : Bench Memory} (b : Bench Serial.World)
    (calls : List (String × Nat)) (h : InStep s m) (hcalls : ∀ call ∈ calls, 1 ≤ call.2) :
    List.Forall₂ Agrees (waits calls s b) (waits calls (⟨true⟩ : Memory.Stream) m) := by
  induction calls generalizing s b m with
  | nil => exact .nil
  | cons call later ih =>
    obtain ⟨text, ms⟩ := call
    obtain ⟨found, elapsed, s', b', m', hserial, hmem, hb, hm, h'⟩ :=
      readUntil_inStep text b h (hcalls _ List.mem_cons_self)
    have hlater := ih b' h' fun call hin => hcalls call (List.mem_cons_of_mem _ hin)
    obtain ⟨d, hd, _, htext, _⟩ := h'
    simp only [waits, Transport.readUntil, hserial, hmem]
    refine .cons ⟨⟨found, rfl, rfl⟩, ?_, d, hd, htext⟩ hlater
    simp only
    omega

/-- On a fresh line that delivers a text in any pieces, and in memory with that text inbound, every
sequence of waits yields the same strings after the same times, and what is pending on the line with
what is still to come is always the text left in memory. -/
theorem serial_agrees_with_memory (inbound : String)
    (hsize : (Text.toBytes inbound).length ≤ 10000) (pieces : List (List UInt8))
    (hpieces : pieces.flatten = Text.toBytes inbound) (d : Device) (hheld : d.held = [])
    (hreadings : d.readings = pieces.map fun piece => { content := .ok piece })
    (hsettings : ∀ outcome ∈ d.settings, outcome = none) (name : String) (writeTimeout : Nat)
    (b : Bench Serial.World) (m : Bench Memory) (hm : m.world.inbound = inbound)
    (calls : List (String × Nat)) (hcalls : ∀ call ∈ calls, 1 ≤ call.2) :
    List.Forall₂ Agrees
      (waits calls ({ name, device := some d, writeTimeout } : Serial.Stream) b)
      (waits calls ({ isOpen := true } : Memory.Stream) m) := by
  subst hm
  refine waits_inStep b calls ⟨d, rfl, ⟨?_, hsettings⟩, ?_, hsize⟩ hcalls
  · intro r hr
    rw [hreadings, List.mem_map] at hr
    obtain ⟨piece, _, rfl⟩ := hr
    exact ⟨rfl, piece, rfl⟩
  · rw [Device.undelivered, hheld, hreadings, ← hpieces, List.flatMap_map]
    exact List.flatMap_id

/-- `aéOK`, cut inside its second character, with an empty reading between. -/
def cutPieces : List (List UInt8) := [[0x61, 0xC3], [], [0xA9, 0x4F, 0x4B]]

def cutDevice : Device where
  id := 0
  readings := cutPieces.map fun piece => { content := .ok piece }
  timeout := 1000

theorem serial_agrees_with_memory_of_cut :
    (Text.toBytes "aéOK").length ≤ 10000 ∧ cutPieces.flatten = Text.toBytes "aéOK" ∧
      (∀ outcome ∈ cutDevice.settings, outcome = none) ∧
      (∀ call ∈ [("é", 50), ("K", 20), ("a", 30)], 1 ≤ call.2) ∧
      List.Forall₂ Agrees
        (waits [("é", 50), ("K", 20), ("a", 30)]
          ({ name := "p", device := some cutDevice, writeTimeout := 1000 } : Serial.Stream)
          { world := {} })
        (waits [("é", 50), ("K", 20), ("a", 30)] ({ isOpen := true } : Memory.Stream)
          { world := { inbound := "aéOK" } }) := by
  have hsize : (Text.toBytes "aéOK").length ≤ 10000 := by decide
  have hpieces : cutPieces.flatten = Text.toBytes "aéOK" := by decide
  have hsettings : ∀ outcome ∈ cutDevice.settings, outcome = none := by decide
  have hcalls : ∀ call ∈ [("é", 50), ("K", 20), ("a", 30)], 1 ≤ call.2 := by decide
  exact ⟨hsize, hpieces, hsettings, hcalls,
    serial_agrees_with_memory "aéOK" hsize cutPieces hpieces cutDevice rfl rfl hsettings "p" 1000
      { world := {} } { world := { inbound := "aéOK" } } rfl _ hcalls⟩

end Rehearsal

end SerialScript
