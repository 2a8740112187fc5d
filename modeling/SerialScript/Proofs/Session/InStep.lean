import SerialScript.Proofs.Closing
import SerialScript.Proofs.Session.Invariant

/-!
What the memory shows of a session. Whether a port is open is kept three times, in the session, in
its stream and in the memory, and the response timeout twice. Every operation changes these
together, so the memory alone tells how the session stands.
-/

namespace SerialScript

namespace Memory

variable {setUp : Memory} {timeout : Nat} {b : Bench Memory}

/-- The memory, which was set up like this, has opened and closed what the session has. -/
structure InStep (setUp : Memory) (timeout : Nat) (stream : Option Stream) (b : Bench Memory) :
    Prop where
  refusal : b.world.refusal = setUp.refusal
  opensClosed : b.world.opensClosed = setUp.opensClosed
  isOpen : b.world.isOpen = stream.any Stream.isOpen
  timeout : b.world.isOpen = true → b.world.timeout = some timeout
  balance : setUp.opensClosed = false →
    b.world.opened.size = b.world.closes + b.world.isOpen.toNat
  barred : setUp.opensClosed = true ∨ setUp.refusal ≠ none →
    b.world.isOpen = false ∧ b.world.closes = 0

theorem InStep.close {stream : Stream} (h : InStep setUp timeout (some stream) b) :
    InStep setUp timeout (some (Memory.close stream b).1) (Memory.close stream b).2 := by
  unfold Memory.close
  by_cases hopen : stream.isOpen = true
  · have hworld : b.world.isOpen = true := h.isOpen.trans hopen
    rw [if_pos hopen]
    refine ⟨h.refusal, h.opensClosed, rfl, nofun, ?_, ?_⟩
    · intro hready
      have hbalance := h.balance hready
      rw [hworld] at hbalance
      exact hbalance
    · intro hbarred
      exact absurd hworld (Bool.eq_false_iff.1 (h.barred hbarred).1)
  · rw [if_neg hopen]
    exact h

theorem InStep.giveUp {stream : Stream} (h : InStep setUp timeout (some stream) b)
    (hshut : stream.isOpen = false) : InStep setUp timeout none b :=
  ⟨h.refusal, h.opensClosed, h.isOpen.trans hshut, h.timeout, h.balance, h.barred⟩

theorem InStep.openPort (h : InStep setUp timeout none b) (port : String) (baud : UInt32)
    {b' : Bench Memory} {stream : Stream}
    (hport : Memory.openPort port baud timeout openTimeout b = (.ok stream, b')) :
    InStep setUp timeout (some stream) b' := by
  have hshut : b.world.isOpen = false := h.isOpen
  unfold Memory.openPort at hport
  cases hrefusal : b.world.refusal with
  | some reason =>
    rw [hrefusal] at hport
    cases hport
  | none =>
    rw [hrefusal] at hport
    cases hport
    refine ⟨h.refusal, h.opensClosed, rfl, fun _ => rfl, ?_, ?_⟩
    · intro hready
      have hbalance := h.balance hready
      rw [hshut] at hbalance
      rw [Array.size_push, hbalance, h.opensClosed, hready]
      rfl
    · intro hbarred
      have hgranted : setUp.refusal = none := h.refusal.symm.trans hrefusal
      have hclosed := hbarred.resolve_right (absurd hgranted)
      refine ⟨?_, (h.barred hbarred).2⟩
      rw [h.opensClosed, hclosed]
      rfl

theorem invariant_inStep : Invariant (InStep setUp) where
  report _ h := ⟨h.refusal, h.opensClosed, h.isOpen, h.timeout, h.balance, h.barred⟩
  wait _ h := ⟨h.refusal, h.opensClosed, h.isOpen, h.timeout, h.balance, h.barred⟩
  retime {_ b} _ h := by
    have hshut : b.world.isOpen = false := h.isOpen
    exact ⟨h.refusal, h.opensClosed, hshut, fun hopen => absurd hopen (Bool.eq_false_iff.1 hshut),
      h.balance, h.barred⟩
  setTimeout _ h := ⟨h.refusal, h.opensClosed, h.isOpen, fun _ => rfl, h.balance, h.barred⟩
  write data h := by
    simp only [Transport.write, Memory.write]
    split
    · exact ⟨h.refusal, h.opensClosed, h.isOpen, h.timeout, h.balance, h.barred⟩
    · exact h
  readUntil text ms h := by
    simp only [Transport.readUntil, Memory.readUntil]
    split
    · split
      · exact ⟨h.refusal, h.opensClosed, h.isOpen, h.timeout, h.balance, h.barred⟩
      · exact ⟨h.refusal, h.opensClosed, h.isOpen, h.timeout, h.balance, h.barred⟩
    · exact h
  close h := h.close
  giveUp {_ stream b} h := h.close.giveUp (Memory.isOpen_close stream b)
  refused port baud h hport := by
    simp only [Transport.openPort, Memory.openPort] at hport
    split at hport
    · cases hport
      exact h
    · cases hport
  opened port baud h hport _ := h.openPort port baud hport
  openedClosed port baud h hport hshut := (h.openPort port baud hport).giveUp hshut

end Memory

namespace Session

/-- How a session stands, read off a memory that was set up like this. -/
structure ShownBy (setUp : Memory) (s : Session Memory.Stream Memory) : Prop where
  isConnected : s.isConnected = s.bench.world.isOpen
  timeout : s.isConnected = true → s.bench.world.timeout = some s.responseTimeout
  balance : setUp.opensClosed = false →
    s.bench.world.opened.size = s.bench.world.closes + s.isConnected.toNat
  barred : setUp.opensClosed = true ∨ setUp.refusal ≠ none →
    s.isConnected = false ∧ s.bench.world.closes = 0

theorem shownBy_of_inStep {setUp : Memory} {s : Session Memory.Stream Memory}
    (h : s.Has (Memory.InStep setUp)) : s.ShownBy setUp := by
  have hconnected : s.isConnected = s.bench.world.isOpen := by
    rw [h.isOpen]
    unfold isConnected
    cases s.stream <;> rfl
  refine ⟨hconnected, ?_, ?_, ?_⟩ <;> rw [hconnected]
  · exact h.timeout
  · exact h.balance
  · exact h.barred

/-- However the memory is set up and whatever has been done with a session, with success or not, the
memory shows how it stands. Only to drop a session unclosed goes unnoticed by the memory. -/
theorem operateAll_shownBy (replies : List (List UInt8 × String)) (inbound : String)
    (refusal : Option String) (opensClosed : Bool) (clock : Nat) (log : Array Event)
    (ops : List Operation) (hkept : .drop ∉ ops) :
    let setUp : Memory := { replies, inbound, refusal, opensClosed }
    let s : Session Memory.Stream Memory := { bench := { world := setUp, clock, log } }
    (s.operateAll ops).ShownBy setUp := by
  intro setUp s
  apply shownBy_of_inStep
  apply Memory.invariant_inStep.operateAll (fun hdrop => absurd hdrop hkept)
  exact ⟨rfl, rfl, rfl, nofun, fun _ => rfl, fun _ => ⟨rfl, rfl⟩⟩

def handling : List Operation :=
  [.perform .cfgResTimeout ["50"], .connect "p" 9600, .closeStream, .connect "q" 9600,
    .runScript "CMD AT\nRES OK\nCFGRESTIMEOUT 70\nRES never"]

theorem operateAll_shownBy_of_handling :
    .drop ∉ handling ∧
      let setUp : Memory := { replies := [(Text.toBytes "AT\r", "OK")] }
      let s : Session Memory.Stream Memory := { bench := { world := setUp } }
      (s.operateAll handling).ShownBy setUp ∧
        (s.operateAll handling).bench.world.timeout = some 70 ∧
        (s.operateAll handling).bench.world.opened.size = 2 ∧
        (s.operateAll handling).bench.world.closes = 1 := by
  have hkept : .drop ∉ handling := by simp [handling]
  refine ⟨hkept,
    operateAll_shownBy [(Text.toBytes "AT\r", "OK")] "" none false 0 #[] handling hkept, ?_⟩
  decide +kernel

end Session

end SerialScript
