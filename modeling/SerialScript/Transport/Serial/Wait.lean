import SerialScript.Text.Occurrence
import SerialScript.Transport.Serial.Basic

/-!
Waiting on a serial stream, round by round. Received bytes are matched as bytes: a character cut
in two by a read is matched all the same. A wait ends because each of its rounds uses up time or
something of the device; it is not counted in rounds.
-/

namespace SerialScript.Serial

def pollInterval : Nat := 20

/-- The bytes found at the end of a wait, or nothing if the time ran out. -/
abbrev Found := Option (List UInt8)

inductive Round where
  | again (s : Stream) (b : Bench World)
  | done (result : Outcome Found) (s : Stream) (b : Bench World)

/-- A way to cut down what is pending when it has grown too long. -/
abbrev Cut := List UInt8 → Option (List UInt8)

/-- Looks for the pattern in what is pending after a read. -/
def settle (cut : Cut) (pattern : List UInt8) (s : Stream) (b : Bench World) : Round :=
  match Text.takeThrough pattern s.pending with
  | some (found, rest) => .done (.ok (some found)) { s with pending := rest } b
  | none =>
    match cut s.pending with
    | none => .done (.error .broken) s b
    | some kept => .again { s with pending := kept } b

def chunkOf : Device.Received → List UInt8
  | .bytes chunk => chunk
  | _ => []

/-- One round of a wait: a read that waits until the deadline, but no longer than the poll
interval. At the deadline nothing more is read. -/
def round (cut : Cut) (pattern : List UInt8) (deadline : Nat) (s : Stream) (b : Bench World) :
    Round :=
  if deadline ≤ b.clock then
    match cut s.pending with
    | none => .done (.error .broken) s b
    | some kept => .done (.ok none) { s with pending := kept } b
  else
    match s.device with
    | none => .done (.fail (.portClosed s.name)) s b
    | some d =>
      match setDeviceTimeout (min (deadline - b.clock) pollInterval) d b with
      | (.error stop, d, b) => .done (.error stop) { s with device := some d } b
      | (.ok (), d, b) =>
        let (received, elapsed, d) := d.read
        let s := { s with device := some d }
        let b := record (b.wait elapsed) (.read (chunkOf received))
        match received with
        | .nothingInTime => .again s b
        | .failure f =>
          if f.kind = .timedOut then .again s b
          else .done (.fail (.during (.readingFrom s.name) (.reported f.message))) s b
        | .bytes [] => .again s b
        | .bytes chunk =>
          settle cut pattern { s with pending := s.pending ++ chunk }
            (b.report (traceBytes s.name "read" chunk))

/-- What bounds the rounds of a wait: the time left and what the device has still to deliver. -/
def budget (deadline : Nat) (s : Stream) (b : Bench World) : Nat :=
  (deadline - b.clock) + (s.device.map Device.load).getD 0

theorem device_settle {cut : Cut} {pattern : List UInt8} {s s' : Stream} {b b' : Bench World}
    (h : settle cut pattern s b = .again s' b') : s'.device = s.device ∧ b'.clock = b.clock := by
  unfold settle at h
  split at h
  · cases h
  · split at h
    · cases h
    · cases h
      exact ⟨rfl, rfl⟩

theorem setDeviceTimeout_ok {ms : Nat} {d d' : Device} {b b' : Bench World}
    (h : setDeviceTimeout ms d b = (.ok (), d', b')) :
    d'.timeout = ms ∧ d'.load = d.load ∧ b'.clock = b.clock := by
  unfold setDeviceTimeout Device.setTimeout at h
  split at h
  · cases h
  · rename_i hs
    split at hs <;> cases hs <;> cases h <;> exact ⟨rfl, rfl, rfl⟩

/-- A round that is not the last uses up time or something of the device. -/
theorem budget_round {cut : Cut} {pattern : List UInt8} {deadline : Nat} {s s' : Stream}
    {b b' : Bench World} (h : round cut pattern deadline s b = .again s' b') :
    budget deadline s' b' < budget deadline s b := by
  unfold round at h
  split at h
  · split at h <;> cases h
  · rename_i hlt
    split at h
    · cases h
    · rename_i d hd
      split at h
      · cases h
      · rename_i d₁ b₁ hset
        obtain ⟨ht, hl, hc⟩ := setDeviceTimeout_ok hset
        have hp := d₁.read_progress
        rw [ht, hl] at hp
        have after : s'.device = some d₁.read.2.2 ∧ b'.clock = b₁.clock + d₁.read.2.1 := by
          simp only at h
          split at h
          · cases h
            exact ⟨rfl, rfl⟩
          · split at h
            · cases h
              exact ⟨rfl, rfl⟩
            · cases h
          · cases h
            exact ⟨rfl, rfl⟩
          · exact device_settle h
        simp only [budget, after, hd, hc, Option.map_some, Option.getD_some]
        have : 0 < pollInterval := by decide
        rcases hp with ⟨_, he, hn⟩ | hn <;> omega

def await (cut : Cut) (pattern : List UInt8) (deadline : Nat) (s : Stream) (b : Bench World) :
    Outcome Found × Stream × Bench World :=
  match _h : round cut pattern deadline s b with
  | .done result s b => (result, s, b)
  | .again s' b' => await cut pattern deadline s' b'
termination_by budget deadline s b
decreasing_by exact budget_round _h

theorem await_of_done {cut : Cut} {pattern : List UInt8} {deadline : Nat} {s s' : Stream}
    {b b' : Bench World} {result : Outcome Found}
    (h : round cut pattern deadline s b = .done result s' b') :
    await cut pattern deadline s b = (result, s', b') := by
  rw [await]
  split <;> rename_i hr <;> cases h.symm.trans hr
  rfl

theorem await_of_again {cut : Cut} {pattern : List UInt8} {deadline : Nat} {s s' : Stream}
    {b b' : Bench World} (h : round cut pattern deadline s b = .again s' b') :
    await cut pattern deadline s b = await cut pattern deadline s' b' := by
  rw [await]
  split <;> rename_i hr <;> cases h.symm.trans hr
  rfl

end SerialScript.Serial
