import Mathlib.Algebra.GroupWithZero.Nat
import SerialScript.Proofs.Serial.Timetable

namespace SerialScript

/-- Held bytes as reads get them, one portion after another, each with what is held behind it. -/
def portions : List UInt8 → List (List UInt8 × List UInt8)
  | [] => []
  | b :: held =>
    ((b :: held).take Device.readSize, (b :: held).drop Device.readSize) ::
      portions ((b :: held).drop Device.readSize)
termination_by held => held.length
decreasing_by
  simp only [List.length_drop, List.length_cons, Device.readSize]
  omega

/-- What the reads that get at a reading receive, and what the device holds back after each. There is
one at least, even if the reading is empty or a failure. -/
def Reading.reads (r : Reading) : List (Device.Received × List UInt8) :=
  (r.received, r.remainder) :: (portions r.remainder).map fun (chunk, held) => (.bytes chunk, held)

/-- One read that is answered: how long after the start it is due, what is received, and what the
device has still to bring then. -/
structure Delivery where
  due : Nat
  received : Device.Received
  left : Supply

namespace Supply

/-- How long it takes until the reading at this index is due: the delays up to its own, summed. -/
def due (supply : Supply) (i : Nat) : Nat :=
  ((supply.readings.take (i + 1)).map Reading.delay).sum

/-- All reads that a supply answers, in order: first what is held back already, at once, and then
each reading when it is due. -/
def deliveries (supply : Supply) : List Delivery :=
  ((portions supply.held).map fun (chunk, held) => ⟨0, .bytes chunk, ⟨held, supply.readings⟩⟩) ++
    supply.readings.zipIdx.flatMap fun (r, i) =>
      r.reads.map fun (received, held) =>
        ⟨supply.due i, received, ⟨held, supply.readings.drop (i + 1)⟩⟩

/-- What is left of a supply after a silence that is no longer than the next delay. -/
def wait (ms : Nat) : Supply → Supply
  | ⟨held, []⟩ => ⟨held, []⟩
  | ⟨held, r :: readings⟩ => ⟨held, { r with delay := r.delay - ms } :: readings⟩

@[simp] theorem wait_zero (supply : Supply) : supply.wait 0 = supply := by
  obtain ⟨held, _ | ⟨r, readings⟩⟩ := supply <;> rfl

end Supply

def Delivery.after (ms : Nat) (d : Delivery) : Delivery := { d with due := ms + d.due }

@[simp] theorem Delivery.after_zero (d : Delivery) : d.after 0 = d := by
  simp [Delivery.after]

@[simp] theorem Delivery.after_after (ms later : Nat) (d : Delivery) :
    (d.after later).after ms = d.after (ms + later) := by
  simp [Delivery.after, Nat.add_assoc]

theorem deliveries_nothing : Supply.deliveries ⟨[], []⟩ = [] := by
  simp [Supply.deliveries, portions]

theorem deliveries_held (b : UInt8) (held : List UInt8) (readings : List Reading) :
    Supply.deliveries ⟨b :: held, readings⟩ =
      ⟨0, .bytes ((b :: held).take Device.readSize),
        ⟨(b :: held).drop Device.readSize, readings⟩⟩ ::
        Supply.deliveries ⟨(b :: held).drop Device.readSize, readings⟩ := by
  simp [Supply.deliveries, portions, Supply.due]

/-- What is due after a reading is due as it is from there on, later by the delay of the reading. -/
theorem deliveries_reading (r : Reading) (readings : List Reading) :
    Supply.deliveries ⟨[], r :: readings⟩ =
      (⟨0, r.received, ⟨r.remainder, readings⟩⟩ ::
        Supply.deliveries ⟨r.remainder, readings⟩).map (Delivery.after r.delay) := by
  have hfirst : Supply.due ⟨[], r :: readings⟩ 0 = r.delay := by simp [Supply.due]
  have hlater : ∀ i, Supply.due ⟨[], r :: readings⟩ (i + 1) =
      r.delay + Supply.due ⟨r.remainder, readings⟩ i := by
    intro i
    simp [Supply.due]
  unfold Supply.deliveries
  simp [portions, Reading.reads, hfirst, hlater, List.zipIdx_succ, List.flatMap_map,
    List.map_flatMap, Function.comp_def, Delivery.after]

namespace Serial

open Backlog (trim)

/-- How a wait ends at its deadline. `asked` is when the delivery that did not come had been asked
for. -/
def giveUp (pattern : List UInt8) (ms asked : Nat) (left : Supply) (pending : List UInt8) : Ending :=
  match trim pattern pending with
  | none => ⟨.error .broken, pending, ms, left.wait (ms - asked)⟩
  | some kept => ⟨.ok none, kept, ms, left.wait (ms - asked)⟩

/-- A wait that goes from one delivery to the next. A delivery is asked for when the one before it
has come, and it is taken if it is asked for before the deadline and due by then. Timeouts and empty
reads are passed over; another failure ends the wait, and so does the first chunk that completes an
occurrence. -/
def leap (name : String) (pattern : List UInt8) (ms : Nat) :
    Nat → Supply → List UInt8 → List Delivery → Ending
  | asked, left, pending, [] => giveUp pattern ms asked left pending
  | asked, left, pending, next :: later =>
    if asked < ms ∧ next.due ≤ ms then
      match next.received with
      | .nothingInTime => leap name pattern ms next.due next.left pending later
      | .failure f =>
        if f.kind = .timedOut then leap name pattern ms next.due next.left pending later
        else ⟨.fail (.during (.readingFrom name) (.reported f.message)), pending, next.due, next.left⟩
      | .bytes [] => leap name pattern ms next.due next.left pending later
      | .bytes chunk =>
        match Text.takeThrough pattern (pending ++ chunk) with
        | some (found, rest) => ⟨.ok (some found), rest, next.due, next.left⟩
        | none =>
          match trim pattern (pending ++ chunk) with
          | none => ⟨.error .broken, pending ++ chunk, next.due, next.left⟩
          | some kept => leap name pattern ms next.due next.left kept later
    else giveUp pattern ms asked left pending

def readWithoutPolls (name : String) (pattern : List UInt8) (ms : Nat) (pending : List UInt8)
    (supply : Supply) : Ending :=
  match Text.takeThrough pattern pending with
  | some (found, rest) => ⟨.ok (some found), rest, 0, supply⟩
  | none => leap name pattern ms 0 supply pending supply.deliveries

def Ending.since (start : Nat) (e : Ending) : Ending := { e with time := start + e.time }

section Leap

variable {name : String} {pattern pending : List UInt8} {ms asked start : Nat} {left : Supply}

theorem leap_of_not_taken {next : Delivery} {later : List Delivery}
    (h : ¬(asked < ms ∧ next.due ≤ ms)) :
    leap name pattern ms asked left pending (next :: later) =
      giveUp pattern ms asked left pending := by
  rw [leap, if_neg h]

/-- At the deadline nothing is taken, however soon it would be due. -/
theorem leap_of_le (h : ms ≤ asked) (deliveries : List Delivery) :
    leap name pattern ms asked left pending deliveries = giveUp pattern ms asked left pending := by
  cases deliveries with
  | nil => rfl
  | cons next later => exact leap_of_not_taken fun htaken => absurd htaken.1 (Nat.not_lt_of_le h)

theorem scan_timeUp (left : Supply) :
    (Timetable.timeUp (start + ms) (left.wait (ms - asked))).scan name (trim pattern) pattern
        pending = (giveUp pattern ms asked left pending).since start := by
  unfold giveUp
  simp only [Timetable.scan]
  cases trim pattern pending <;> rfl

/-- A delivery that is taken is an entry of the timetable. -/
theorem scan_entry {t : Timetable} {next : Delivery} {later : List Delivery}
    (htaken : asked < ms ∧ next.due ≤ ms)
    (hlater : ∀ pending, t.scan name (trim pattern) pattern pending =
      (leap name pattern ms next.due next.left pending later).since start) :
    (entry (start + next.due) next.left t next.received).scan name (trim pattern) pattern pending =
      (leap name pattern ms asked left pending (next :: later)).since start := by
  rw [leap, if_pos htaken]
  cases next.received with
  | nothingInTime => exact hlater pending
  | failure f =>
    by_cases hf : f.kind = .timedOut
    · simp only [entry, if_pos hf]
      exact hlater pending
    · simp only [entry, if_neg hf]
      rfl
  | bytes chunk =>
    cases chunk with
    | nil => exact hlater pending
    | cons b chunk =>
      simp only [entry, Timetable.scan]
      cases Text.takeThrough pattern (pending ++ b :: chunk) with
      | some cut => rfl
      | none =>
        cases trim pattern (pending ++ b :: chunk) with
        | none => rfl
        | some kept => exact hlater kept

end Leap

/-- The timetable is what the deliveries say, read against the clock. -/
theorem scan_timetable (name : String) (pattern : List UInt8) (start : Nat) {ms asked : Nat}
    (supply : Supply) (pending : List UInt8) (h : asked ≤ ms) :
    (timetable (start + ms) (start + asked) supply).scan name (trim pattern) pattern pending =
      (leap name pattern ms asked supply pending
        (supply.deliveries.map (Delivery.after asked))).since start := by
  -- Along the timetable: from each of its times on, the deliveries that are left are due as they are
  -- for a supply of its own, only later by what has passed.
  generalize hnow : start + asked = now
  induction now, supply using timetable.induct (start + ms) generalizing asked pending with
  | case1 now supply hup =>
    have hleft : supply.wait (ms - asked) = supply := by
      have hnone : ms - asked = 0 := by omega
      simp [hnone]
    have hnow : now = start + ms := by omega
    rw [timetable_of_le hup, leap_of_le (by omega), ← scan_timeUp, hleft, hnow]
  | case2 now hup b held readings left =>
    rename_i ih
    subst hnow
    have hbefore : asked < ms := by omega
    have htaken : asked < ms ∧ ((⟨0, .bytes ((b :: held).take Device.readSize), left⟩ :
        Delivery).after asked).due ≤ ms := ⟨hbefore, h⟩
    rw [timetable_held (by omega), deliveries_held, List.map_cons]
    exact scan_entry htaken fun pending => ih pending h rfl
  | case3 now hup =>
    subst hnow
    rw [timetable_nothing (by omega), deliveries_nothing]
    exact scan_timeUp ⟨[], []⟩
  | case4 now hup r readings hlate =>
    subst hnow
    have hnot : ¬(asked < ms ∧ asked + (r.delay + 0) ≤ ms) := by omega
    -- The deadline cuts the delay, whether it is read off the clock or off the waits.
    have hremaining : start + asked + r.delay - (start + ms) = r.delay - (ms - asked) := by omega
    rw [timetable_not_due (by omega) hlate, deliveries_reading, List.map_cons, List.map_cons,
      leap_of_not_taken hnot, hremaining]
    exact scan_timeUp ⟨[], r :: readings⟩
  | case5 now hup r readings hlate left =>
    rename_i ih
    subst hnow
    have hdue : asked + r.delay ≤ ms := by omega
    have hsum : (Delivery.after asked ∘ Delivery.after r.delay) =
        Delivery.after (asked + r.delay) := funext fun d => Delivery.after_after asked r.delay d
    rw [timetable_due (by omega) (by omega), deliveries_reading, List.map_map, hsum, List.map_cons]
    have htaken : asked < ms ∧ ((⟨0, r.received, left⟩ : Delivery).after (asked + r.delay)).due ≤
        ms := ⟨by omega, hdue⟩
    rw [Nat.add_assoc] at ih ⊢
    exact scan_entry htaken fun pending => ih pending hdue rfl

/-- So what can be foreseen of a wait is what it comes to without polls. -/
theorem foresee_eq_readWithoutPolls (name : String) (pattern : List UInt8) (ms : Nat)
    (pending : List UInt8) (now : Nat) (supply : Supply) :
    foresee name pattern ms pending now supply =
      (readWithoutPolls name pattern ms pending supply).since now := by
  unfold foresee readWithoutPolls
  cases Text.takeThrough pattern pending with
  | some cut => rfl
  | none =>
    have hunshifted : supply.deliveries.map (Delivery.after 0) = supply.deliveries :=
      (List.map_congr_left fun next _ => next.after_zero).trans (List.map_id _)
    have hscan := scan_timetable name pattern now supply pending (Nat.zero_le ms)
    rw [hunshifted, Nat.add_zero] at hscan
    exact hscan

/-- How often a device is asked does not show. A wait for a text on an open stream, none of whose
changes of the timeout fails, comes to what a wait comes to that goes from one delivery to the next:
the answer, the time that passes, what is pending afterwards and what the device has still to bring
are the same. -/
theorem readUntil_without_polls (text : String) (ms : Nat) (s : Stream) (d : Device)
    (b : Bench World) (hd : s.device = some d) (hsettings : ∀ outcome ∈ d.settings, outcome = none) :
    let ending := readWithoutPolls s.name (Text.toBytes text) ms s.pending d.supply
    ∃ d' b', readUntil text ms s b =
        (ending.result.map Found.text, { s with device := some d', pending := ending.pending }, b') ∧
      b'.clock = b.clock + ending.time ∧ d'.supply = ending.left ∧ d.OnlyRead d' := by
  intro ending
  obtain ⟨d', b', hread, hclock, hleft, honly⟩ :=
    readBytes_foreseen (Text.toBytes text) ms b hd hsettings
  rw [foresee_eq_readWithoutPolls] at hread hclock hleft
  refine ⟨d', b', ?_, hclock, hleft, honly⟩
  unfold readUntil
  rw [hread]
  rfl

/-- A device that brings `OK` in two pieces, with a timeout and an empty read between them, and
another `K` at the moment of the second piece. -/
def stammering : Device where
  id := 0
  readings :=
    [{ delay := 25, content := .ok [0x4F] },
      { delay := 0, content := .error { kind := .timedOut, message := "timed out" } },
      { delay := 20, content := .ok [] }, { delay := 5, content := .ok [0x4B] },
      { delay := 0, content := .ok [0x4B] }]
  timeout := 1000

theorem stammering_deliveries :
    stammering.supply.deliveries =
      [⟨25, .bytes [0x4F], ⟨[], stammering.readings.drop 1⟩⟩,
        ⟨25, .failure { kind := .timedOut, message := "timed out" },
          ⟨[], stammering.readings.drop 2⟩⟩,
        ⟨45, .bytes [], ⟨[], stammering.readings.drop 3⟩⟩,
        ⟨50, .bytes [0x4B], ⟨[], stammering.readings.drop 4⟩⟩,
        ⟨50, .bytes [0x4B], ⟨[], []⟩⟩] := by
  simp [Supply.deliveries, Supply.due, portions, Reading.reads, Reading.received,
    Reading.remainder, Device.readSize, Device.supply, stammering]

/-- The second piece comes at the deadline, and what would be there at once is then left alone. -/
theorem stammering_without_polls :
    readWithoutPolls "p" (Text.toBytes "OKK") 50 [] stammering.supply =
      ⟨.ok none, [0x4F, 0x4B], 50, ⟨[], [{ delay := 0, content := .ok [0x4B] }]⟩⟩ := by
  rw [readWithoutPolls, stammering_deliveries]
  rfl

theorem readUntil_without_polls_of_stammering :
    let s : Stream := { name := "p", device := some stammering, writeTimeout := 1000 }
    let b : Bench World := { world := {} }
    (∀ outcome ∈ stammering.settings, outcome = none) ∧
      ∃ d' b', readUntil "OKK" 50 s b =
          (.ok "", { s with device := some d', pending := [0x4F, 0x4B] }, b') ∧
        b'.clock = 50 ∧ d'.supply = ⟨[], [{ delay := 0, content := .ok [0x4B] }]⟩ := by
  intro s b
  have hsettings : ∀ outcome ∈ stammering.settings, outcome = none := List.forall_mem_nil _
  obtain ⟨d', b', hread, hclock, hleft, -⟩ :=
    readUntil_without_polls "OKK" 50 s stammering b rfl hsettings
  rw [stammering_without_polls] at hread hclock hleft
  exact ⟨hsettings, d', b', hread, hclock, hleft⟩

end Serial

end SerialScript
