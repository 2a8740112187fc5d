import SerialScript.Proofs.Serial.Feed
import SerialScript.Transport.Serial

/-!
A wait without polls. What a device has still to bring, read against the clock, makes a timetable:
what arrives up to a deadline, and when. A poll that ends before anything is due leaves the rest of
the delay to the next one, so how often a device is asked does not show: a wait comes to what the
timetable says.
-/

namespace SerialScript

structure Supply where
  held : List UInt8
  readings : List Reading

/-- What the first read to get at a reading receives. -/
def Reading.received (r : Reading) : Device.Received :=
  match r.content with
  | .ok bytes => .bytes (bytes.take Device.readSize)
  | .error f => .failure f

def Reading.remainder (r : Reading) : List UInt8 :=
  match r.content with
  | .ok bytes => bytes.drop Device.readSize
  | .error _ => []

namespace Device

def supply (d : Device) : Supply := { held := d.held, readings := d.readings }

structure OnlyRead (d d' : Device) : Prop where
  id : d'.id = d.id
  acceptances : d'.acceptances = d.acceptances
  flushes : d'.flushes = d.flushes
  settings : d'.settings <:+ d.settings

theorem onlyRead_refl (d : Device) : d.OnlyRead d := ⟨rfl, rfl, rfl, List.suffix_refl _⟩

theorem OnlyRead.trans {d d' d'' : Device} (h : d.OnlyRead d') (h' : d'.OnlyRead d'') :
    d.OnlyRead d'' where
  id := h'.id.trans h.id
  acceptances := h'.acceptances.trans h.acceptances
  flushes := h'.flushes.trans h.flushes
  settings := h'.settings.trans h.settings

theorem onlyRead_setTimeout (ms : Nat) (d : Device) : d.OnlyRead (d.setTimeout ms).2 := by
  unfold setTimeout
  split
  · rename_i hs
    exact ⟨rfl, rfl, rfl, hs ▸ List.suffix_cons _ _⟩
  · rename_i hs
    exact ⟨rfl, rfl, rfl, hs ▸ List.suffix_cons _ _⟩
  · exact ⟨rfl, rfl, rfl, List.suffix_refl _⟩

theorem mem_settings_of_refused {ms : Nat} {d d' : Device} {reason : String}
    (h : d.setTimeout ms = (some reason, d')) : some reason ∈ d.settings := by
  unfold setTimeout at h
  split at h
  · rename_i hs
    cases h
    rw [hs]
    exact List.mem_cons_self
  · cases h
  · cases h

theorem onlyRead_read (d : Device) : d.OnlyRead d.read.2.2 := by
  unfold read
  split
  · exact ⟨rfl, rfl, rfl, List.suffix_refl _⟩
  · split
    · exact onlyRead_refl d
    · split
      · exact ⟨rfl, rfl, rfl, List.suffix_refl _⟩
      · split <;> exact ⟨rfl, rfl, rfl, List.suffix_refl _⟩

end Device

namespace Serial

/-- What a supply brings up to a deadline, with the times and with what is left afterwards. -/
inductive Timetable where
  | timeUp (time : Nat) (left : Supply)
  | failed (cause : Failure) (time : Nat) (left : Supply)
  | arrival (chunk : List UInt8) (time : Nat) (left : Supply) (later : Timetable)

/-- What a read adds to the timetable of what it leaves. Nothing but a failure other than a timeout
or bytes is worth an entry. -/
def entry (time : Nat) (left : Supply) (later : Timetable) : Device.Received → Timetable
  | .nothingInTime => later
  | .failure f => if f.kind = .timedOut then later else .failed f time left
  | .bytes [] => later
  | .bytes chunk => .arrival chunk time left later

/-- The timetable of a supply from a time on. A reading is due once its delay and those before it
have passed. What is due at the deadline is still taken, but nothing after it. -/
def timetable (deadline now : Nat) (supply : Supply) : Timetable :=
  if deadline ≤ now then .timeUp now supply
  else
    match supply with
    | ⟨b :: held, readings⟩ =>
      let left : Supply := ⟨(b :: held).drop Device.readSize, readings⟩
      .arrival ((b :: held).take Device.readSize) now left (timetable deadline now left)
    | ⟨[], []⟩ => .timeUp deadline ⟨[], []⟩
    | ⟨[], r :: readings⟩ =>
      if deadline < now + r.delay then
        .timeUp deadline ⟨[], { r with delay := now + r.delay - deadline } :: readings⟩
      else
        let left : Supply := ⟨r.remainder, readings⟩
        entry (now + r.delay) left (timetable deadline (now + r.delay) left) r.received
termination_by (supply.readings.length, supply.held.length)
decreasing_by
  · simp only [List.length_drop, List.length_cons, Device.readSize]
    right
    omega
  · left
    exact Nat.lt_succ_self _

section Unfolding

variable {deadline now : Nat} {r : Reading}

theorem timetable_of_le (h : deadline ≤ now) (supply : Supply) :
    timetable deadline now supply = .timeUp now supply := by
  rw [timetable.eq_def, if_pos h]

theorem timetable_held (h : now < deadline) (b : UInt8) (held : List UInt8)
    (readings : List Reading) :
    timetable deadline now ⟨b :: held, readings⟩ =
      .arrival ((b :: held).take Device.readSize) now ⟨(b :: held).drop Device.readSize, readings⟩
        (timetable deadline now ⟨(b :: held).drop Device.readSize, readings⟩) := by
  rw [timetable, if_neg (Nat.not_le_of_lt h)]

theorem timetable_nothing (h : now ≤ deadline) :
    timetable deadline now ⟨[], []⟩ = .timeUp deadline ⟨[], []⟩ := by
  rw [timetable]
  split
  · rename_i hup
    rw [Nat.le_antisymm h hup]
  · rfl

theorem timetable_not_due (h : now < deadline) (hdue : deadline < now + r.delay)
    (readings : List Reading) :
    timetable deadline now ⟨[], r :: readings⟩ =
      .timeUp deadline ⟨[], { r with delay := now + r.delay - deadline } :: readings⟩ := by
  rw [timetable, if_neg (Nat.not_le_of_lt h)]
  exact if_pos hdue

theorem timetable_due (h : now < deadline) (hdue : now + r.delay ≤ deadline)
    (readings : List Reading) :
    timetable deadline now ⟨[], r :: readings⟩ =
      entry (now + r.delay) ⟨r.remainder, readings⟩
        (timetable deadline (now + r.delay) ⟨r.remainder, readings⟩) r.received := by
  rw [timetable, if_neg (Nat.not_le_of_lt h)]
  exact if_neg (Nat.not_lt_of_le hdue)

end Unfolding

/-- A silence that ends before the next reading is due only brings it nearer. -/
theorem timetable_wait {deadline now ms : Nat} {r : Reading} (readings : List Reading)
    (hnow : now < deadline) (hdue : ms < r.delay) (hms : now + ms ≤ deadline) :
    timetable deadline now ⟨[], r :: readings⟩ =
      timetable deadline (now + ms) ⟨[], { r with delay := r.delay - ms } :: readings⟩ := by
  -- The reading stays due at the same time; only the deadline may come between.
  have hdelay : now + ms + (r.delay - ms) = now + r.delay := by omega
  by_cases hup : deadline ≤ now + ms
  · have hleft : now + r.delay - deadline = r.delay - ms := by omega
    rw [timetable_of_le hup, timetable_not_due hnow (by omega), hleft, Nat.le_antisymm hup hms]
  · have hlater : now + ms < deadline := by omega
    by_cases hlate : deadline < now + r.delay
    · rw [timetable_not_due hnow hlate, timetable_not_due hlater (by simp only; omega)]
      simp only [hdelay]
    · rw [timetable_due hnow (by omega), timetable_due hlater (by simp only; omega)]
      simp only [hdelay]
      rfl

theorem entry_of_idle {received : Device.Received} (hchunk : chunkOf received = [])
    (hkind : ∀ f, received = .failure f → f.kind = .timedOut) (time : Nat) (left : Supply)
    (later : Timetable) : entry time left later received = later := by
  cases received with
  | nothingInTime => rfl
  | failure f => rw [entry, if_pos (hkind f rfl)]
  | bytes chunk =>
    have hempty : chunk = [] := hchunk
    rw [hempty]
    rfl

theorem entry_of_arrived {chunk : List UInt8} (hne : chunk ≠ []) (time : Nat) (left : Supply)
    (later : Timetable) : entry time left later (.bytes chunk) = .arrival chunk time left later := by
  cases chunk with
  | nil => exact absurd rfl hne
  | cons b chunk => rfl

/-- One read that ends by the deadline is one step along the timetable. -/
theorem timetable_read {deadline now elapsed : Nat} {d d' : Device}
    {received : Device.Received} (hread : d.read = (received, elapsed, d'))
    (hnow : now < deadline) (htimeout : now + d.timeout ≤ deadline) :
    timetable deadline now d.supply =
      entry (now + elapsed) d'.supply (timetable deadline (now + elapsed) d'.supply) received := by
  obtain ⟨id, held, readings, acceptances, flushes, settings, timeout⟩ := d
  unfold Device.read at hread
  cases held with
  | cons b held =>
    cases hread
    exact timetable_held hnow b held readings
  | nil =>
    cases readings with
    | nil =>
      cases hread
      have hsilent : timetable deadline now ⟨[], []⟩ =
          timetable deadline (now + timeout) ⟨[], []⟩ := by
        rw [timetable_nothing (Nat.le_of_lt hnow), timetable_nothing htimeout]
      exact hsilent
    | cons r readings =>
      simp only at hread htimeout
      split at hread
      · rename_i hdue
        cases hread
        exact timetable_wait readings hnow hdue htimeout
      · rename_i hdue
        rw [Device.supply, timetable_due hnow (by omega)]
        unfold Reading.remainder Reading.received
        cases hc : r.content with
        | error f =>
          rw [hc] at hread
          cases hread
          rfl
        | ok bytes =>
          rw [hc] at hread
          cases hread
          rfl

inductive Feed.Follows (name : String) (start : Device) : Feed → Timetable → Prop where
  | timeUp {d b} : start.OnlyRead d →
      Feed.Follows name start (.timeUp (some d) b) (.timeUp b.clock d.supply)
  | failed {f : Failure} {d b} : start.OnlyRead d →
      Feed.Follows name start
        (.failed (.during (.readingFrom name) (.reported f.message)) (some d) b)
        (.failed f b.clock d.supply)
  | arrival {chunk d b later timetable} : start.OnlyRead d →
      Feed.Follows name start later timetable →
      Feed.Follows name start (.arrival chunk d b later) (.arrival chunk b.clock d.supply timetable)

theorem supply_setTimeout (ms : Nat) (d : Device) : (d.setTimeout ms).2.supply = d.supply := by
  unfold Device.setTimeout
  split <;> rfl

/-- A poll before a deadline is one step along the timetable, whatever its length. -/
theorem timetable_poll {deadline elapsed : Nat} {d d₁ d' : Device} {b : Bench World}
    {received : Device.Received} (hlt : b.clock < deadline)
    (hset : d.setTimeout (patience deadline b) = (none, d₁))
    (hread : d₁.read = (received, elapsed, d')) :
    d.OnlyRead d' ∧ timetable deadline b.clock d.supply =
      entry (b.clock + elapsed) d'.supply
        (timetable deadline (b.clock + elapsed) d'.supply) received := by
  have htimeout : d₁.timeout = patience deadline b := by rw [setTimeout_none hset]
  have hshort : b.clock + d₁.timeout ≤ deadline := by
    rw [htimeout, patience]
    omega
  have honly := Device.onlyRead_setTimeout (patience deadline b) d
  have hsupply := supply_setTimeout (patience deadline b) d
  rw [hset] at honly hsupply
  have honly' := Device.onlyRead_read d₁
  rw [hread] at honly'
  refine ⟨honly.trans honly', ?_⟩
  rw [← hsupply]
  exact timetable_read hread hlt hshort

theorem Feeds.follows {deadline : Nat} {name : String} {device : Option Device}
    {start d : Device} {b : Bench World} {f : Feed} (hf : Feeds deadline name device b f)
    (hd : device = some d) (hstart : start.OnlyRead d)
    (hsettings : ∀ outcome ∈ start.settings, outcome = none) :
    f.Follows name start (timetable deadline b.clock d.supply) := by
  induction hf generalizing d with
  | timeUp hp =>
    subst hd
    cases hp with
    | timeUp hup =>
      rw [timetable_of_le hup]
      exact .timeUp hstart
  | failed hp =>
    subst hd
    cases hp with
    | refused _ hset =>
      have hmem := hstart.settings.subset (Device.mem_settings_of_refused hset)
      cases hsettings _ hmem
    | broken hlt hset hread hkind =>
      obtain ⟨honly, hstep⟩ := timetable_poll hlt hset hread
      rw [hstep, entry, if_neg hkind]
      exact .failed (hstart.trans honly)
  | idle hp _ ih =>
    subst hd
    cases hp with
    | idle hlt hset hread hchunk hkind =>
      obtain ⟨honly, hstep⟩ := timetable_poll hlt hset hread
      rw [hstep, entry_of_idle hchunk hkind]
      exact ih rfl (hstart.trans honly)
  | arrived hp _ ih =>
    subst hd
    cases hp with
    | arrived hlt hset hread hne =>
      obtain ⟨honly, hstep⟩ := timetable_poll hlt hset hread
      rw [hstep, entry_of_arrived hne]
      exact .arrival (hstart.trans honly) (ih rfl (hstart.trans honly))

structure Ending where
  result : Outcome Found
  pending : List UInt8
  time : Nat
  left : Supply

def Timetable.scan (name : String) (cut : Cut) (pattern pending : List UInt8) : Timetable → Ending
  | .timeUp time left =>
    match cut pending with
    | none => ⟨.error .broken, pending, time, left⟩
    | some kept => ⟨.ok none, kept, time, left⟩
  | .failed f time left =>
    ⟨.fail (.during (.readingFrom name) (.reported f.message)), pending, time, left⟩
  | .arrival chunk time left later =>
    match Text.takeThrough pattern (pending ++ chunk) with
    | some (found, rest) => ⟨.ok (some found), rest, time, left⟩
    | none =>
      match cut (pending ++ chunk) with
      | none => ⟨.error .broken, pending ++ chunk, time, left⟩
      | some kept => later.scan name cut pattern kept

/-- `readBytes` without a device to ask: it looks the answer up in the timetable. -/
def foresee (name : String) (pattern : List UInt8) (ms : Nat) (pending : List UInt8) (now : Nat)
    (supply : Supply) : Ending :=
  match Text.takeThrough pattern pending with
  | some (found, rest) => ⟨.ok (some found), rest, now, supply⟩
  | none => (timetable (now + ms) now supply).scan name (Backlog.trim pattern) pattern pending

def Ending.Reached (e : Ending) (start : Device) (s : Stream)
    (outcome : Outcome Found × Stream × Bench World) : Prop :=
  ∃ d b, outcome = (e.result, { s with device := some d, pending := e.pending }, b) ∧
    b.clock = e.time ∧ d.supply = e.left ∧ start.OnlyRead d

theorem Feed.Follows.scan {name : String} {start : Device} {cut : Cut} {pattern : List UInt8}
    {s : Stream} {f : Feed} {t : Timetable} (h : f.Follows name start t) :
    (t.scan name cut pattern s.pending).Reached start s (f.scan cut pattern s) := by
  induction h generalizing s with
  | timeUp honly =>
    simp only [Feed.scan, Timetable.scan]
    cases cut s.pending with
    | none => exact ⟨_, _, rfl, rfl, rfl, honly⟩
    | some kept => exact ⟨_, _, rfl, rfl, rfl, honly⟩
  | failed honly => exact ⟨_, _, rfl, rfl, rfl, honly⟩
  | @arrival chunk d b later t honly _ ih =>
    simp only [Feed.scan, Timetable.scan]
    cases Text.takeThrough pattern (s.pending ++ chunk) with
    | some cut' => exact ⟨_, _, rfl, rfl, rfl, honly⟩
    | none =>
      cases cut (s.pending ++ chunk) with
      | none => exact ⟨_, _, rfl, rfl, rfl, honly⟩
      | some kept => exact ih (s := { s with device := some d, pending := kept })

/-- A wait comes to the end that can be foreseen from what the device has to bring, though it asks
the device every now and then. -/
theorem readBytes_foreseen (pattern : List UInt8) (ms : Nat) {s : Stream} {d : Device}
    (b : Bench World) (hd : s.device = some d) (hsettings : ∀ outcome ∈ d.settings, outcome = none) :
    (foresee s.name pattern ms s.pending b.clock d.supply).Reached d s
      (readBytes pattern ms s b) := by
  unfold foresee readBytes
  cases hm : Text.takeThrough pattern s.pending with
  | some cut =>
    refine ⟨d, b, ?_, rfl, rfl, Device.onlyRead_refl d⟩
    rw [← hd]
  | none =>
    simp only [await_eq_scan]
    have hfollows := (feeds_feed (b.clock + ms) s.name s.device b).follows hd
      (Device.onlyRead_refl d) hsettings
    exact hfollows.scan

end Serial

end SerialScript
