import SerialScript.Transport.Serial.Wait

/-!
A wait, taken apart. What a device brings up to a deadline does not depend on what is done with
it: neither the pattern nor what is pending has a say in when the port is read. So there is a feed,
the arrivals in order and how they end, and a wait is a scan of the feed. Whatever is to be shown
of matching and cutting is an induction over a feed; whatever is to be shown of time and of
devices is about the polls that the feed is made of.
-/

namespace SerialScript.Serial

inductive Poll where
  | timeUp
  | failed (cause : Fault) (device : Option Device) (b : Bench World)
  | idle (device : Device) (b : Bench World)
  | arrived (chunk : List UInt8) (device : Device) (b : Bench World)

def patience (deadline : Nat) (b : Bench World) : Nat := min (deadline - b.clock) pollInterval

def afterRead (ms elapsed : Nat) (chunk : List UInt8) (b : Bench World) : Bench World :=
  record ((record b (.timeoutSet ms)).wait elapsed) (.read chunk)

/-- One look at a port before a deadline. Nothing is said about pending bytes. -/
def poll (deadline : Nat) (name : String) (device : Option Device) (b : Bench World) : Poll :=
  if deadline ≤ b.clock then .timeUp
  else
    match device with
    | none => .failed (.portClosed name) none b
    | some d =>
      match d.setTimeout (patience deadline b) with
      | (some reason, d) => .failed (.reported reason) (some d) b
      | (none, d) =>
        let (received, elapsed, d) := d.read
        let b := afterRead (patience deadline b) elapsed (chunkOf received) b
        match received with
        | .nothingInTime => .idle d b
        | .failure f =>
          if f.kind = .timedOut then .idle d b
          else .failed (.during (.readingFrom name) (.reported f.message)) (some d) b
        | .bytes [] => .idle d b
        | .bytes chunk => .arrived chunk d (b.report (traceBytes name "read" chunk))

def Poll.round (cut : Cut) (pattern : List UInt8) (s : Stream) (b : Bench World) : Poll → Round
  | .timeUp =>
    match cut s.pending with
    | none => .done (.error .broken) s b
    | some kept => .done (.ok none) { s with pending := kept } b
  | .failed cause device b => .done (.fail cause) { s with device } b
  | .idle device b => .again { s with device := some device } b
  | .arrived chunk device b =>
    settle cut pattern { s with device := some device, pending := s.pending ++ chunk } b

theorem round_eq_poll (cut : Cut) (pattern : List UInt8) (deadline : Nat) (s : Stream)
    (b : Bench World) :
    round cut pattern deadline s b = (poll deadline s.name s.device b).round cut pattern s b := by
  obtain ⟨name, device, writeTimeout, pending⟩ := s
  unfold round poll patience
  by_cases hup : deadline ≤ b.clock
  · rw [if_pos hup, if_pos hup]
    rfl
  · rw [if_neg hup, if_neg hup]
    cases device with
    | none => rfl
    | some d =>
      rcases hset : d.setTimeout (min (deadline - b.clock) pollInterval) with ⟨_ | reason, d₁⟩
      · rcases hread : d₁.read with ⟨received, elapsed, d'⟩
        simp only [setDeviceTimeout, hset, hread]
        cases received with
        | nothingInTime => rfl
        | failure f =>
          by_cases hf : f.kind = .timedOut
          · simp only [hf, if_true]
            rfl
          · simp only [hf, if_false]
            rfl
        | bytes chunk => cases chunk <;> rfl
      · simp only [setDeviceTimeout, hset]
        rfl

inductive Polls (deadline : Nat) (name : String) :
    Option Device → Bench World → Poll → Prop where
  | timeUp {device b} : deadline ≤ b.clock → Polls deadline name device b .timeUp
  | closed {b} : b.clock < deadline →
      Polls deadline name none b (.failed (.portClosed name) none b)
  | refused {d d' b reason} : b.clock < deadline →
      d.setTimeout (patience deadline b) = (some reason, d') →
      Polls deadline name (some d) b (.failed (.reported reason) (some d') b)
  | broken {d d₁ d' b elapsed} {f : Failure} : b.clock < deadline →
      d.setTimeout (patience deadline b) = (none, d₁) →
      d₁.read = (.failure f, elapsed, d') → f.kind ≠ .timedOut →
      Polls deadline name (some d) b
        (.failed (.during (.readingFrom name) (.reported f.message)) (some d')
          (afterRead (patience deadline b) elapsed [] b))
  | idle {d d₁ d' b received elapsed} : b.clock < deadline →
      d.setTimeout (patience deadline b) = (none, d₁) →
      d₁.read = (received, elapsed, d') → chunkOf received = [] →
      (∀ f, received = .failure f → f.kind = .timedOut) →
      Polls deadline name (some d) b
        (.idle d' (afterRead (patience deadline b) elapsed [] b))
  | arrived {d d₁ d' b chunk elapsed} : b.clock < deadline →
      d.setTimeout (patience deadline b) = (none, d₁) →
      d₁.read = (.bytes chunk, elapsed, d') → chunk ≠ [] →
      Polls deadline name (some d) b
        (.arrived chunk d' ((afterRead (patience deadline b) elapsed chunk b).report
          (traceBytes name "read" chunk)))

theorem polls_poll (deadline : Nat) (name : String) (device : Option Device) (b : Bench World) :
    Polls deadline name device b (poll deadline name device b) := by
  unfold poll
  by_cases hup : deadline ≤ b.clock
  · rw [if_pos hup]
    exact .timeUp hup
  · rw [if_neg hup]
    have hlt : b.clock < deadline := Nat.lt_of_not_le hup
    cases device with
    | none => exact .closed hlt
    | some d =>
      rcases hset : d.setTimeout (patience deadline b) with ⟨_ | reason, d₁⟩
      · rcases hread : d₁.read with ⟨received, elapsed, d'⟩
        simp only [hset, hread]
        cases received with
        | nothingInTime => exact .idle hlt hset hread rfl (by simp)
        | failure f =>
          by_cases hf : f.kind = .timedOut
          · simp only [hf, if_true]
            refine .idle hlt hset hread rfl fun g hg => ?_
            cases hg
            exact hf
          · simp only [hf, if_false]
            exact .broken hlt hset hread hf
        | bytes chunk =>
          cases chunk with
          | nil => exact .idle hlt hset hread rfl (by simp)
          | cons => exact .arrived hlt hset hread (by simp)
      · simp only [hset]
        exact .refused hlt hset

theorem poll_of_arrived {deadline elapsed : Nat} (name : String) {d d₁ d' : Device}
    {b : Bench World} {chunk : List UInt8} (hlt : b.clock < deadline)
    (hset : d.setTimeout (patience deadline b) = (none, d₁))
    (hread : d₁.read = (.bytes chunk, elapsed, d')) (hne : chunk ≠ []) :
    poll deadline name (some d) b =
      .arrived chunk d' ((afterRead (patience deadline b) elapsed chunk b).report
        (traceBytes name "read" chunk)) := by
  unfold poll
  rw [if_neg (Nat.not_le_of_lt hlt)]
  simp only [hset, hread]
  cases chunk with
  | nil => exact absurd rfl hne
  | cons => rfl

theorem setTimeout_none {ms : Nat} {d d' : Device} (h : d.setTimeout ms = (none, d')) :
    d' = { d with settings := d.settings.tail, timeout := ms } := by
  unfold Device.setTimeout at h
  split at h
  · cases h
  · rename_i hs
    cases h
    rw [hs, List.tail_cons]
  · rename_i hs
    cases h
    rw [hs, List.tail_nil]

theorem poll_of_broken {deadline elapsed : Nat} (name : String) {d d₁ d' : Device}
    {b : Bench World} {f : Failure} (hlt : b.clock < deadline)
    (hset : d.setTimeout (patience deadline b) = (none, d₁))
    (hread : d₁.read = (.failure f, elapsed, d')) (hkind : f.kind ≠ .timedOut) :
    poll deadline name (some d) b =
      .failed (.during (.readingFrom name) (.reported f.message)) (some d')
        (afterRead (patience deadline b) elapsed [] b) := by
  unfold poll
  rw [if_neg (Nat.not_le_of_lt hlt)]
  simp only [hset, hread]
  rw [if_neg hkind]
  rfl

/-- What bounds the polls before a deadline: the time left and what the device has to deliver. -/
def pollBudget (deadline : Nat) (device : Option Device) (b : Bench World) : Nat :=
  (deadline - b.clock) + (device.map Device.load).getD 0

theorem pollBudget_afterRead {deadline elapsed : Nat} {d d₁ d' : Device} {b b' : Bench World}
    {received : Device.Received} (hlt : b.clock < deadline)
    (hset : d.setTimeout (patience deadline b) = (none, d₁))
    (hread : d₁.read = (received, elapsed, d')) (hclock : b'.clock = b.clock + elapsed) :
    pollBudget deadline (some d') b' < pollBudget deadline (some d) b := by
  have hp := d₁.read_progress
  have htime : 0 < patience deadline b := Nat.lt_min.2 ⟨by omega, by decide⟩
  have hload : d₁.load = d.load := by
    rw [setTimeout_none hset]
    rfl
  have htimeout : d₁.timeout = patience deadline b := by rw [setTimeout_none hset]
  rw [hread, hload, htimeout] at hp
  simp only [pollBudget, Option.map_some, Option.getD_some, hclock]
  rcases hp with ⟨_, he, hl⟩ | hl
  · simp only at he hl
    omega
  · simp only at hl
    omega

theorem pollBudget_of_idle {deadline : Nat} {name : String} {device : Option Device} {d : Device}
    {b b' : Bench World} (h : poll deadline name device b = .idle d b') :
    pollBudget deadline (some d) b' < pollBudget deadline device b := by
  have hp := polls_poll deadline name device b
  rw [h] at hp
  cases hp with
  | idle hlt hset hread => exact pollBudget_afterRead hlt hset hread rfl

theorem pollBudget_of_arrived {deadline : Nat} {name : String} {device : Option Device}
    {chunk : List UInt8} {d : Device} {b b' : Bench World}
    (h : poll deadline name device b = .arrived chunk d b') :
    pollBudget deadline (some d) b' < pollBudget deadline device b := by
  have hp := polls_poll deadline name device b
  rw [h] at hp
  cases hp with
  | arrived hlt hset hread => exact pollBudget_afterRead hlt hset hread rfl

/-- What a device brings up to a deadline, and how that ends. -/
inductive Feed where
  | timeUp (device : Option Device) (b : Bench World)
  | failed (cause : Fault) (device : Option Device) (b : Bench World)
  | arrival (chunk : List UInt8) (device : Device) (b : Bench World) (later : Feed)

/-- The feed of a port up to a deadline, if nobody stops listening. -/
def feed (deadline : Nat) (name : String) (device : Option Device) (b : Bench World) : Feed :=
  match _h : poll deadline name device b with
  | .timeUp => .timeUp device b
  | .failed cause device b => .failed cause device b
  | .idle d b' => feed deadline name (some d) b'
  | .arrived chunk d b' => .arrival chunk d b' (feed deadline name (some d) b')
termination_by pollBudget deadline device b
decreasing_by
  · exact pollBudget_of_idle _h
  · exact pollBudget_of_arrived _h

section Unfolding

variable {deadline : Nat} {name : String} {device : Option Device} {b : Bench World}

theorem feed_of_timeUp (h : poll deadline name device b = .timeUp) :
    feed deadline name device b = .timeUp device b := by
  rw [feed]
  split <;> rename_i hp <;> cases h.symm.trans hp
  rfl

theorem feed_of_failed {cause : Fault} {device' : Option Device} {b' : Bench World}
    (h : poll deadline name device b = .failed cause device' b') :
    feed deadline name device b = .failed cause device' b' := by
  rw [feed]
  split <;> rename_i hp <;> cases h.symm.trans hp
  rfl

theorem feed_of_idle {d : Device} {b' : Bench World}
    (h : poll deadline name device b = .idle d b') :
    feed deadline name device b = feed deadline name (some d) b' := by
  rw [feed]
  split <;> rename_i hp <;> cases h.symm.trans hp
  rfl

theorem feed_of_arrived {chunk : List UInt8} {d : Device} {b' : Bench World}
    (h : poll deadline name device b = .arrived chunk d b') :
    feed deadline name device b = .arrival chunk d b' (feed deadline name (some d) b') := by
  rw [feed]
  split <;> rename_i hp <;> cases h.symm.trans hp
  rfl

end Unfolding

inductive Feeds (deadline : Nat) (name : String) : Option Device → Bench World → Feed → Prop where
  | timeUp {device b} : Polls deadline name device b .timeUp →
      Feeds deadline name device b (.timeUp device b)
  | failed {device b cause device' b'} : Polls deadline name device b (.failed cause device' b') →
      Feeds deadline name device b (.failed cause device' b')
  | idle {device b d b' f} : Polls deadline name device b (.idle d b') →
      Feeds deadline name (some d) b' f → Feeds deadline name device b f
  | arrived {device b chunk d b' later} : Polls deadline name device b (.arrived chunk d b') →
      Feeds deadline name (some d) b' later →
      Feeds deadline name device b (.arrival chunk d b' later)

theorem feeds_feed (deadline : Nat) (name : String) (device : Option Device) (b : Bench World) :
    Feeds deadline name device b (feed deadline name device b) := by
  induction device, b using feed.induct deadline name with
  | case1 device b h =>
    rw [feed_of_timeUp h]
    exact .timeUp (h ▸ polls_poll deadline name device b)
  | case2 device b cause device' b' h =>
    rw [feed_of_failed h]
    exact .failed (h ▸ polls_poll deadline name device b)
  | case3 device b d b' h ih =>
    rw [feed_of_idle h]
    exact .idle (h ▸ polls_poll deadline name device b) ih
  | case4 device b chunk d b' h ih =>
    rw [feed_of_arrived h]
    exact .arrived (h ▸ polls_poll deadline name device b) ih

def Feed.scan (cut : Cut) (pattern : List UInt8) (s : Stream) :
    Feed → Outcome Found × Stream × Bench World
  | .timeUp device b =>
    match cut s.pending with
    | none => (.error .broken, { s with device }, b)
    | some kept => (.ok none, { s with device, pending := kept }, b)
  | .failed cause device b => (.fail cause, { s with device }, b)
  | .arrival chunk device b later =>
    match Text.takeThrough pattern (s.pending ++ chunk) with
    | some (found, rest) =>
      (.ok (some found), { s with device := some device, pending := rest }, b)
    | none =>
      match cut (s.pending ++ chunk) with
      | none =>
        (.error .broken, { s with device := some device, pending := s.pending ++ chunk }, b)
      | some kept => later.scan cut pattern { s with device := some device, pending := kept }

/-- The feed says what becomes of the device; the stream that scans it does not. -/
theorem scan_device (cut : Cut) (pattern : List UInt8) (s : Stream) (device : Option Device)
    (f : Feed) : f.scan cut pattern { s with device } = f.scan cut pattern s := by
  cases f <;> rfl

theorem await_eq_scan (cut : Cut) (pattern : List UInt8) (deadline : Nat) (s : Stream)
    (b : Bench World) :
    await cut pattern deadline s b =
      (feed deadline s.name s.device b).scan cut pattern s := by
  obtain ⟨name, device, writeTimeout, pending⟩ := s
  induction device, b using feed.induct deadline name generalizing pending with
  | case1 device b h =>
    rw [feed_of_timeUp h]
    have hr := round_eq_poll cut pattern deadline ⟨name, device, writeTimeout, pending⟩ b
    simp only [h, Poll.round] at hr
    simp only [Feed.scan]
    split <;> rename_i hc <;> rw [hc] at hr <;> exact await_of_done hr
  | case2 device b cause device' b' h =>
    rw [feed_of_failed h]
    have hr := round_eq_poll cut pattern deadline ⟨name, device, writeTimeout, pending⟩ b
    simp only [h, Poll.round] at hr
    exact await_of_done hr
  | case3 device b d b' h ih =>
    rw [feed_of_idle h, ← scan_device cut pattern _ (some d), ← ih]
    have hr := round_eq_poll cut pattern deadline ⟨name, device, writeTimeout, pending⟩ b
    simp only [h, Poll.round] at hr
    exact await_of_again hr
  | case4 device b chunk d b' h ih =>
    rw [feed_of_arrived h]
    have hr := round_eq_poll cut pattern deadline ⟨name, device, writeTimeout, pending⟩ b
    simp only [h, Poll.round, settle] at hr
    simp only [Feed.scan]
    split
    · rename_i hm
      rw [hm] at hr
      exact await_of_done hr
    · rename_i hm
      rw [hm] at hr
      split <;> rename_i hc <;> rw [hc] at hr
      · exact await_of_done hr
      · rw [← ih]
        exact await_of_again hr

/-- Whatever a wait over this feed comes to, it leaves a device and a bench of this kind. -/
def Feed.All (P : Option Device → Bench World → Prop) : Feed → Prop
  | .timeUp device b => P device b
  | .failed _ device b => P device b
  | .arrival _ device b later => P (some device) b ∧ later.All P

/-- What a refused change of the timeout, a read and a report keep, a feed keeps. -/
theorem Feeds.all {P : Option Device → Bench World → Prop} {deadline : Nat} {name : String}
    {device : Option Device} {b : Bench World} {f : Feed}
    (hf : Feeds deadline name device b f) (hstart : P device b)
    (hrefused : ∀ d b, P (some d) b → P (some (d.setTimeout (patience deadline b)).2) b)
    (hread : ∀ d d₁ d' b received elapsed, P (some d) b → b.clock < deadline →
      d.setTimeout (patience deadline b) = (none, d₁) → d₁.read = (received, elapsed, d') →
      P (some d') (afterRead (patience deadline b) elapsed (chunkOf received) b))
    (hreport : ∀ device b event, P device b → P device (b.report event)) : f.All P := by
  induction hf with
  | timeUp => exact hstart
  | failed hp =>
    cases hp with
    | closed _ => exact hstart
    | refused _ hset =>
      have h := hrefused _ _ hstart
      rw [hset] at h
      exact h
    | broken hlt hset hr _ => exact hread _ _ _ _ _ _ hstart hlt hset hr
  | idle hp _ ih =>
    cases hp with
    | idle hlt hset hr hchunk _ =>
      have h := hread _ _ _ _ _ _ hstart hlt hset hr
      rw [hchunk] at h
      exact ih h
  | @arrived _ _ chunk _ _ _ hp _ ih =>
    cases hp with
    | arrived hlt hset hr _ =>
      have h := hreport _ _ (traceBytes name "read" chunk) (hread _ _ _ _ _ _ hstart hlt hset hr)
      exact ⟨h, ih h⟩

theorem Feed.All.scan {P : Option Device → Bench World → Prop} {f : Feed} (h : f.All P)
    (cut : Cut) (pattern : List UInt8) (s : Stream) :
    P (f.scan cut pattern s).2.1.device (f.scan cut pattern s).2.2 := by
  induction f generalizing s with
  | timeUp device b =>
    simp only [Feed.scan]
    cases cut s.pending <;> exact h
  | failed cause device b => exact h
  | arrival chunk device b later ih =>
    obtain ⟨hnow, hlater⟩ := h
    simp only [Feed.scan]
    cases Text.takeThrough pattern (s.pending ++ chunk) with
    | some found => exact hnow
    | none =>
      cases cut (s.pending ++ chunk) with
      | none => exact hnow
      | some kept => exact ih hlater _

end SerialScript.Serial
