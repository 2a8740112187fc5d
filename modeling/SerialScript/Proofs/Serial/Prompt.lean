import SerialScript.Proofs.Serial.Trimming

namespace SerialScript

def Reading.bytes (r : Reading) : List UInt8 :=
  match r.content with
  | .ok bytes => bytes
  | .error _ => []

namespace Device

/-- The bytes that a device is still to deliver, in order. -/
def undelivered (d : Device) : List UInt8 := d.held ++ d.readings.flatMap Reading.bytes

theorem undelivered_read {d d' : Device} {received : Received} {elapsed : Nat}
    (h : d.read = (received, elapsed, d')) :
    d.undelivered = Serial.chunkOf received ++ d'.undelivered := by
  unfold read at h
  split at h
  · rename_i hh
    cases h
    simp only [undelivered, Serial.chunkOf]
    rw [← List.append_assoc, List.take_append_drop]
  · rename_i hh
    split at h
    · cases h
      rfl
    · rename_i r rest hr
      split at h
      · cases h
        simp only [undelivered, hr, hh, Serial.chunkOf, List.flatMap_cons, Reading.bytes,
          List.nil_append]
      · split at h
        · rename_i hc
          cases h
          simp only [undelivered, hr, hh, Serial.chunkOf, List.flatMap_cons, Reading.bytes, hc,
            List.nil_append]
        · rename_i bytes hc
          cases h
          simp only [undelivered, hr, hh, Serial.chunkOf, List.flatMap_cons, Reading.bytes, hc,
            List.nil_append]
          rw [← List.append_assoc, List.take_append_drop]

structure Prompt (d : Device) : Prop where
  readings : ∀ r ∈ d.readings, r.delay = 0 ∧ ∃ bytes, r.content = .ok bytes
  settings : ∀ outcome ∈ d.settings, outcome = none

theorem Prompt.setTimeout {d d' : Device} {ms : Nat} {outcome : Option String} (h : d.Prompt)
    (hset : d.setTimeout ms = (outcome, d')) :
    outcome = none ∧ d'.Prompt ∧ d'.undelivered = d.undelivered ∧ d'.timeout = ms := by
  cases outcome with
  | some reason =>
    exfalso
    unfold Device.setTimeout at hset
    split at hset
    · rename_i hs
      have := h.settings _ (hs ▸ List.mem_cons_self)
      cases this
    · cases hset
    · cases hset
  | none =>
    rw [Serial.setTimeout_none hset]
    exact ⟨rfl, ⟨h.readings, fun x hx => h.settings x (List.mem_of_mem_tail hx)⟩, rfl, rfl⟩

/-- A read of a prompt device brings bytes without delay, or lets its time pass because nothing
is left. -/
theorem Prompt.read {d d' : Device} {received : Received} {elapsed : Nat} (h : d.Prompt)
    (hread : d.read = (received, elapsed, d')) :
    d'.Prompt ∧
      ((received = .nothingInTime ∧ elapsed = d.timeout ∧ d.undelivered = []) ∨
        (∃ chunk, received = .bytes chunk) ∧ elapsed = 0) := by
  unfold Device.read at hread
  split at hread
  · cases hread
    exact ⟨⟨h.readings, h.settings⟩, .inr ⟨⟨_, rfl⟩, rfl⟩⟩
  · rename_i hh
    split at hread
    · rename_i hr
      cases hread
      refine ⟨h, .inl ⟨rfl, rfl, ?_⟩⟩
      rw [undelivered, hh, hr]
      rfl
    · rename_i r rest hr
      obtain ⟨hdelay, bytes, hbytes⟩ := h.readings r (hr ▸ List.mem_cons_self)
      rw [hdelay, if_neg (Nat.not_lt_zero _), hbytes] at hread
      cases hread
      refine ⟨⟨fun r' hr' => h.readings r' ?_, h.settings⟩, .inr ⟨⟨_, rfl⟩, rfl⟩⟩
      rw [hr]
      exact List.mem_cons_of_mem _ hr'

end Device

namespace Serial

open Backlog (capacity)

inductive Feed.Prompt (start deadline : Nat) : List UInt8 → Feed → Prop where
  | timeUp {d b} : d.Prompt → d.undelivered = [] → b.clock = deadline →
      Feed.Prompt start deadline [] (.timeUp (some d) b)
  | arrival {chunk d b later} : d.Prompt → b.clock = start →
      Feed.Prompt start deadline d.undelivered later →
      Feed.Prompt start deadline (chunk ++ d.undelivered) (.arrival chunk d b later)

/-- The feed of a prompt device, from its start on or in the silence that follows. -/
theorem Feeds.prompt {start deadline : Nat} {name : String} {device : Option Device} {d : Device}
    {b : Bench World} {f : Feed} (hf : Feeds deadline name device b f) (hd : device = some d)
    (h : d.Prompt)
    (hwhen : b.clock = start ∧ start < deadline ∨ d.undelivered = [] ∧ b.clock ≤ deadline) :
    f.Prompt start deadline d.undelivered := by
  induction hf generalizing d with
  | timeUp hp =>
    subst hd
    cases hp with
    | timeUp hup =>
      obtain ⟨hempty, hclock⟩ : d.undelivered = [] ∧ _ ≤ deadline := by
        rcases hwhen with hwhen | hwhen
        · omega
        · exact hwhen
      rw [hempty]
      exact .timeUp h hempty (Nat.le_antisymm hclock hup)
  | failed hp =>
    subst hd
    cases hp with
    | refused _ hset => cases (h.setTimeout hset).1
    | broken _ hset hread =>
      obtain ⟨_, ⟨hnothing, _⟩ | ⟨⟨_, hbytes⟩, _⟩⟩ := (h.setTimeout hset).2.1.read hread
      · cases hnothing
      · cases hbytes
  | idle hp _ ih =>
    subst hd
    cases hp with
    | idle hlt hset hread hchunk =>
      obtain ⟨_, hprompt, hund, htimeout⟩ := h.setTimeout hset
      have hsame := Device.undelivered_read hread
      rw [hchunk, List.nil_append, hund] at hsame
      rw [hsame]
      obtain ⟨hprompt', ⟨_, helapsed, hempty⟩ | ⟨_, helapsed⟩⟩ := hprompt.read hread
      · refine ih rfl hprompt' (.inr ⟨by rw [← hsame, ← hund, hempty], ?_⟩)
        simp only [afterRead, record, Bench.wait, helapsed, htimeout, patience]
        omega
      · subst helapsed
        exact ih rfl hprompt' (hsame ▸ hwhen)
  | arrived hp _ ih =>
    subst hd
    cases hp with
    | arrived hlt hset hread hne =>
      obtain ⟨_, hprompt, hund, _⟩ := h.setTimeout hset
      have htaken := Device.undelivered_read hread
      rw [hund] at htaken
      obtain ⟨hprompt', ⟨hnothing, _⟩ | ⟨_, helapsed⟩⟩ := hprompt.read hread
      · cases hnothing
      subst helapsed
      rw [htaken]
      rcases hwhen with hwhen | ⟨hempty, _⟩
      · exact .arrival hprompt' hwhen.1 (ih rfl hprompt' (.inl hwhen))
      · rw [htaken] at hempty
        exact absurd (List.append_eq_nil_iff.1 hempty).1 hne

theorem feed_prompt {deadline : Nat} {d : Device} {b : Bench World} (name : String)
    (h : d.Prompt) (hlt : b.clock < deadline) :
    (feed deadline name (some d) b).Prompt b.clock deadline d.undelivered :=
  (feeds_feed deadline name (some d) b).prompt rfl h (.inl ⟨rfl, hlt⟩)

/-- How a wait ends when all that will ever come is there at its start: at once with the first
occurrence, or at the deadline with everything pending. -/
inductive Served (start deadline : Nat) (pattern all : List UInt8) (s : Stream) :
    Outcome Found × Stream × Bench World → Prop where
  | found {found pending d b} :
      Text.takeThrough pattern all = some (found, pending ++ d.undelivered) → d.Prompt →
      b.clock = start →
      Served start deadline pattern all s
        (.ok (some found), { s with device := some d, pending }, b)
  | missing {d b} : Text.takeThrough pattern all = none → d.Prompt → d.undelivered = [] →
      b.clock = deadline →
      Served start deadline pattern all s (.ok none, { s with device := some d, pending := all }, b)

theorem Served.of_stream {start deadline : Nat} {pattern all pending : List UInt8} {s : Stream}
    {device : Option Device} {outcome : Outcome Found × Stream × Bench World}
    (h : Served start deadline pattern all { s with device, pending } outcome) :
    Served start deadline pattern all s outcome := by
  cases h with
  | found hfound hprompt hclock => exact .found hfound hprompt hclock
  | missing hmissing hprompt hempty hclock => exact .missing hmissing hprompt hempty hclock

theorem Feed.Prompt.scan {start deadline : Nat} {cut : Cut} {pattern rest : List UInt8}
    {s : Stream} {f : Feed} (h : f.Prompt start deadline rest)
    (hcut : ∀ bytes, bytes.length ≤ (s.pending ++ rest).length → cut bytes = some bytes)
    (hnone : Text.takeThrough pattern s.pending = none) :
    Served start deadline pattern (s.pending ++ rest) s (f.scan cut pattern s) := by
  induction h generalizing s with
  | timeUp hprompt hempty hclock =>
    simp only [Feed.scan]
    rw [List.append_nil] at hcut ⊢
    rw [hcut _ (Nat.le_refl _)]
    exact .missing hnone hprompt hempty hclock
  | @arrival chunk d b later hprompt hclock _ ih =>
    simp only [Feed.scan]
    rw [← List.append_assoc] at hcut ⊢
    cases hm : Text.takeThrough pattern (s.pending ++ chunk) with
    | some cut' => exact .found (Text.takeThrough_append hm _) hprompt hclock
    | none =>
      rw [hcut _ (List.prefix_append _ d.undelivered).length_le]
      exact (ih (s := { s with device := some d, pending := s.pending ++ chunk }) hcut hm).of_stream

theorem readBytesWith_prompt {cut : Cut} {pattern : List UInt8} {ms : Nat} {s : Stream}
    {d : Device} (b : Bench World) (hd : s.device = some d) (hprompt : d.Prompt) (hms : 0 < ms)
    (hcut : ∀ bytes, bytes.length ≤ (s.pending ++ d.undelivered).length → cut bytes = some bytes) :
    Served b.clock (b.clock + ms) pattern (s.pending ++ d.undelivered) s
      (readBytesWith cut pattern ms s b) := by
  unfold readBytesWith
  cases hm : Text.takeThrough pattern s.pending with
  | some taken =>
    have hs : ({ s with pending := taken.2 } : Stream) =
        { s with device := some d, pending := taken.2 } := by rw [← hd]
    dsimp only
    rw [hs]
    exact .found (Text.takeThrough_append hm _) hprompt rfl
  | none =>
    simp only [await_eq_scan, hd]
    exact (feed_prompt s.name hprompt (by omega)).scan hcut hm

theorem readBytes_prompt (pattern : List UInt8) {ms : Nat} {s : Stream} {d : Device}
    (b : Bench World) (hd : s.device = some d) (hprompt : d.Prompt) (hms : 0 < ms)
    (hroom : (s.pending ++ d.undelivered).length ≤ capacity) :
    Served b.clock (b.clock + ms) pattern (s.pending ++ d.undelivered) s
      (readBytes pattern ms s b) :=
  readBytesWith_prompt b hd hprompt hms fun _ hle =>
    Backlog.trim_of_length_le (Nat.le_trans hle hroom)

end Serial

end SerialScript
