import SerialScript.Proofs.Serial.Prompt

namespace SerialScript

namespace Backlog

theorem trim_length_le {pattern pending kept : List UInt8} (hshort : pattern.length ≤ capacity + 1)
    (h : trim pattern pending = some kept) : kept.length ≤ capacity := by
  unfold trim at h
  split at h
  · cases h
    assumption
  · split at h
    · cases h
    · cases h
      rw [List.length_drop]
      unfold keepCount capacity at *
      omega

end Backlog

namespace Device

theorem undelivered_setTimeout (ms : Nat) (d : Device) :
    (d.setTimeout ms).2.undelivered = d.undelivered := by
  unfold setTimeout
  split <;> rfl

theorem undelivered_flush (d : Device) : d.flush.2.undelivered = d.undelivered := by
  unfold flush
  split <;> rfl

theorem length_chunkOf_read {d d' : Device} {received : Received} {elapsed : Nat}
    (h : d.read = (received, elapsed, d')) : (Serial.chunkOf received).length ≤ readSize := by
  unfold read at h
  split at h
  · cases h
    exact List.length_take_le _ _
  · split at h
    · cases h
      exact Nat.zero_le _
    · split at h
      · cases h
        exact Nat.zero_le _
      · split at h
        · cases h
          exact Nat.zero_le _
        · cases h
          exact List.length_take_le _ _

end Device

namespace Serial

open Backlog (capacity trim)

/-- A feed of a device that is to deliver these bytes: the arrivals are the first of them, none
longer than a read, and the device keeps the others. -/
inductive Feed.Carries : List UInt8 → Feed → Prop where
  | timeUp {d b} : Feed.Carries d.undelivered (.timeUp (some d) b)
  | failed {cause d b} : Feed.Carries d.undelivered (.failed cause (some d) b)
  | arrival {chunk d b later} : chunk.length ≤ Device.readSize →
      Feed.Carries d.undelivered later →
      Feed.Carries (chunk ++ d.undelivered) (.arrival chunk d b later)

theorem Feeds.carries {deadline : Nat} {name : String} {device : Option Device} {d : Device}
    {b : Bench World} {f : Feed} (hf : Feeds deadline name device b f) (hd : device = some d) :
    f.Carries d.undelivered := by
  have hafter {d₁ d₂ d' : Device} {ms elapsed : Nat} {received : Device.Received}
      (hset : d₁.setTimeout ms = (none, d₂)) (hread : d₂.read = (received, elapsed, d')) :
      d₁.undelivered = chunkOf received ++ d'.undelivered := by
    rw [← Device.undelivered_setTimeout ms d₁, hset]
    exact Device.undelivered_read hread
  induction hf generalizing d with
  | timeUp =>
    subst hd
    exact .timeUp
  | failed hp =>
    subst hd
    cases hp with
    | refused _ hset =>
      rw [← Device.undelivered_setTimeout _ d, hset]
      exact .failed
    | broken _ hset hread =>
      rw [hafter hset hread]
      exact .failed
  | idle hp _ ih =>
    subst hd
    cases hp with
    | idle _ hset hread hchunk =>
      rw [hafter hset hread, hchunk]
      exact ih rfl
  | arrived hp _ ih =>
    subst hd
    cases hp with
    | arrived _ hset hread =>
      rw [hafter hset hread]
      exact .arrival (Device.length_chunkOf_read hread) (ih rfl)

def foundBytes : Outcome Found → List UInt8
  | .ok (some bytes) => bytes
  | _ => []

/-- What was pending and what then came, the first of what there was to come, has all been dropped,
found or left pending, in this order. -/
def Keeps (dropped pending coming : List UInt8) : Outcome Found × Stream × Bench World → Prop
  | (result, s, _) => ∃ d heard, s.device = some d ∧ coming = heard ++ d.undelivered ∧
      pending ++ heard = dropped ++ (foundBytes result ++ s.pending)

theorem SameBut.keeps {dropped pending coming : List UInt8}
    {real reference : Outcome Found × Stream × Bench World} (h : SameBut dropped real reference)
    (hkeeps : Keeps [] pending coming reference) : Keeps dropped pending coming real := by
  obtain ⟨d, heard, hd, hcoming, hall⟩ := hkeeps
  refine ⟨d, heard, ?_, hcoming, ?_⟩
  · cases h <;> exact hd
  · rw [hall]
    cases h with
    | found => exact List.append_assoc _ _ _
    | timeUp => rfl
    | failed => rfl

theorem Feed.Carries.scan_some {pattern coming : List UInt8} {s : Stream} {f : Feed}
    (h : f.Carries coming) : Keeps [] s.pending coming (f.scan some pattern s) := by
  induction h generalizing s with
  | @timeUp d b => exact ⟨d, [], rfl, rfl, List.append_nil _⟩
  | @failed cause d b => exact ⟨d, [], rfl, rfl, List.append_nil _⟩
  | @arrival chunk d b later _ _ ih =>
    simp only [Feed.scan]
    cases hm : Text.takeThrough pattern (s.pending ++ chunk) with
    | some cut => exact ⟨d, chunk, rfl, rfl, (Text.append_of_takeThrough hm).symm⟩
    | none =>
      obtain ⟨d', heard, hd, hcoming, hall⟩ :=
        ih (s := { s with device := some d, pending := s.pending ++ chunk })
      refine ⟨d', chunk ++ heard, hd, ?_, ?_⟩
      · rw [hcoming, List.append_assoc]
      · rw [← hall, List.append_assoc]

theorem readBytesWith_some_keeps (pattern : List UInt8) (ms : Nat) {s : Stream} {d : Device}
    (b : Bench World) (hd : s.device = some d) :
    Keeps [] s.pending d.undelivered (readBytesWith some pattern ms s b) := by
  unfold readBytesWith
  cases hm : Text.takeThrough pattern s.pending with
  | some cut =>
    refine ⟨d, [], hd, rfl, ?_⟩
    rw [List.append_nil]
    exact (Text.append_of_takeThrough hm).symm
  | none =>
    simp only [await_eq_scan]
    exact ((feeds_feed _ _ _ _).carries hd).scan_some

structure Bounded (outcome : Outcome Found × Stream × Bench World) : Prop where
  pending : outcome.2.1.pending.length ≤ capacity
  inAll : (foundBytes outcome.1).length + outcome.2.1.pending.length ≤ capacity + Device.readSize

theorem bounded_of_nothing {result : Outcome Found} {s : Stream} {b : Bench World}
    (hresult : foundBytes result = []) (hroom : s.pending.length ≤ capacity) :
    Bounded (result, s, b) := by
  constructor
  · exact hroom
  · simp only [hresult, List.length_nil]
    omega

/-- What a match leaves is not cut, and need not be: a match that is new ends in the last read, and
so leaves less than that read. -/
theorem Feed.Carries.scan_trim_bounded {pattern rest : List UInt8} {s : Stream} {f : Feed}
    (h : f.Carries rest) (hshort : pattern.length ≤ capacity + 1)
    (habsent : ¬ pattern <:+: s.pending) (hroom : s.pending.length ≤ capacity) :
    Bounded (f.scan (trim pattern) pattern s) := by
  induction h generalizing s with
  | timeUp =>
    simp only [Feed.scan, Backlog.trim_of_length_le hroom]
    exact bounded_of_nothing rfl hroom
  | failed => exact bounded_of_nothing rfl hroom
  | @arrival chunk d b later hchunk _ ih =>
    simp only [Feed.scan]
    cases hm : Text.takeThrough pattern (s.pending ++ chunk) with
    | some cut =>
      have hfresh := Text.length_lt_of_fresh hm habsent
      have hlen := congrArg List.length (Text.append_of_takeThrough hm)
      simp only [List.length_append] at hlen
      have hread : Device.readSize ≤ capacity := by decide
      constructor
      · dsimp only
        omega
      · dsimp only [foundBytes]
        omega
    | none =>
      cases hcut : trim pattern (s.pending ++ chunk) with
      | none =>
        have := Backlog.trim_eq_none_iff.1 hcut
        omega
      | some kept =>
        obtain ⟨more, hmore, _⟩ := Backlog.trim_eq_some hcut
        have hkept : ¬ pattern <:+: kept := by
          intro hin
          apply Text.takeThrough_eq_none_iff.1 hm
          rw [hmore]
          exact hin.trans (List.suffix_append _ _).isInfix
        exact ih (s := { s with device := some d, pending := kept }) hkept
          (Backlog.trim_length_le hshort hcut)

theorem readBytes_bounded {pattern : List UInt8} (ms : Nat) {s : Stream} {d : Device}
    (b : Bench World) (hd : s.device = some d) (hshort : pattern.length ≤ capacity + 1)
    (hroom : s.pending.length ≤ capacity) : Bounded (readBytes pattern ms s b) := by
  unfold readBytes
  cases hm : Text.takeThrough pattern s.pending with
  | some cut =>
    have hlen := congrArg List.length (Text.append_of_takeThrough hm)
    rw [List.length_append] at hlen
    constructor
    · dsimp only
      omega
    · dsimp only [foundBytes]
      omega
  | none =>
    simp only [await_eq_scan]
    exact ((feeds_feed _ _ _ _).carries hd).scan_trim_bounded hshort
      (Text.takeThrough_eq_none_iff.1 hm) hroom

theorem readBytes_keeps {pattern : List UInt8} (ms : Nat) {s : Stream} {d : Device}
    (b : Bench World) (hd : s.device = some d) (hshort : pattern.length ≤ capacity + 1) :
    ∃ dropped, Keeps dropped s.pending d.undelivered (readBytes pattern ms s b) ∧
      Settles pattern dropped (readBytes pattern ms s b) := by
  obtain ⟨dropped, hsame, hsettles⟩ := readBytes_settles ms s b (Nat.le_succ_of_le hshort)
  exact ⟨dropped, hsame.keeps (readBytesWith_some_keeps pattern ms b hd), hsettles⟩

theorem write_undelivered (data : List UInt8) {s : Stream} {d : Device} (b : Bench World)
    (hd : s.device = some d) :
    ∃ d', (write data s b).2.1 = { s with device := some d' } ∧
      d'.undelivered = d.undelivered := by
  have hset := Device.undelivered_setTimeout s.writeTimeout d
  unfold write setDeviceTimeout
  simp only [hd]
  rcases hs : d.setTimeout s.writeTimeout with ⟨_ | reason, d₁⟩
  · rw [hs] at hset
    rcases hw : writeAll d₁.timeout data d₁.acceptances with ⟨_ | _, calls, acceptances⟩
    · simp only [hw]
      exact ⟨_, rfl, hset⟩
    · have hflush := Device.undelivered_flush { d₁ with acceptances }
      simp only [hw]
      rcases hf : Device.flush { d₁ with acceptances } with ⟨_ | f, d₂⟩ <;>
        rw [hf] at hflush <;> exact ⟨_, rfl, hflush.trans hset⟩
  · rw [hs] at hset
    exact ⟨_, rfl, hset⟩

end Serial

end SerialScript
