import SerialScript.Proofs.Serial.Overrun

/-!
A wait is over by its deadline. Every poll ends by then, because none is asked to last longer than
the time left; when the time is up the clock stands at the deadline and not past it. Rounds that
take no time use up something of the device, so there are only so many of them.
-/

namespace SerialScript

theorem Device.elapsed_le_timeout {d d' : Device} {received : Received} {elapsed : Nat}
    (h : d.read = (received, elapsed, d')) : elapsed ≤ d.timeout := by
  unfold read at h
  split at h
  · cases h
    exact Nat.zero_le _
  · split at h
    · cases h
      exact Nat.le_refl _
    · split at h
      · cases h
        exact Nat.le_refl _
      · rename_i hdue
        split at h <;> cases h <;> exact Nat.le_of_not_lt hdue

namespace Serial

open Backlog (trim)

/-- From one bench to the other no more time has passed than there was, and the device was never
told to wait longer than the time then left, nor than one poll, nor not at all. -/
structure InTime (deadline : Nat) (b b' : Bench World) : Prop where
  forward : b.clock ≤ b'.clock
  byDeadline : b'.clock ≤ deadline
  settings : ∃ calls, b'.world.calls.toList = b.world.calls.toList ++ calls ∧
    ∀ time ms, (time, Call.timeoutSet ms) ∈ calls →
      b.clock ≤ time ∧ 1 ≤ ms ∧ ms ≤ min 20 (deadline - time)

section InTime

variable {deadline : Nat} {b b₁ b₂ : Bench World}

theorem inTime_refl (h : b.clock ≤ deadline) : InTime deadline b b where
  forward := Nat.le_refl _
  byDeadline := h
  settings := by
    refine ⟨[], (List.append_nil _).symm, ?_⟩
    intro time ms hmem
    cases hmem

theorem InTime.trans (h₁ : InTime deadline b b₁) (h₂ : InTime deadline b₁ b₂) :
    InTime deadline b b₂ where
  forward := Nat.le_trans h₁.forward h₂.forward
  byDeadline := h₂.byDeadline
  settings := by
    obtain ⟨calls₁, heq₁, hcalls₁⟩ := h₁.settings
    obtain ⟨calls₂, heq₂, hcalls₂⟩ := h₂.settings
    refine ⟨calls₁ ++ calls₂, ?_, ?_⟩
    · rw [heq₂, heq₁, List.append_assoc]
    · intro time ms hmem
      rcases List.mem_append.1 hmem with hmem | hmem
      · exact hcalls₁ time ms hmem
      · obtain ⟨htime, hms⟩ := hcalls₂ time ms hmem
        exact ⟨Nat.le_trans h₁.forward htime, hms⟩

theorem InTime.report (h : InTime deadline b b₁) (event : Event) :
    InTime deadline b (b₁.report event) := ⟨h.forward, h.byDeadline, h.settings⟩

theorem inTime_afterRead {elapsed : Nat} (chunk : List UInt8) (hlt : b.clock < deadline)
    (helapsed : elapsed ≤ patience deadline b) :
    InTime deadline b (afterRead (patience deadline b) elapsed chunk b) where
  forward := Nat.le_add_right _ _
  byDeadline := by
    have hleft : patience deadline b ≤ deadline - b.clock := Nat.min_le_left _ _
    have hclock : (afterRead (patience deadline b) elapsed chunk b).clock = b.clock + elapsed := rfl
    omega
  settings := by
    refine ⟨[(b.clock, .timeoutSet (patience deadline b)), (b.clock + elapsed, .read chunk)],
      ?_, ?_⟩
    · simp [afterRead, record, Bench.wait]
    · intro time ms hmem
      have hset : time = b.clock ∧ ms = patience deadline b := by simpa using hmem
      obtain ⟨rfl, rfl⟩ := hset
      unfold patience pollInterval
      omega

end InTime

theorem feed_inTime {deadline : Nat} {b : Bench World} (name : String) (device : Option Device)
    (h : b.clock ≤ deadline) :
    (feed deadline name device b).All fun _ b' => InTime deadline b b' := by
  apply (feeds_feed deadline name device b).all (inTime_refl h)
  · intro _ _ hin
    exact hin
  · intro d d₁ d' b' received elapsed hin hlt hset hread
    have helapsed := Device.elapsed_le_timeout hread
    rw [setTimeout_none hset] at helapsed
    exact hin.trans (inTime_afterRead _ hlt helapsed)
  · intro _ _ event hin
    exact hin.report event

theorem Feeds.le_clock_of_scan {deadline : Nat} {name : String} {device : Option Device}
    {b : Bench World} {f : Feed} {cut : Cut} {pattern : List UInt8} {s : Stream}
    (hf : Feeds deadline name device b f) (hnone : (f.scan cut pattern s).1 = .ok none) :
    deadline ≤ (f.scan cut pattern s).2.2.clock := by
  induction hf generalizing s with
  | timeUp hp =>
    cases hp with
    | timeUp hup =>
      simp only [Feed.scan]
      cases cut s.pending <;> exact hup
  | failed hp => cases hnone
  | idle hp _ ih => exact ih hnone
  | @arrived _ _ chunk _ _ _ hp _ ih =>
    simp only [Feed.scan] at hnone ⊢
    cases hm : Text.takeThrough pattern (s.pending ++ chunk) with
    | some found =>
      rw [hm] at hnone
      cases hnone
    | none =>
      rw [hm] at hnone
      cases hcut : cut (s.pending ++ chunk) with
      | none =>
        rw [hcut] at hnone
        cases hnone
      | some kept =>
        rw [hcut] at hnone
        exact ih hnone

theorem readBytes_inTime (pattern : List UInt8) (ms : Nat) (s : Stream) (b : Bench World) :
    InTime (b.clock + ms) b (readBytes pattern ms s b).2.2 ∧
      ((readBytes pattern ms s b).1 = .ok none →
        (readBytes pattern ms s b).2.2.clock = b.clock + ms) := by
  have hlater : b.clock ≤ b.clock + ms := Nat.le_add_right _ _
  unfold readBytes
  cases hm : Text.takeThrough pattern s.pending with
  | some cut =>
    refine ⟨inTime_refl hlater, ?_⟩
    intro hnone
    cases hnone
  | none =>
    simp only [await_eq_scan]
    have hin := (feed_inTime s.name s.device hlater).scan (trim pattern) pattern s
    refine ⟨hin, ?_⟩
    intro hnone
    exact Nat.le_antisymm hin.byDeadline ((feeds_feed _ _ _ _).le_clock_of_scan hnone)

/-- `await` with no more than this many rounds, and nothing if they do not suffice. -/
def awaitIn (cut : Cut) (pattern : List UInt8) (deadline : Nat) :
    Nat → Stream → Bench World → Option (Outcome Found × Stream × Bench World)
  | 0, _, _ => none
  | rounds + 1, s, b =>
    match round cut pattern deadline s b with
    | .done result s b => some (result, s, b)
    | .again s b => awaitIn cut pattern deadline rounds s b

theorem awaitIn_eq_await {cut : Cut} {pattern : List UInt8} {deadline rounds : Nat} {s : Stream}
    {b : Bench World} (h : budget deadline s b < rounds) :
    awaitIn cut pattern deadline rounds s b = some (await cut pattern deadline s b) := by
  induction rounds generalizing s b with
  | zero => exact absurd h (Nat.not_lt_zero _)
  | succ rounds ih =>
    unfold awaitIn
    cases hr : round cut pattern deadline s b with
    | done result s' b' => rw [await_of_done hr]
    | again s' b' =>
      have hless : budget deadline s' b' < rounds :=
        Nat.lt_of_lt_of_le (budget_round hr) (Nat.le_of_lt_succ h)
      rw [await_of_again hr]
      exact ih hless

def readBytesIn (rounds : Nat) (pattern : List UInt8) (ms : Nat) (s : Stream) (b : Bench World) :
    Option (Outcome Found × Stream × Bench World) :=
  match Text.takeThrough pattern s.pending with
  | some (found, rest) => some (.ok (some found), { s with pending := rest }, b)
  | none => awaitIn (trim pattern) pattern (b.clock + ms) rounds s b

def readUntilIn (rounds : Nat) (text : String) (ms : Nat) (s : Stream) (b : Bench World) :
    Option (Outcome String × Stream × Bench World) :=
  (readBytesIn rounds (Text.toBytes text) ms s b).map fun (result, s, b) =>
    (result.map Found.text, s, b)

theorem readBytesIn_eq_readBytes (pattern : List UInt8) (ms : Nat) {s : Stream} {d : Device}
    (b : Bench World) (hd : s.device = some d) :
    readBytesIn (ms + d.load + 1) pattern ms s b = some (readBytes pattern ms s b) := by
  unfold readBytesIn readBytes
  cases hm : Text.takeThrough pattern s.pending with
  | some cut => rfl
  | none =>
    have henough : budget (b.clock + ms) s b < ms + d.load + 1 := by
      simp only [budget, hd, Option.map_some, Option.getD_some]
      omega
    exact awaitIn_eq_await henough

theorem readUntilIn_eq_readUntil (text : String) (ms : Nat) {s : Stream} {d : Device}
    (b : Bench World) (hd : s.device = some d) :
    readUntilIn (ms + d.load + 1) text ms s b = some (readUntil text ms s b) := by
  rw [readUntilIn, readBytesIn_eq_readBytes (Text.toBytes text) ms b hd]
  rfl

theorem suffix_of_scan_found {cut : Cut} {pattern found : List UInt8} {s : Stream} {f : Feed}
    (h : (f.scan cut pattern s).1 = .ok (some found)) : pattern <:+ found := by
  induction f generalizing s with
  | timeUp device b =>
    simp only [Feed.scan] at h
    split at h <;> cases h
  | failed cause device b => cases h
  | arrival chunk device b later ih =>
    simp only [Feed.scan] at h
    split at h
    · rename_i found' rest hm
      cases h
      exact (Text.takeThrough_eq_some_iff.1 hm).2.isSuffix
    · split at h
      · cases h
      · exact ih h

theorem suffix_of_found {pattern found : List UInt8} {ms : Nat} {s : Stream} {b : Bench World}
    (h : (readBytes pattern ms s b).1 = .ok (some found)) : pattern <:+ found := by
  unfold readBytes at h
  split at h
  · rename_i found' rest hm
    cases h
    exact (Text.takeThrough_eq_some_iff.1 hm).2.isSuffix
  · rw [await_eq_scan] at h
    exact suffix_of_scan_found h

/-- The empty text is never what a wait has found, unless that was waited for. -/
theorem readBytes_of_empty {text : String} {ms : Nat} {s s' : Stream} {b b' : Bench World}
    (htext : text ≠ "") (h : readUntil text ms s b = (.ok "", s', b')) :
    readBytes (Text.toBytes text) ms s b = (.ok none, s', b') := by
  unfold readUntil at h
  rcases hr : readBytes (Text.toBytes text) ms s b with ⟨result, s₁, b₁⟩
  rw [hr] at h
  cases result with
  | error stop => cases h
  | ok found =>
    cases found with
    | none =>
      cases h
      rfl
    | some bytes =>
      obtain ⟨hresult, _⟩ := Prod.mk.inj h
      have hbytes : bytes = [] := Text.decodeLossy_eq_empty (Except.ok.inj hresult)
      have hsuffix : Text.toBytes text <:+ bytes := suffix_of_found (congrArg Prod.fst hr)
      rw [hbytes, List.suffix_nil] at hsuffix
      exact absurd (Text.toBytes_eq_nil hsuffix) htext

/-- A wait for a text on an open stream ends after finitely many rounds, and not by breaking off. It
never takes longer than it was given, and exactly as long if it has nothing to show; and no timeout
that it sets on the device is zero, longer than a poll or longer than the time left. -/
theorem readUntil_by_deadline (text : String) (ms : Nat) (s : Stream) (d : Device)
    (b : Bench World) (hd : s.device = some d) (htext : text ≠ "")
    (hshort : (Text.toBytes text).length ≤ 10001) :
    readUntilIn (ms + d.load + 1) text ms s b = some (readUntil text ms s b) ∧
      (readUntil text ms s b).1 ≠ .error .broken ∧
      InTime (b.clock + ms) b (readUntil text ms s b).2.2 ∧
      ((readUntil text ms s b).1 = .ok "" →
        (readUntil text ms s b).2.2.clock = b.clock + ms) := by
  have hbench : (readUntil text ms s b).2.2 = (readBytes (Text.toBytes text) ms s b).2.2 := rfl
  obtain ⟨hin, hexact⟩ := readBytes_inTime (Text.toBytes text) ms s b
  refine ⟨readUntilIn_eq_readUntil text ms b hd, ?_, hbench ▸ hin, ?_⟩
  · rw [Ne, readUntil_eq_broken_iff, readBytes_eq_broken_iff]
    rintro ⟨n, _, hover, hlong⟩
    unfold Backlog.capacity at hover
    omega
  · intro hempty
    have hall : readUntil text ms s b =
        (.ok "", (readUntil text ms s b).2.1, (readUntil text ms s b).2.2) := Prod.ext hempty rfl
    rw [hbench]
    exact hexact (congrArg Prod.fst (readBytes_of_empty htext hall))

/-- A device with something of everything: bytes at once and late, nothing, a timeout of its own and
at last a change of the timeout that fails. -/
def moody : Device where
  id := 0
  readings :=
    [{ content := .ok [0x2E] }, { delay := 7, content := .ok [] },
      { content := .error { kind := .timedOut, message := "slow" } },
      { delay := 25, content := .ok [0x4F] }, { delay := 900, content := .ok [0x4B] }]
  settings := [none, none, none, none, none, none, some "gone"]
  timeout := 1000

theorem readUntil_by_deadline_of_moody :
    "OK" ≠ "" ∧ (Text.toBytes "OK").length ≤ 10001 ∧
      let s : Stream := { name := "p", device := some moody, writeTimeout := 1000 }
      let b : Bench World := { world := {}, clock := 3 }
      readUntilIn (250 + moody.load + 1) "OK" 250 s b = some (readUntil "OK" 250 s b) ∧
        (readUntil "OK" 250 s b).1 ≠ .error .broken ∧
        InTime (3 + 250) b (readUntil "OK" 250 s b).2.2 ∧
        ((readUntil "OK" 250 s b).1 = .ok "" →
          (readUntil "OK" 250 s b).2.2.clock = 3 + 250) :=
  ⟨by decide, by decide,
    readUntil_by_deadline "OK" 250 _ moody _ rfl (by decide) (by decide)⟩

end Serial

end SerialScript
