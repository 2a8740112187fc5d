import SerialScript.Proofs.Serial.Prompt
import SerialScript.Proofs.Text.Utf8

/-!
When a wait breaks off. A cut must keep one byte less than the pattern has; a backlog that is over
capacity and still shorter than that leaves it nothing to do. Whether a wait comes to this is read
off the sizes that its backlog would have had if nothing had ever been cut.
-/

namespace SerialScript.Serial

open Backlog (capacity trim)

/-- How much would be pending at each place where a wait over this feed cuts, had nothing been
dropped before: after each arrival, and when the time is up. -/
def Feed.sizes (n : Nat) : Feed → List Nat
  | .timeUp _ _ => [n]
  | .failed _ _ _ => []
  | .arrival chunk _ _ later => (n + chunk.length) :: later.sizes (n + chunk.length)

theorem le_of_mem_sizes {f : Feed} {n size : Nat} (h : size ∈ f.sizes n) : n ≤ size := by
  induction f generalizing n with
  | timeUp device b => exact Nat.le_of_eq (List.mem_singleton.1 h).symm
  | failed cause device b => cases h
  | arrival chunk device b later ih =>
    rcases List.mem_cons.1 h with rfl | h
    · omega
    · have := ih h
      omega

/-- What was dropped before a cut does not decide whether that cut is possible. -/
theorem Trails.trim_eq_none_iff {pattern dropped pending : List UInt8} (chunk : List UInt8)
    (h : Trails pattern dropped pending) :
    trim pattern (pending ++ chunk) = none ↔
      capacity < dropped.length + pending.length + chunk.length ∧
        dropped.length + pending.length + chunk.length + 1 < pattern.length := by
  rw [Backlog.trim_eq_none_iff, List.length_append]
  rcases h.length_le with rfl | hlen
  · rw [List.length_nil, Nat.zero_add]
  · omega

theorem scan_trim_eq_broken_iff {pattern dropped : List UInt8} {s : Stream} (f : Feed)
    (h : Trails pattern dropped s.pending) :
    (f.scan (trim pattern) pattern s).1 = .error .broken ↔
      ∃ n ∈ f.sizes (dropped.length + s.pending.length),
        capacity < n ∧ n + 1 < pattern.length := by
  induction f generalizing dropped s with
  | timeUp device b =>
    have hbroken := h.trim_eq_none_iff []
    rw [List.append_nil, List.length_nil, Nat.add_zero] at hbroken
    simp only [Feed.scan, Feed.sizes, List.mem_singleton, exists_eq_left]
    rw [← hbroken]
    cases trim pattern s.pending <;> simp
  | failed cause device b => simp [Feed.scan, Feed.sizes, Outcome.fail]
  | arrival chunk device b later ih =>
    have hbroken := h.trim_eq_none_iff chunk
    simp only [Feed.scan, Feed.sizes, List.mem_cons, exists_eq_or_imp]
    cases hm : Text.takeThrough pattern (s.pending ++ chunk) with
    | some cut =>
      -- a pattern that has been found is no longer than what it was found in
      obtain ⟨hcut, hend⟩ := Text.takeThrough_eq_some_iff.1 hm
      have hfound := hend.isSuffix.length_le
      have hlen := congrArg List.length hcut
      simp only [List.length_append] at hlen
      constructor
      · intro hok
        cases hok
      · rintro (⟨_, hshort⟩ | ⟨n, hn, _, hshort⟩)
        · omega
        · have := le_of_mem_sizes hn
          omega
    | none =>
      rw [← hbroken]
      cases hcut : trim pattern (s.pending ++ chunk) with
      | none => simp
      | some kept =>
        obtain ⟨more, hmore, htrails⟩ := h.cut hm hcut
        have hsize : (dropped ++ more).length + kept.length =
            dropped.length + s.pending.length + chunk.length := by
          have := congrArg List.length hmore
          simp only [List.length_append] at this ⊢
          omega
        simp only [reduceCtorEq, false_or]
        rw [← hsize]
        exact ih htrails

theorem readBytes_eq_broken_iff (pattern : List UInt8) (ms : Nat) (s : Stream) (b : Bench World) :
    (readBytes pattern ms s b).1 = .error .broken ↔
      ∃ n ∈ (feed (b.clock + ms) s.name s.device b).sizes s.pending.length,
        capacity < n ∧ n + 1 < pattern.length := by
  unfold readBytes
  cases hm : Text.takeThrough pattern s.pending with
  | some cut =>
    obtain ⟨hcut, hend⟩ := Text.takeThrough_eq_some_iff.1 hm
    have hfound := hend.isSuffix.length_le
    have hlen := congrArg List.length hcut
    rw [List.length_append] at hlen
    constructor
    · intro hok
      cases hok
    · rintro ⟨n, hn, _, hshort⟩
      have := le_of_mem_sizes hn
      omega
  | none =>
    simp only [await_eq_scan]
    have hstart := trails_nil (Text.takeThrough_eq_none_iff.1 hm)
    have h := scan_trim_eq_broken_iff (feed (b.clock + ms) s.name s.device b) hstart
    rwa [List.length_nil, Nat.zero_add] at h

theorem readUntil_eq_broken_iff (text : String) (ms : Nat) (s : Stream) (b : Bench World) :
    (readUntil text ms s b).1 = .error .broken ↔
      (readBytes (Text.toBytes text) ms s b).1 = .error .broken := by
  unfold readUntil
  cases hr : (readBytes (Text.toBytes text) ms s b).1 with
  | error stop => simp [hr, Except.map]
  | ok found => simp [hr, Except.map]

/-- Exactly when a wait for a text breaks off: at some place where it cuts, more than 10000 bytes
are there, counted without cuts, but fewer than the bytes of the text less one. -/
theorem readUntil_breaks_iff (text : String) (ms : Nat) (s : Stream) (b : Bench World) :
    (readUntil text ms s b).1 = .error .broken ↔
      ∃ n ∈ (feed (b.clock + ms) s.name s.device b).sizes s.pending.length,
        10000 < n ∧ n + 1 < (Text.toBytes text).length := by
  rw [readUntil_eq_broken_iff, readBytes_eq_broken_iff]
  rfl

theorem Feed.Prompt.length_mem_sizes {start deadline : Nat} {rest : List UInt8} {f : Feed}
    (h : f.Prompt start deadline rest) (n : Nat) : n + rest.length ∈ f.sizes n := by
  induction h generalizing n with
  | timeUp => exact List.mem_singleton.2 rfl
  | @arrival chunk d b later _ _ _ ih =>
    rw [Feed.sizes, List.length_append, ← Nat.add_assoc]
    exact List.mem_cons_of_mem _ (ih _)

def flood (count : Nat) : Device where
  id := 0
  readings := [{ content := .ok (List.replicate count 0x78) }]
  timeout := 1000

theorem flood_prompt (count : Nat) : (flood count).Prompt where
  readings r hr := by
    rw [List.mem_singleton.1 hr]
    exact ⟨rfl, _, rfl⟩
  settings x hx := by cases hx

theorem length_undelivered_flood (count : Nat) : (flood count).undelivered.length = count := by
  simp only [flood, Device.undelivered, Reading.bytes, List.flatMap_cons, List.flatMap_nil,
    List.nil_append, List.append_nil, List.length_replicate]

theorem length_toBytes_replicate (count : Nat) (c : Char) :
    (Text.toBytes (String.ofList (List.replicate count c))).length = count * c.utf8Size := by
  rw [Text.toBytes, String.toList_ofList, Text.bytes, List.length_flatMap, List.map_replicate,
    List.sum_replicate_nat, String.length_utf8EncodeChar]

theorem openPort_flood (count : Nat) (b : Bench World)
    (hports : b.world.ports = [.ready (flood count) false]) (hfirst : b.world.handedOut = 0) :
    ∃ b', openPort "p" 9600 1000 1000 b =
      (.ok { name := "p", device := some (flood count), writeTimeout := 1000 }, b') := by
  simp only [openPort, record, hports, hfirst, Bool.false_eq_true, if_false]
  exact ⟨_, rfl⟩

theorem readUntil_breaks_of_flood {count long : Nat} (hover : capacity < count)
    (hlong : count + 1 < long) (b : Bench World)
    (hports : b.world.ports = [.ready (flood count) false]) (hfirst : b.world.handedOut = 0) :
    ∃ s b', openPort "p" 9600 1000 1000 b = (.ok s, b') ∧
      (readUntil (String.ofList (List.replicate long 'y')) 100 s b').1 = .error .broken := by
  obtain ⟨b', hopen⟩ := openPort_flood count b hports hfirst
  refine ⟨_, b', hopen, (readUntil_eq_broken_iff _ _ _ _).2
    ((readBytes_eq_broken_iff _ _ _ _).2 ⟨count, ?_, hover, ?_⟩)⟩
  · have hlater : b'.clock < b'.clock + 100 := Nat.lt_add_of_pos_right (by decide)
    have hsize := (feed_prompt "p" (flood_prompt count) hlater).length_mem_sizes 0
    rwa [length_undelivered_flood, Nat.zero_add] at hsize
  · have hy : Char.utf8Size 'y' = 1 := rfl
    rw [length_toBytes_replicate, hy]
    omega

/-- On a port just opened, a wait for a text of 10003 bytes breaks off when 10001 others come. -/
theorem readUntil_breaks_on_flood :
    ∃ s b, openPort "p" 9600 1000 1000 { world := { ports := [.ready (flood 10001) false] } } =
        (.ok s, b) ∧
      (readUntil (String.ofList (List.replicate 10003 'y')) 100 s b).1 = .error .broken :=
  readUntil_breaks_of_flood (by decide) (by decide) _ rfl rfl

end SerialScript.Serial
