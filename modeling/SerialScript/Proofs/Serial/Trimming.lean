import SerialScript.Proofs.Serial.Feed
import SerialScript.Proofs.Text.Occurrence
import SerialScript.Transport.Serial

/-!
Cutting a backlog never changes what a wait finds. The wait is compared with one that is the same
but keeps everything. Both hear the same feed; the backlog of the one trails that of the other by
a stretch in which no occurrence can begin that is still to end.
-/

namespace SerialScript

namespace Backlog

theorem trim_eq_none_iff {pattern pending : List UInt8} :
    trim pattern pending = none ↔
      capacity < pending.length ∧ pending.length + 1 < pattern.length := by
  unfold trim keepCount capacity
  split
  · constructor
    · intro h
      cases h
    · omega
  · split
    · exact ⟨fun _ => by omega, fun _ => rfl⟩
    · constructor
      · intro h
        cases h
      · omega

theorem trim_of_length_le {pattern pending : List UInt8} (h : pending.length ≤ capacity) :
    trim pattern pending = some pending := if_pos h

theorem trim_eq_some {pattern pending kept : List UInt8} (h : trim pattern pending = some kept) :
    ∃ dropped, pending = dropped ++ kept ∧
      (dropped = [] ∨ capacity < pending.length ∧ kept.length = keepCount pattern) := by
  unfold trim at h
  split at h
  · cases h
    exact ⟨[], rfl, .inl rfl⟩
  · split at h
    · cases h
    · cases h
      refine ⟨pending.take (pending.length - keepCount pattern), ?_, .inr ⟨by omega, ?_⟩⟩
      · rw [List.take_append_drop]
      · rw [List.length_drop]
        omega

theorem length_le_keepCount (pattern : List UInt8) : pattern.length ≤ keepCount pattern + 1 := by
  unfold keepCount
  omega

theorem half_le_keepCount (pattern : List UInt8) : capacity / 2 ≤ keepCount pattern :=
  Nat.le_max_left _ _

end Backlog

namespace Serial

open Backlog (capacity keepCount trim)

/-- `readBytes` with any way of cutting what is pending; with `some` nothing is ever cut. -/
def readBytesWith (cut : Cut) (pattern : List UInt8) (ms : Nat) (s : Stream) (b : Bench World) :
    Outcome Found × Stream × Bench World :=
  match Text.takeThrough pattern s.pending with
  | some (found, rest) => (.ok (some found), { s with pending := rest }, b)
  | none => await cut pattern (b.clock + ms) s b

theorem readBytes_eq_readBytesWith (pattern : List UInt8) :
    readBytes pattern = readBytesWith (trim pattern) pattern := rfl

/-- Two outcomes with the same bench and the same end, on streams that differ in what is pending
at most. What the first found, or has pending when it found nothing, is what the second found or
has pending without the bytes dropped. -/
inductive SameBut (dropped : List UInt8) :
    Outcome Found × Stream × Bench World → Outcome Found × Stream × Bench World → Prop where
  | found {bytes s b} :
      SameBut dropped (.ok (some bytes), s, b) (.ok (some (dropped ++ bytes)), s, b)
  | timeUp {s b} :
      SameBut dropped (.ok none, s, b) (.ok none, { s with pending := dropped ++ s.pending }, b)
  | failed {cause s b} :
      SameBut dropped (.fail cause, s, b)
        (.fail cause, { s with pending := dropped ++ s.pending }, b)

/-- A backlog from which a stretch was dropped, as it is between reads: the pattern is nowhere,
and if anything was dropped then capacity was exceeded and enough is left. -/
structure Trails (pattern dropped pending : List UInt8) : Prop where
  absent : ¬ pattern <:+: dropped ++ pending
  enough : dropped = [] ∨
    capacity < dropped.length + pending.length ∧ keepCount pattern ≤ pending.length

theorem trails_nil {pattern pending : List UInt8} (h : ¬ pattern <:+: pending) :
    Trails pattern [] pending := ⟨h, .inl rfl⟩

theorem Trails.length_le {pattern dropped pending : List UInt8}
    (h : Trails pattern dropped pending) :
    dropped = [] ∨ pattern.length ≤ pending.length + 1 := by
  have := Backlog.length_le_keepCount pattern
  rcases h.enough with h | h
  · exact .inl h
  · exact .inr (by omega)

theorem Trails.cut {pattern dropped pending chunk kept : List UInt8}
    (h : Trails pattern dropped pending)
    (hnone : Text.takeThrough pattern (pending ++ chunk) = none)
    (hcut : trim pattern (pending ++ chunk) = some kept) :
    ∃ more, pending ++ chunk = more ++ kept ∧ Trails pattern (dropped ++ more) kept := by
  obtain ⟨more, hmore, hlen⟩ := Backlog.trim_eq_some hcut
  have habsent : ¬ pattern <:+: dropped ++ (pending ++ chunk) := by
    rw [← Text.takeThrough_eq_none_iff, Text.takeThrough_append_left h.absent h.length_le, hnone]
    rfl
  refine ⟨more, hmore, by rwa [List.append_assoc, ← hmore], ?_⟩
  have hsize := congrArg List.length hmore
  simp only [List.length_append] at hsize hlen ⊢
  rcases hlen with rfl | ⟨hover, hkept⟩
  · rcases h.enough with rfl | ⟨hover, hkept⟩
    · exact .inl rfl
    · simp only [List.length_nil, Nat.zero_add] at hsize
      exact .inr (by omega)
  · exact .inr (by omega)

/-- What the bytes dropped in the course of a wait are worth at its end. -/
def Settles (pattern dropped : List UInt8) : Outcome Found × Stream × Bench World → Prop
  | (.ok (some found), _, _) => dropped = [] ∨ capacity < dropped.length + found.length
  | (_, s, _) => Trails pattern dropped s.pending

/-- Along a feed the backlog that is cut trails the one that is not until both waits end. -/
theorem scan_trim {pattern dropped : List UInt8} {s : Stream} (f : Feed)
    (hshort : pattern.length ≤ capacity + 2) (h : Trails pattern dropped s.pending) :
    ∃ dropped', SameBut dropped' (f.scan (trim pattern) pattern s)
        (f.scan some pattern { s with pending := dropped ++ s.pending }) ∧
      Settles pattern dropped' (f.scan (trim pattern) pattern s) := by
  have hcuts : ∀ pending, ∃ kept, trim pattern pending = some kept := by
    intro pending
    refine Option.ne_none_iff_exists'.1 fun hnone => ?_
    have := Backlog.trim_eq_none_iff.1 hnone
    omega
  induction f generalizing dropped s with
  | timeUp device b =>
    obtain ⟨kept, hkept⟩ := hcuts s.pending
    have hnone : Text.takeThrough pattern (s.pending ++ []) = none := by
      rw [List.append_nil, Text.takeThrough_eq_none_iff]
      exact fun hin => h.absent (hin.trans (List.suffix_append _ _).isInfix)
    obtain ⟨more, hmore, htrails⟩ := h.cut hnone (by rwa [List.append_nil])
    rw [List.append_nil] at hmore
    refine ⟨dropped ++ more, ?_, ?_⟩
    · simp only [Feed.scan, hkept]
      rw [hmore, ← List.append_assoc]
      exact .timeUp
    · simp only [Feed.scan, hkept, Settles]
      exact htrails
  | failed cause device b => exact ⟨dropped, .failed, h⟩
  | arrival chunk device b later ih =>
    have hleft := Text.takeThrough_append_left h.absent h.length_le chunk
    simp only [Feed.scan]
    rw [List.append_assoc, hleft]
    cases hm : Text.takeThrough pattern (s.pending ++ chunk) with
    | some cut =>
      refine ⟨dropped, .found, ?_⟩
      have hfresh := Text.length_lt_of_fresh hm fun hin =>
        h.absent (hin.trans (List.suffix_append _ _).isInfix)
      rcases h.enough with hnil | ⟨hover, _⟩
      · exact .inl hnil
      · exact .inr (by omega)
    | none =>
      obtain ⟨kept, hkept⟩ := hcuts (s.pending ++ chunk)
      obtain ⟨more, hmore, htrails⟩ := h.cut hm hkept
      simp only [hkept, Option.map_none]
      rw [hmore, ← List.append_assoc]
      exact ih htrails

theorem readBytes_settles {pattern : List UInt8} (ms : Nat) (s : Stream) (b : Bench World)
    (hshort : pattern.length ≤ capacity + 2) :
    ∃ dropped, SameBut dropped (readBytes pattern ms s b) (readBytesWith some pattern ms s b) ∧
      Settles pattern dropped (readBytes pattern ms s b) := by
  rw [readBytes_eq_readBytesWith]
  unfold readBytesWith
  cases hm : Text.takeThrough pattern s.pending with
  | some cut => exact ⟨[], .found, .inl rfl⟩
  | none =>
    simp only [await_eq_scan]
    exact scan_trim _ hshort (trails_nil (Text.takeThrough_eq_none_iff.1 hm))

/-- A read with cuts and a read without them make the same calls at the same times and end in the
same way, for any pattern that every cut leaves room for. -/
theorem readBytes_sameBut_untrimmed (pattern : List UInt8) (ms : Nat) (s : Stream)
    (b : Bench World) (hshort : pattern.length ≤ 10001) :
    ∃ dropped, SameBut dropped (readBytes pattern ms s b) (readBytesWith some pattern ms s b) := by
  obtain ⟨dropped, hsame, _⟩ :=
    readBytes_settles ms s b (Nat.le_trans hshort (Nat.le_succ (capacity + 1)))
  exact ⟨dropped, hsame⟩

/-- A device that brings noise, long enough for two cuts, and 10 ms later `OK`. -/
def noisy : Device where
  id := 0
  readings :=
    [{ content := .ok (List.replicate 16000 0x2E) },
      { delay := 10, content := .ok [0x4F, 0x4B] }]
  timeout := 1000

theorem readBytes_sameBut_untrimmed_of_noise :
    [(0x4F : UInt8), 0x4B].length ≤ 10001 ∧
      ∃ dropped, SameBut dropped
        (readBytes [0x4F, 0x4B] 100 { name := "p", device := some noisy, writeTimeout := 1000 }
          { world := {} })
        (readBytesWith some [0x4F, 0x4B] 100
          { name := "p", device := some noisy, writeTimeout := 1000 } { world := {} }) :=
  ⟨by decide, readBytes_sameBut_untrimmed [0x4F, 0x4B] 100 _ _ (by decide)⟩

end Serial

end SerialScript
