import SerialScript.Proofs.Serial.Overrun
import SerialScript.Proofs.Session.Failing
import SerialScript.Proofs.Text.Lossy

namespace SerialScript

namespace Serial

open Backlog (trim)
open Text (FirstEnd takeThrough)

def Feed.heard : Feed → List UInt8
  | .timeUp _ _ => []
  | .failed _ _ _ => []
  | .arrival chunk _ _ later => chunk ++ later.heard

/-- What the port of a stream brings by a deadline and before the first error, if nobody stops
listening. -/
def heardBy (deadline : Nat) (s : Stream) (b : Bench World) : List UInt8 :=
  (feed deadline s.name s.device b).heard

/-- Found bytes end in the first occurrence there is, and are what came before what is still
pending, but for the bytes dropped in front of them. -/
structure FoundIn (pattern received found pending : List UInt8) : Prop where
  firstEnd : FirstEnd pattern found
  came : ∃ dropped, dropped ++ (found ++ pending) <+: received

/-- A match says nothing of what is heard later. -/
theorem FoundIn.more {pattern received found pending : List UInt8}
    (h : FoundIn pattern received found pending) (later : List UInt8) :
    FoundIn pattern (received ++ later) found pending := by
  obtain ⟨dropped, hprefix⟩ := h.came
  exact ⟨h.firstEnd, dropped, hprefix.trans (List.prefix_append _ _)⟩

theorem foundIn_of_takeThrough {pattern pending found rest : List UInt8}
    (h : takeThrough pattern pending = some (found, rest)) (dropped : List UInt8) :
    FoundIn pattern (dropped ++ pending) found rest := by
  obtain ⟨hcut, hend⟩ := Text.takeThrough_eq_some_iff.1 h
  exact ⟨hend, dropped, hcut ▸ List.prefix_rfl⟩

theorem FoundIn.occurs {pattern received found pending : List UInt8}
    (h : FoundIn pattern received found pending) : pattern <:+: received := by
  obtain ⟨dropped, hprefix⟩ := h.came
  have hfound : found <:+: dropped ++ (found ++ pending) := ⟨dropped, pending, by simp⟩
  exact (h.firstEnd.isSuffix.isInfix.trans hfound).trans hprefix.isInfix

theorem scan_foundIn {pattern dropped found : List UInt8} {s s' : Stream} {b' : Bench World}
    {f : Feed} (h : Trails pattern dropped s.pending)
    (hfound : f.scan (trim pattern) pattern s = (.ok (some found), s', b')) :
    FoundIn pattern (dropped ++ s.pending ++ f.heard) found s'.pending := by
  induction f generalizing dropped s with
  | timeUp device b =>
    simp only [Feed.scan] at hfound
    cases hcut : trim pattern s.pending <;> simp [hcut] at hfound
  | failed cause device b => cases hfound
  | arrival chunk device b later ih =>
    simp only [Feed.scan] at hfound
    rw [Feed.heard, ← List.append_assoc, List.append_assoc dropped]
    cases hm : takeThrough pattern (s.pending ++ chunk) with
    | some cut =>
      rw [hm] at hfound
      cases hfound
      exact (foundIn_of_takeThrough hm dropped).more later.heard
    | none =>
      rw [hm] at hfound
      cases hcut : trim pattern (s.pending ++ chunk) with
      | none =>
        rw [hcut] at hfound
        cases hfound
      | some kept =>
        rw [hcut] at hfound
        obtain ⟨more, hmore, htrails⟩ := h.cut hm hcut
        rw [hmore, ← List.append_assoc]
        exact ih htrails hfound

/-- A scan that does not break off finds what is there to be heard. -/
theorem exists_found_of_infix {pattern dropped : List UInt8} {s : Stream} {f : Feed}
    (h : Trails pattern dropped s.pending)
    (hsound : (f.scan (trim pattern) pattern s).1 ≠ .error .broken)
    (hin : pattern <:+: dropped ++ s.pending ++ f.heard) :
    ∃ found, (f.scan (trim pattern) pattern s).1 = .ok (some found) := by
  induction f generalizing dropped s with
  | timeUp device b | failed cause device b =>
    rw [Feed.heard, List.append_nil] at hin
    exact absurd hin h.absent
  | arrival chunk device b later ih =>
    simp only [Feed.scan] at hsound ⊢
    cases hm : takeThrough pattern (s.pending ++ chunk) with
    | some cut => exact ⟨cut.1, rfl⟩
    | none =>
      rw [hm] at hsound
      cases hcut : trim pattern (s.pending ++ chunk) with
      | none => simp [hcut] at hsound
      | some kept =>
        rw [hcut] at hsound
        obtain ⟨more, hmore, htrails⟩ := h.cut hm hcut
        rw [Feed.heard, ← List.append_assoc, List.append_assoc dropped, hmore,
          ← List.append_assoc] at hin
        exact ih htrails hsound hin

theorem readBytes_foundIn {pattern found : List UInt8} {ms : Nat} {s s' : Stream}
    {b b' : Bench World} (h : readBytes pattern ms s b = (.ok (some found), s', b')) :
    FoundIn pattern (s.pending ++ heardBy (b.clock + ms) s b) found s'.pending := by
  unfold readBytes at h
  cases hm : takeThrough pattern s.pending with
  | some cut =>
    rw [hm] at h
    cases h
    exact (foundIn_of_takeThrough hm []).more _
  | none =>
    rw [hm] at h
    simp only [await_eq_scan] at h
    exact scan_foundIn (trails_nil (Text.takeThrough_eq_none_iff.1 hm)) h

theorem exists_found_iff {pattern : List UInt8} {ms : Nat} {s : Stream} {b : Bench World}
    (hsound : (readBytes pattern ms s b).1 ≠ .error .broken) :
    (∃ found, (readBytes pattern ms s b).1 = .ok (some found)) ↔
      pattern <:+: s.pending ++ heardBy (b.clock + ms) s b := by
  constructor
  · rintro ⟨found, hfound⟩
    rcases hread : readBytes pattern ms s b with ⟨result, s', b'⟩
    rw [hread] at hfound
    cases hfound
    exact (readBytes_foundIn hread).occurs
  · intro hin
    unfold readBytes at hsound ⊢
    cases hm : takeThrough pattern s.pending with
    | some cut => exact ⟨cut.1, rfl⟩
    | none =>
      rw [hm] at hsound
      simp only [await_eq_scan] at hsound ⊢
      exact exists_found_of_infix (trails_nil (Text.takeThrough_eq_none_iff.1 hm)) hsound hin

theorem FoundIn.text {pattern : String} {received found pending : List UInt8}
    (h : FoundIn (Text.toBytes pattern) received found pending) :
    ∃ before, found = before ++ Text.toBytes pattern ∧
      Found.text (some found) = Text.decodeLossy before ++ pattern := by
  obtain ⟨before, rfl⟩ := h.firstEnd.isSuffix
  exact ⟨before, rfl, Text.decodeLossy_append_toBytes before pattern⟩

theorem readUntil_found {pattern : String} {found : List UInt8} {ms : Nat} {s s' : Stream}
    {b b' : Bench World}
    (h : readBytes (Text.toBytes pattern) ms s b = (.ok (some found), s', b')) :
    readUntil pattern ms s b = (.ok (Found.text (some found)), s', b') := by
  unfold readUntil
  rw [h]
  rfl

/-- A wait hands over a text if it has found what it waits for, and only then. -/
theorem exists_received_iff {pattern : String} (hsome : pattern ≠ "") (ms : Nat) (s : Stream)
    (b : Bench World) :
    (∃ received, (readUntil pattern ms s b).1 = .ok received ∧ received ≠ "") ↔
      ∃ found, (readBytes (Text.toBytes pattern) ms s b).1 = .ok (some found) := by
  rcases hread : readBytes (Text.toBytes pattern) ms s b with ⟨result, s', b'⟩
  unfold readUntil
  simp only [hread]
  rcases result with stop | _ | found
  · simp [Except.map]
  · simp [Except.map, Found.text]
  · obtain ⟨before, -, htext⟩ := (readBytes_foundIn hread).text
    simp [Except.map, htext, hsome]

end Serial

namespace Session

open Serial (heardBy readBytes readUntil)

/-- `RES` on an open stream succeeds if its bytes are among those that are pending or come before
its time is up and before the first error. -/
theorem executeRes_eq_ok_iff {pattern : String} (hsome : pattern ≠ "")
    {s : Session Serial.Stream Serial.World} {stream : Serial.Stream}
    (hstream : s.stream = some stream) (hopen : stream.isOpen = true)
    (hsound : (Directive.executeRes pattern s).1 ≠ .error .broken) :
    (Directive.executeRes pattern s).1 = .ok () ↔
      Text.toBytes pattern <:+:
        stream.pending ++ heardBy (s.bench.clock + s.responseTimeout) stream s.bench := by
  have hresult := result_executeRes (requireStream_of_isOpen hstream hopen _) pattern
  have hunbroken : (readBytes (Text.toBytes pattern) s.responseTimeout stream s.bench).1 ≠
      .error .broken := by
    rw [Ne, ← Serial.readUntil_eq_broken_iff]
    intro hbroken
    apply hsound
    rw [hresult]
    simp only [Transport.readUntil, hbroken]
  rw [← Serial.exists_found_iff hunbroken, ← Serial.exists_received_iff hsome, hresult]
  simp only [Transport.readUntil]
  rcases readUntil pattern s.responseTimeout stream s.bench with ⟨stop | received, stream', b'⟩
  · simp
  · by_cases hnothing : received = ""
    · simp [hnothing, Outcome.fail]
    · simp [hnothing]

end Session

namespace Serial

/-- Decoding what was found neither hides the match nor makes one up. The text of found bytes is the
text of what stands before the first occurrence and then the pattern itself, so it is not empty; and
`RES` on an open stream, unless it breaks off, succeeds if the bytes of its pattern are pending or
come in time, and only then. -/
theorem match_shown_by_text (pattern : String) (hsome : pattern ≠ "") :
    (∀ ms s b found s' b',
      readBytes (Text.toBytes pattern) ms s b = (.ok (some found), s', b') →
        FoundIn (Text.toBytes pattern) (s.pending ++ heardBy (b.clock + ms) s b) found s'.pending ∧
        ∃ before, found = before ++ Text.toBytes pattern ∧
          readUntil pattern ms s b = (.ok (Text.decodeLossy before ++ pattern), s', b') ∧
          Text.decodeLossy before ++ pattern ≠ "") ∧
    (∀ (session : Session Stream World) stream, session.stream = some stream →
      stream.isOpen = true → ((Directive.res pattern).execute session).1 ≠ .error .broken →
        (((Directive.res pattern).execute session).1 = .ok () ↔
          Text.toBytes pattern <:+: stream.pending ++
            heardBy (session.bench.clock + session.responseTimeout) stream session.bench)) := by
  constructor
  · intro ms s b found s' b' hread
    have hfound := readBytes_foundIn hread
    obtain ⟨before, hbefore, htext⟩ := hfound.text
    refine ⟨hfound, before, hbefore, ?_, ?_⟩
    · rw [readUntil_found hread, htext]
    · simp [hsome]
  · intro session stream hstream hopen hsound
    exact Session.executeRes_eq_ok_iff hsome hstream hopen hsound

/-- A device that brings two bytes of a euro sign, then `OK`, and then fails. -/
def garbled : Device where
  id := 0
  readings :=
    [{ delay := 5, content := .ok [0xE2, 0x82] },
      { delay := 30, content := .ok [0x4F, 0x4B, 0x21] },
      { content := .error { kind := .brokenPipe, message := "gone" } }]
  timeout := 1000

def garbledSession : Session Stream World where
  stream := some { name := "p", device := some garbled, writeTimeout := 1000 }
  bench := { world := {} }

theorem match_shown_by_text_of_garbled :
    "OK" ≠ "" ∧ ((Directive.res "OK").execute garbledSession).1 = .ok () ∧
      ∃ s b, readUntil "OK" 50 { name := "p", device := some garbled, writeTimeout := 1000 }
          { world := {} } = (.ok "\uFFFDOK", s, b) := by
  have hsome : "OK" ≠ "" := by decide
  obtain ⟨htext, hres⟩ := match_shown_by_text "OK" hsome
  refine ⟨hsome, (hres garbledSession _ rfl rfl (by decide +kernel)).2 ?_, ?_⟩
  · decide +kernel
  · rcases hread : readBytes (Text.toBytes "OK") 50
        { name := "p", device := some garbled, writeTimeout := 1000 } { world := {} } with
      ⟨result, s, b⟩
    have hresult : result = .ok (some [0xE2, 0x82, 0x4F, 0x4B]) :=
      (congrArg Prod.fst hread).symm.trans (by decide +kernel)
    subst hresult
    obtain ⟨-, before, hbefore, hshown, -⟩ := htext _ _ _ _ _ _ hread
    have hfront : before = [0xE2, 0x82] :=
      (List.append_left_inj (Text.toBytes "OK")).1 (hbefore.symm.trans rfl)
    have hdecoded : Text.decodeLossy [0xE2, 0x82] ++ "OK" = "\uFFFDOK" := by decide +kernel
    rw [hfront, hdecoded] at hshown
    exact ⟨s, b, hshown⟩

end Serial

end SerialScript
