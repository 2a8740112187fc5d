import SerialScript.Proofs.Serial.Feed
import SerialScript.Proofs.Session.Reporting
import SerialScript.Transport.Absent
import SerialScript.Transport.Memory
import SerialScript.Transport.Serial

namespace SerialScript

variable {past past' : Array Event}

namespace Memory

instance : LawfulTransport Stream Memory where
  openPort port baud responseTimeout openTimeout h := by
    simp only [Transport.openPort, Memory.openPort, h.world]
    split
    · exact ⟨h⟩
    · exact ⟨h.withWorld _⟩
  close stream h := by
    simp only [Transport.close, Memory.close, h.world]
    split
    · exact ⟨h.withWorld _⟩
    · exact ⟨h⟩
  setTimeout ms stream h := by
    simp only [Transport.setTimeout, Memory.setTimeout, h.world]
    exact ⟨h.withWorld _⟩
  write data stream h := by
    simp only [Transport.write, Memory.write, h.world]
    split
    · exact ⟨⟨h.withWorld _⟩⟩
    · exact ⟨⟨h⟩⟩
  readUntil text ms stream h := by
    simp only [Transport.readUntil, Memory.readUntil, h.world]
    split
    · split
      · exact ⟨⟨h.withWorld _⟩⟩
      · exact ⟨⟨h.wait ms⟩⟩
    · exact ⟨⟨h⟩⟩
  discard stream h := h

end Memory

namespace Host

instance : LawfulTransport NoStream Host where
  openPort port baud responseTimeout openTimeout h := by
    simp only [Transport.openPort, Host.openPort, h.world]
    exact ⟨h⟩
  close stream := nomatch stream
  setTimeout _ stream := nomatch stream
  write _ stream := nomatch stream
  readUntil _ _ stream := nomatch stream
  discard stream := nomatch stream

end Host

namespace Serial

variable {b c : Bench World}

theorem routine_traceBytes (name message : String) (bytes : List UInt8) :
    (traceBytes name message bytes).Routine := ⟨by simp [traceBytes], .inl rfl⟩

theorem abreast_record (h : b.Abreast past past' c) (call : Call) :
    (record b call).Abreast past past' (record c call) := by
  refine ⟨?_, h.clock, h.log⟩
  simp only [record, h.world, h.clock]

theorem abreast_recordAll (h : b.Abreast past past' c) (calls : List Call) :
    (calls.foldl record b).Abreast past past' (calls.foldl record c) := by
  induction calls generalizing b c with
  | nil => exact h
  | cons call later ih => exact ih (abreast_record h call)

theorem abreast_close (h : b.Abreast past past' c) (s : Stream) :
    Alongside (Bench.Abreast past past') (close s b) (close s c) := by
  unfold close
  cases s.device with
  | none => exact ⟨h⟩
  | some d => exact ⟨(abreast_record h _).report ⟨by simp, .inl rfl⟩⟩

theorem abreast_openPort (h : b.Abreast past past' c) (port : String) (baud : UInt32)
    (responseTimeout openTimeout : Nat) :
    Alongside (Bench.Abreast past past') (openPort port baud responseTimeout openTimeout b)
      (openPort port baud responseTimeout openTimeout c) := by
  have hasked := abreast_record h (.asked port baud responseTimeout openTimeout)
  unfold openPort
  simp only [hasked.world]
  split
  · exact ⟨hasked⟩
  · exact ⟨hasked.withWorld _⟩
  · rename_i device closed ports _
    have hgiven := abreast_record (hasked.withWorld
      { (record b (.asked port baud responseTimeout openTimeout)).world with
        ports, handedOut := b.world.handedOut + 1 }) (.handedOut b.world.handedOut)
    cases closed with
    | false => exact ⟨hgiven⟩
    | true =>
      have hclosed := abreast_close hgiven
        { name := port,
          device := some { device with id := b.world.handedOut, timeout := openTimeout },
          writeTimeout := openTimeout }
      exact ⟨hclosed.snd⟩

theorem abreast_setDeviceTimeout (h : b.Abreast past past' c) (ms : Nat) (d : Device) :
    Alongside (Alongside (Bench.Abreast past past')) (setDeviceTimeout ms d b)
      (setDeviceTimeout ms d c) := by
  unfold setDeviceTimeout
  rcases d.setTimeout ms with ⟨_ | reason, d'⟩
  · exact ⟨⟨abreast_record h _⟩⟩
  · exact ⟨⟨h⟩⟩

theorem abreast_write (h : b.Abreast past past' c) (data : List UInt8) (s : Stream) :
    Alongside (Alongside (Bench.Abreast past past')) (write data s b) (write data s c) := by
  unfold write
  cases s.device with
  | none => exact ⟨⟨h⟩⟩
  | some d =>
    obtain ⟨result, d, b', c', hb, hc, hset⟩ :=
      (abreast_setDeviceTimeout h s.writeTimeout d).exists_eq_eq
    simp only [hb, hc]
    cases result with
    | error stop => exact ⟨⟨hset⟩⟩
    | ok _ =>
      rcases hall : writeAll d.timeout data d.acceptances with ⟨_ | _, calls, acceptances⟩
      · simp only [hall]
        exact ⟨⟨abreast_recordAll (hset.report (routine_traceBytes ..)) calls⟩⟩
      · have hflush := abreast_record (abreast_recordAll
          (hset.report (routine_traceBytes s.name "write" data)) calls) .flush
        simp only [hall]
        rcases Device.flush { d with acceptances } with ⟨_ | f, d'⟩
        · exact ⟨⟨hflush⟩⟩
        · exact ⟨⟨hflush⟩⟩

inductive Round.Abreast (past past' : Array Event) : Round → Round → Prop where
  | again {s : Stream} {b c : Bench World} : b.Abreast past past' c →
      Round.Abreast past past' (.again s b) (.again s c)
  | done {result : Outcome Found} {s : Stream} {b c : Bench World} : b.Abreast past past' c →
      Round.Abreast past past' (.done result s b) (.done result s c)

theorem abreast_settle (h : b.Abreast past past' c) (cut : Cut) (pattern : List UInt8)
    (s : Stream) : Round.Abreast past past' (settle cut pattern s b) (settle cut pattern s c) := by
  unfold settle
  cases Text.takeThrough pattern s.pending with
  | some found => exact .done h
  | none =>
    cases cut s.pending with
    | none => exact .done h
    | some kept => exact .again h

theorem abreast_round (h : b.Abreast past past' c) (cut : Cut) (pattern : List UInt8)
    (deadline : Nat) (s : Stream) :
    Round.Abreast past past' (round cut pattern deadline s b) (round cut pattern deadline s c) := by
  unfold round
  rw [h.clock]
  split
  · split
    · exact .done h
    · exact .done h
  · split
    · exact .done h
    · rename_i d _
      obtain ⟨result, d, b', c', hb, hc, hset⟩ :=
        (abreast_setDeviceTimeout h (min (deadline - b.clock) pollInterval) d).exists_eq_eq
      rw [hb, hc]
      cases result with
      | error stop => exact .done hset
      | ok _ =>
        simp only
        rcases d.read with ⟨received, elapsed, d⟩
        have hread := abreast_record (hset.wait elapsed) (.read (chunkOf received))
        cases received with
        | nothingInTime => exact .again hread
        | failure f =>
          simp only
          split
          · exact .again hread
          · exact .done hread
        | bytes chunk =>
          cases chunk with
          | nil => exact .again hread
          | cons => exact abreast_settle (hread.report (routine_traceBytes ..)) cut pattern _

theorem abreast_await (h : b.Abreast past past' c) (cut : Cut) (pattern : List UInt8)
    (deadline : Nat) (s : Stream) :
    Alongside (Alongside (Bench.Abreast past past')) (await cut pattern deadline s b)
      (await cut pattern deadline s c) := by
  -- Rounds of both waits come to the same, so the induction over the one serves both.
  induction s, b using await.induct cut pattern deadline generalizing c with
  | case1 s b result s' b' hround =>
    have hc := abreast_round h cut pattern deadline s
    rw [hround] at hc
    rw [await_of_done hround]
    generalize hr : round cut pattern deadline s c = r at hc
    cases hc with
    | done h' =>
      rw [await_of_done hr]
      exact ⟨⟨h'⟩⟩
  | case2 s b s' b' hround ih =>
    have hc := abreast_round h cut pattern deadline s
    rw [hround] at hc
    rw [await_of_again hround]
    generalize hr : round cut pattern deadline s c = r at hc
    cases hc with
    | again h' =>
      rw [await_of_again hr]
      exact ih h'

theorem abreast_readUntil (h : b.Abreast past past' c) (text : String) (ms : Nat) (s : Stream) :
    Alongside (Alongside (Bench.Abreast past past')) (readUntil text ms s b)
      (readUntil text ms s c) := by
  have hread : Alongside (Alongside (Bench.Abreast past past'))
      (readBytes (Text.toBytes text) ms s b) (readBytes (Text.toBytes text) ms s c) := by
    unfold readBytes
    rw [h.clock]
    split
    · exact ⟨⟨h⟩⟩
    · exact abreast_await h _ _ _ _
  obtain ⟨result, s', b', c', hb, hc, hdone⟩ := hread.exists_eq_eq
  simp only [readUntil, hb, hc]
  exact ⟨⟨hdone⟩⟩

instance : LawfulTransport Stream World where
  openPort port baud responseTimeout openTimeout h :=
    abreast_openPort h port baud responseTimeout openTimeout
  close stream h := abreast_close h stream
  setTimeout _ _ h := ⟨h⟩
  write data stream h := abreast_write h data stream
  readUntil text ms stream h := abreast_readUntil h text ms stream
  discard stream h := (abreast_close h stream).snd

end Serial

end SerialScript
