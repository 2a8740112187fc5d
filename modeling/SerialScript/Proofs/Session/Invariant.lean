import SerialScript.Run

/-!
What sessions keep. A session only ever reaches its stream through the calls of a transport, so a
property that none of these calls breaks is kept by every operation on a session: by each directive,
by runs of whole scripts, whether or not they succeed, and by what ends a session.
-/

namespace SerialScript

variable {S W : Type} [Transport S W]

/-- A property of the response timeout, of the stream of a session, if it has one, and of the bench
that no call on the transport breaks. A stream is closed before it is given up, unless it was not
open when it came. -/
structure Invariant (I : Nat → Option S → Bench W → Prop) : Prop where
  report : ∀ {timeout stream b} (event : Event),
    I timeout stream b → I timeout stream (b.report event)
  wait : ∀ {timeout stream b} (ms : Nat), I timeout stream b → I timeout stream (b.wait ms)
  retime : ∀ {timeout b} (ms : Nat), I timeout none b → I ms none b
  setTimeout : ∀ {timeout stream b} (ms : Nat), I timeout (some stream) b →
    I ms (some (Transport.setTimeout ms stream b).1) (Transport.setTimeout ms stream b).2
  write : ∀ {timeout stream b} (data : List UInt8), I timeout (some stream) b →
    I timeout (some (Transport.write data stream b).2.1) (Transport.write data stream b).2.2
  readUntil : ∀ {timeout stream b} (text : String) (ms : Nat), I timeout (some stream) b →
    I timeout (some (Transport.readUntil text ms stream b).2.1)
      (Transport.readUntil text ms stream b).2.2
  close : ∀ {timeout stream b}, I timeout (some stream) b →
    I timeout (some (Transport.close stream b).1) (Transport.close stream b).2
  giveUp : ∀ {timeout stream b}, I timeout (some stream) b →
    I timeout none (Transport.discard (Transport.close stream b).1 (Transport.close stream b).2)
  refused : ∀ {timeout b b' stop} (port : String) (baud : UInt32), I timeout none b →
    Transport.openPort (S := S) port baud timeout openTimeout b = (.error stop, b') →
    I timeout none b'
  opened : ∀ {timeout b b' stream} (port : String) (baud : UInt32), I timeout none b →
    Transport.openPort (S := S) port baud timeout openTimeout b = (.ok stream, b') →
    Transport.isOpen stream = true → I timeout (some stream) b'
  openedClosed : ∀ {timeout b b' stream} (port : String) (baud : UInt32), I timeout none b →
    Transport.openPort (S := S) port baud timeout openTimeout b = (.ok stream, b') →
    Transport.isOpen stream = false → I timeout none (Transport.discard stream b')

def Session.Has (I : Nat → Option S → Bench W → Prop) (s : Session S W) : Prop :=
  I s.responseTimeout s.stream s.bench

theorem Session.requireStream_ok {s : Session S W} {directive : String} {stream : S}
    (h : s.requireStream directive = .ok stream) :
    s.stream = some stream ∧ Transport.isOpen stream = true := by
  unfold Session.requireStream at h
  cases hstream : s.stream with
  | none =>
    rw [hstream] at h
    cases h
  | some held =>
    rw [hstream] at h
    by_cases hopen : Transport.isOpen held = true
    · simp only [if_pos hopen] at h
      cases h
      exact ⟨rfl, hopen⟩
    · simp only [if_neg hopen] at h
      cases h

theorem Session.requireStream_of_isOpen {s : Session S W} {stream : S}
    (hstream : s.stream = some stream) (hopen : Transport.isOpen stream = true)
    (directive : String) : s.requireStream directive = .ok stream := by
  unfold Session.requireStream
  rw [hstream]
  exact if_pos hopen

namespace Invariant

variable {I : Nat → Option S → Bench W → Prop} {s : Session S W}

theorem disconnect (h : Invariant I) (hs : s.Has I) :
    s.disconnect.2.Has I ∧ s.disconnect.2.stream = none := by
  unfold Session.disconnect
  cases hstream : s.stream with
  | none => exact ⟨hs, hstream⟩
  | some stream =>
    unfold Session.Has at hs
    rw [hstream] at hs
    exact ⟨h.giveUp hs, rfl⟩

theorem connect (h : Invariant I) (hs : s.Has I) (port : String) (baud : UInt32) :
    (s.connect port baud).2.Has I := by
  obtain ⟨hgone, hnone⟩ := h.disconnect hs
  unfold Session.Has at hgone
  rw [hnone] at hgone
  unfold Session.connect
  rcases hopen : Transport.openPort (S := S) port baud s.disconnect.2.responseTimeout openTimeout
      s.disconnect.2.bench with ⟨stop | stream, b⟩
  · simp only [hopen, Session.Has, hnone]
    exact h.refused port baud hgone hopen
  · simp only [hopen]
    by_cases hlive : Transport.isOpen stream = true
    · rw [if_pos hlive]
      exact h.opened port baud hgone hopen hlive
    · rw [if_neg hlive]
      simp only [Session.Has, hnone]
      exact h.openedClosed port baud hgone hopen (Bool.eq_false_iff.2 hlive)

theorem closeStream (h : Invariant I) (hs : s.Has I) : s.closeStream.2.Has I := by
  unfold Session.closeStream
  cases hstream : s.stream with
  | none => exact hs
  | some stream =>
    unfold Session.Has at hs
    rw [hstream] at hs
    exact h.close hs

theorem reported (h : Invariant I) (hs : s.Has I) (event : Event) : (s.report event).Has I :=
  h.report event hs

theorem send (h : Invariant I) (hs : s.Has I) (directive : String) (activity : Activity)
    (data : List UInt8) : (s.send directive activity data).2.Has I := by
  unfold Session.send
  cases hr : s.requireStream directive with
  | error stop => exact hs
  | ok stream =>
    unfold Session.Has at hs
    rw [(Session.requireStream_ok hr).1] at hs
    exact h.write data hs

theorem reportSuccess (h : Invariant I) {outcome : Outcome Unit × Session S W}
    (hs : outcome.2.Has I) (d : Directive) (message : String) :
    (d.reportSuccess message outcome).2.Has I := by
  obtain ⟨_ | _, s⟩ := outcome
  · exact hs
  · exact h.reported hs _

theorem executeConnect (h : Invariant I) (hs : s.Has I) (port : String) (baud : UInt32) :
    (Directive.executeConnect port baud s).2.Has I := by
  unfold Directive.executeConnect
  apply h.reportSuccess
  apply h.connect
  apply h.reported
  split
  · exact hs
  · exact h.reported hs _

theorem executeDisconnect (h : Invariant I) (hs : s.Has I) (port : String) :
    (Directive.executeDisconnect port s).Has I := by
  have hgone := (h.disconnect hs).1
  unfold Directive.executeDisconnect
  rcases hd : s.disconnect with ⟨wasOpen, s'⟩
  rw [hd] at hgone
  cases wasOpen with
  | true => exact h.reported hgone _
  | false => exact h.reported (h.reported hgone _) _

theorem executeCfgResTimeout (h : Invariant I) (hs : s.Has I) (ms : Nat) :
    (Directive.executeCfgResTimeout ms s).Has I := by
  unfold Directive.executeCfgResTimeout
  apply h.reported
  unfold Session.Has at hs ⊢
  cases hstream : s.stream with
  | none =>
    rw [hstream] at hs
    exact h.retime ms hs
  | some stream =>
    rw [hstream] at hs
    exact h.setTimeout ms hs

theorem executeRes (h : Invariant I) (hs : s.Has I) (pattern : String) :
    (Directive.executeRes pattern s).2.Has I := by
  unfold Directive.executeRes
  cases hr : s.requireStream Keyword.res.spelling with
  | error stop => exact hs
  | ok stream =>
    have hread : I s.responseTimeout (some stream) s.bench := by
      unfold Session.Has at hs
      rwa [(Session.requireStream_ok hr).1] at hs
    replace hread := h.readUntil pattern s.responseTimeout hread
    rcases hout : Transport.readUntil pattern s.responseTimeout stream s.bench with
      ⟨stop | received, stream', b'⟩
    · rw [hout] at hread
      simp only [hout]
      exact hread
    · rw [hout] at hread
      simp only [hout]
      split
      · exact hread
      · exact h.report _ (h.report _ hread)

theorem execute (h : Invariant I) (hs : s.Has I) (d : Directive) : (d.execute s).2.Has I := by
  cases d with
  | connect port baud => exact h.executeConnect hs port baud
  | disconnect port => exact h.executeDisconnect hs port
  | cfgEol convention => exact h.report _ hs
  | cfgResTimeout ms => exact h.executeCfgResTimeout hs ms
  | delay seconds => exact h.wait _ (h.report _ hs)
  | delayMs ms => exact h.wait _ (h.report _ hs)
  | eol => exact h.reportSuccess (h.send hs _ _ _) _ _
  | cmd text => exact h.reportSuccess (h.send hs _ _ _) _ _
  | res pattern => exact h.executeRes hs pattern

theorem perform (h : Invariant I) (hs : s.Has I) (keyword : Keyword) (arguments : List String) :
    (s.perform keyword arguments).2.Has I := by
  unfold Session.perform
  cases Directive.ofArguments keyword arguments with
  | error cause => exact hs
  | ok d => exact h.execute hs d

theorem runLine (h : Invariant I) (hs : s.Has I) (line : Line) : (s.runLine line).2.Has I := by
  unfold Session.runLine
  cases line.keyword? with
  | none => exact h.reported hs _
  | some keyword => exact h.perform (h.reported hs _) keyword line.arguments

theorem runLines (h : Invariant I) (hs : s.Has I) (lines : List Line) :
    (s.runLines lines).2.Has I := by
  induction lines generalizing s with
  | nil => exact hs
  | cons line later ih =>
    have hline := h.runLine hs line
    unfold Session.runLines
    rcases hr : s.runLine line with ⟨stop | _, s'⟩
    · rw [hr] at hline
      cases stop with
      | fault cause => exact h.reported hline _
      | broken => exact hline
    · rw [hr] at hline
      exact ih hline

theorem run (h : Invariant I) (hs : s.Has I) (lines : List Line) : (s.run lines).2.Has I := by
  have hlines := h.runLines hs lines
  unfold Session.run
  rcases hr : s.runLines lines with ⟨stop | _, s'⟩
  · rw [hr] at hlines
    exact hlines
  · rw [hr] at hlines
    exact h.reported hlines _

theorem runScript (h : Invariant I) (hs : s.Has I) (script : String) :
    (s.runScript script).2.Has I := by
  have hread : ∀ events : List Event, (events.foldl Session.report s).Has I := by
    intro events
    induction events generalizing s with
    | nil => exact hs
    | cons event later ih => exact ih (h.reported hs event)
  exact h.run (hread _) _

theorem shutdown (h : Invariant I) (hs : s.Has I) :
    s.shutdown.Has I ∧ s.shutdown.stream = none := by
  obtain ⟨hgone, hnone⟩ := h.disconnect hs
  unfold Session.shutdown
  rcases hd : s.disconnect with ⟨wasOpen, s'⟩
  rw [hd] at hgone hnone
  cases wasOpen with
  | true => exact ⟨h.reported hgone _, hnone⟩
  | false => exact ⟨hgone, hnone⟩

end Invariant

/-- What can be done with a session, and how it can end. To drop a session gives up its stream
without closing it first; a stream may have its own way to be given up. -/
inductive Operation where
  | connect (port : String) (baud : UInt32)
  | disconnect
  | closeStream
  | execute (d : Directive)
  | perform (keyword : Keyword) (arguments : List String)
  | run (lines : List Line)
  | runScript (script : String)
  | shutdown
  | drop

def Session.drop (s : Session S W) : Session S W :=
  match s.stream with
  | none => s
  | some stream => { s with stream := none, bench := Transport.discard stream s.bench }

def Session.operate (s : Session S W) : Operation → Session S W
  | .connect port baud => (s.connect port baud).2
  | .disconnect => s.disconnect.2
  | .closeStream => s.closeStream.2
  | .execute d => (d.execute s).2
  | .perform keyword arguments => (s.perform keyword arguments).2
  | .run lines => (s.run lines).2
  | .runScript script => (s.runScript script).2
  | .shutdown => s.shutdown
  | .drop => s.drop

def Session.operateAll (s : Session S W) (ops : List Operation) : Session S W :=
  ops.foldl Session.operate s

section Operate

variable {I : Nat → Option S → Bench W → Prop} {s : Session S W}

theorem Session.stream_drop (s : Session S W) : s.drop.stream = none := by
  unfold Session.drop
  cases hs : s.stream with
  | none => exact hs
  | some stream => rfl

/-- An invariant is kept by every operation, provided a stream may be given up as it is where a
session is dropped. -/
theorem Invariant.operate (h : Invariant I) {op : Operation}
    (hdiscard : op = .drop → ∀ timeout stream b, I timeout (some stream) b →
      I timeout none (Transport.discard stream b))
    (hs : s.Has I) : (s.operate op).Has I := by
  cases op with
  | connect port baud => exact h.connect hs port baud
  | disconnect => exact (h.disconnect hs).1
  | closeStream => exact h.closeStream hs
  | execute d => exact h.execute hs d
  | perform keyword arguments => exact h.perform hs keyword arguments
  | run lines => exact h.run hs lines
  | runScript script => exact h.runScript hs script
  | shutdown => exact (h.shutdown hs).1
  | drop =>
    unfold Session.operate Session.drop
    cases hstream : s.stream with
    | none => exact hs
    | some stream =>
      unfold Session.Has at hs
      rw [hstream] at hs
      exact hdiscard rfl _ _ _ hs

theorem Invariant.operateAll (h : Invariant I) {ops : List Operation}
    (hdiscard : .drop ∈ ops → ∀ timeout stream b, I timeout (some stream) b →
      I timeout none (Transport.discard stream b))
    (hs : s.Has I) : (s.operateAll ops).Has I := by
  induction ops generalizing s with
  | nil => exact hs
  | cons op later ih =>
    apply ih fun hdrop => hdiscard (List.mem_cons_of_mem op hdrop)
    exact h.operate (fun hop => hdiscard (hop ▸ List.mem_cons_self)) hs

end Operate

end SerialScript
