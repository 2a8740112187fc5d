import Mathlib.Data.List.Induction
import SerialScript.Run

/-!
What is reported, apart from what is done. Nobody in a run looks at the log: two sessions that
differ in their logs alone do the same and report the same. So runs can be compared whose logs
differ, and what is in a log can be told from what each step adds to it.
-/

namespace SerialScript

variable {S W α β γ : Type} {past past' : Array Event}

/-- An event in the ordinary course of a directive, from itself or from the transport. It is no
error: what fails answers with a fault, and whoever runs the directive reports that. -/
def Event.Routine (e : Event) : Prop :=
  e.level ≠ .error ∧ (e.origin = .port ∨ ∃ k, e.origin = .directive k)

theorem Directive.routine_event (d : Directive) {level : Level} (h : level ≠ .error)
    (message : String) : (d.event level message).Routine := ⟨h, .inr ⟨_, rfl⟩⟩

def shown (kind : Event → Bool) (log : Array Event) : List Event := log.toList.filter kind

theorem shown_push (kind : Event → Bool) (log : Array Event) (e : Event) :
    shown kind (log.push e) = shown kind log ++ if kind e then [e] else [] := by
  unfold shown
  cases he : kind e <;> simp [he]

inductive Alongside (R : β → β → Prop) : α × β → α × β → Prop where
  | intro {a : α} {b b' : β} : R b b' → Alongside R (a, b) (a, b')

theorem Alongside.exists_eq {R : β → β → Prop} {o o' : α × β} (h : Alongside R o o') :
    ∃ a b b', o = (a, b) ∧ o' = (a, b') ∧ R b b' := by
  obtain ⟨h⟩ := h
  exact ⟨_, _, _, rfl, rfl, h⟩

theorem Alongside.exists_eq_eq {R : γ → γ → Prop} {o o' : α × β × γ}
    (h : Alongside (Alongside R) o o') :
    ∃ a b c c', o = (a, b, c) ∧ o' = (a, b, c') ∧ R c c' := by
  obtain ⟨⟨h⟩⟩ := h
  exact ⟨_, _, _, _, rfl, rfl, h⟩

theorem Alongside.snd {R : β → β → Prop} {o o' : α × β} (h : Alongside R o o') : R o.2 o'.2 := by
  obtain ⟨h⟩ := h
  exact h

namespace Bench

/-- Two benches that differ in their logs alone: the same routine events have been added to each
of these two pasts. -/
structure Abreast (past past' : Array Event) (b c : Bench W) : Prop where
  world : c.world = b.world
  clock : c.clock = b.clock
  log : ∃ events : Array Event, (∀ e ∈ events, e.Routine) ∧
    b.log = past ++ events ∧ c.log = past' ++ events

variable {b c : Bench W}

theorem Abreast.report (h : b.Abreast past past' c) {e : Event} (he : e.Routine) :
    (b.report e).Abreast past past' (c.report e) := by
  obtain ⟨events, hevents, hb, hc⟩ := h.log
  refine ⟨h.world, h.clock, events.push e, ?_, ?_, ?_⟩
  · intro e' he'
    rcases Array.mem_push.1 he' with he' | rfl
    · exact hevents e' he'
    · exact he
  · simp [Bench.report, hb]
  · simp [Bench.report, hc]

theorem Abreast.wait (h : b.Abreast past past' c) (ms : Nat) :
    (b.wait ms).Abreast past past' (c.wait ms) :=
  ⟨h.world, congrArg (· + ms) h.clock, h.log⟩

theorem Abreast.withWorld (h : b.Abreast past past' c) (world : W) :
    { b with world }.Abreast past past' { c with world } := ⟨rfl, h.clock, h.log⟩

end Bench

/-- A transport whose calls report nothing but routine events and make no use of the log: whatever
has been reported before, they answer the same and leave the same. All transports here are lawful,
so this is asked only of others. -/
class LawfulTransport (S : Type) (W : outParam Type) [Transport S W] : Prop where
  openPort : ∀ {past past' : Array Event} {b c : Bench W} (port : String) (baud : UInt32)
    (responseTimeout openTimeout : Nat), b.Abreast past past' c →
      Alongside (Bench.Abreast past past')
        (Transport.openPort (S := S) port baud responseTimeout openTimeout b)
        (Transport.openPort port baud responseTimeout openTimeout c)
  close : ∀ {past past' : Array Event} {b c : Bench W} (stream : S), b.Abreast past past' c →
    Alongside (Bench.Abreast past past') (Transport.close stream b) (Transport.close stream c)
  setTimeout : ∀ {past past' : Array Event} {b c : Bench W} (ms : Nat) (stream : S),
    b.Abreast past past' c →
      Alongside (Bench.Abreast past past') (Transport.setTimeout ms stream b)
        (Transport.setTimeout ms stream c)
  write : ∀ {past past' : Array Event} {b c : Bench W} (data : List UInt8) (stream : S),
    b.Abreast past past' c →
      Alongside (Alongside (Bench.Abreast past past')) (Transport.write data stream b)
        (Transport.write data stream c)
  readUntil : ∀ {past past' : Array Event} {b c : Bench W} (text : String) (ms : Nat) (stream : S),
    b.Abreast past past' c →
      Alongside (Alongside (Bench.Abreast past past')) (Transport.readUntil text ms stream b)
        (Transport.readUntil text ms stream c)
  discard : ∀ {past past' : Array Event} {b c : Bench W} (stream : S), b.Abreast past past' c →
    (Transport.discard stream b).Abreast past past' (Transport.discard stream c)

namespace Session

inductive Abreast (past past' : Array Event) : Session S W → Session S W → Prop where
  | intro {eol : Eol} {responseTimeout : Nat} {stream : Option S} {b c : Bench W} :
      b.Abreast past past' c →
      Abreast past past' ⟨eol, responseTimeout, stream, b⟩ ⟨eol, responseTimeout, stream, c⟩

variable {s t : Session S W}

theorem Abreast.report (h : Abreast past past' s t) {e : Event} (he : e.Routine) :
    Abreast past past' (s.report e) (t.report e) := by
  obtain ⟨hbench⟩ := h
  exact .intro (hbench.report he)

theorem Abreast.reportSuccess {o o' : Outcome Unit × Session S W}
    (h : Alongside (Abreast past past') o o') (d : Directive) (message : String) :
    Alongside (Abreast past past') (d.reportSuccess message o) (d.reportSuccess message o') := by
  obtain @⟨result, s, t, hst⟩ := h
  cases result with
  | error stop => exact ⟨hst⟩
  | ok _ => exact ⟨hst.report (d.routine_event (by simp) _)⟩

theorem Abreast.wait (h : Abreast past past' s t) (ms : Nat) :
    Abreast past past' { s with bench := s.bench.wait ms }
      { t with bench := t.bench.wait ms } := by
  obtain ⟨hbench⟩ := h
  exact ⟨hbench.wait ms⟩

theorem Abreast.log (h : Abreast past past' s t) :
    ∃ events : Array Event, (∀ e ∈ events, e.Routine) ∧
      s.bench.log = past ++ events ∧ t.bench.log = past' ++ events := by
  obtain ⟨hbench⟩ := h
  exact hbench.log

structure Alike (R : Array Event → Array Event → Prop) (s t : Session S W) : Prop where
  eol : t.eol = s.eol
  responseTimeout : t.responseTimeout = s.responseTimeout
  stream : t.stream = s.stream
  world : t.bench.world = s.bench.world
  clock : t.bench.clock = s.bench.clock
  log : R s.bench.log t.bench.log

variable {R : Array Event → Array Event → Prop}

theorem Alike.refl (s : Session S W) (hlog : R s.bench.log s.bench.log) : s.Alike R s :=
  ⟨rfl, rfl, rfl, rfl, rfl, hlog⟩

theorem Alike.mono {R' : Array Event → Array Event → Prop} (h : s.Alike R t)
    (himp : R s.bench.log t.bench.log → R' s.bench.log t.bench.log) : s.Alike R' t :=
  ⟨h.eol, h.responseTimeout, h.stream, h.world, h.clock, himp h.log⟩

theorem Alike.abreast (h : s.Alike R t) : Abreast s.bench.log t.bench.log s t := by
  obtain ⟨eol, responseTimeout, stream, b⟩ := s
  obtain ⟨_, _, _, c⟩ := t
  obtain ⟨rfl, rfl, rfl, hworld, hclock, -⟩ := h
  exact ⟨hworld, hclock, #[], by simp, by simp, by simp⟩

/-- Logs stay related if the same event is added to both. -/
def Steady (R : Array Event → Array Event → Prop) : Prop :=
  ∀ {log log' : Array Event} (e : Event), R log log' → R (log.push e) (log'.push e)

theorem Steady.append (hR : Steady R) {log log' : Array Event} (h : R log log')
    (events : Array Event) : R (log ++ events) (log' ++ events) := by
  obtain ⟨events⟩ := events
  induction events using List.reverseRecOn with
  | nil => simpa using h
  | append_singleton events e ih => simpa using hR e ih

theorem Alike.report (h : s.Alike R t) (hR : Steady R) (e : Event) :
    (s.report e).Alike R (t.report e) :=
  ⟨h.eol, h.responseTimeout, h.stream, h.world, h.clock, hR e h.log⟩

theorem Abreast.alike (h : Abreast past past' s t) (hR : Steady R) (hpast : R past past') :
    s.Alike R t := by
  obtain ⟨hbench⟩ := h
  obtain ⟨events, -, hb, hc⟩ := hbench.log
  refine ⟨rfl, rfl, rfl, hbench.world, hbench.clock, ?_⟩
  simp only [hb, hc]
  exact hR.append hpast events

section Requires

variable [Transport S W]

theorem Abreast.requireStream (h : Abreast past past' s t) (directive : String) :
    t.requireStream directive = s.requireStream directive := by
  cases h
  rfl

def openNext (port : String) (baud : UInt32) (s : Session S W) : Outcome Unit × Session S W :=
  match Transport.openPort port baud s.responseTimeout openTimeout s.bench with
  | (.error stop, bench) => (.error stop, { s with bench })
  | (.ok stream, bench) =>
    if Transport.isOpen stream then (.ok (), { s with stream := some stream, bench })
    else
      (.fail (.closedOnOpening port), { s with bench := Transport.discard (S := S) stream bench })

theorem connect_eq_openNext (port : String) (baud : UInt32) (s : Session S W) :
    s.connect port baud = s.disconnect.2.openNext port baud := rfl

end Requires

variable [Transport S W] [LawfulTransport S W]

theorem Abreast.disconnect (h : Abreast past past' s t) :
    Alongside (Abreast past past') s.disconnect t.disconnect := by
  obtain @⟨eol, responseTimeout, stream, b, c, hbench⟩ := h
  cases stream with
  | none => exact ⟨⟨hbench⟩⟩
  | some stream =>
    obtain ⟨closed, b', c', hb, hc, hclosed⟩ := (LawfulTransport.close stream hbench).exists_eq
    simp only [Session.disconnect, hb, hc]
    exact ⟨⟨LawfulTransport.discard closed hclosed⟩⟩

theorem Abreast.openNext (h : Abreast past past' s t) (port : String) (baud : UInt32) :
    Alongside (Abreast past past') (s.openNext port baud) (t.openNext port baud) := by
  obtain @⟨eol, responseTimeout, stream, b, c, hbench⟩ := h
  obtain ⟨result, b', c', hb, hc, hopened⟩ :=
    (LawfulTransport.openPort (S := S) port baud responseTimeout openTimeout hbench).exists_eq
  -- Both ports answer the same, so both sessions take the same branch.
  simp only [Session.openNext, hb, hc]
  cases result with
  | error stop => exact ⟨⟨hopened⟩⟩
  | ok stream =>
    by_cases hlive : Transport.isOpen stream = true
    · simp only [hlive, if_true]
      exact ⟨⟨hopened⟩⟩
    · simp only [hlive]
      exact ⟨⟨LawfulTransport.discard stream hopened⟩⟩

theorem Abreast.connect (h : Abreast past past' s t) (port : String) (baud : UInt32) :
    Alongside (Abreast past past') (s.connect port baud) (t.connect port baud) := by
  rw [connect_eq_openNext, connect_eq_openNext]
  exact h.disconnect.snd.openNext port baud

theorem Abreast.send (h : Abreast past past' s t) (directive : String) (activity : Activity)
    (data : List UInt8) :
    Alongside (Abreast past past') (s.send directive activity data)
      (t.send directive activity data) := by
  unfold Session.send
  rw [h.requireStream]
  cases s.requireStream directive with
  | error stop => exact ⟨h⟩
  | ok stream =>
    obtain @⟨eol, responseTimeout, _, b, c, hbench⟩ := h
    obtain ⟨result, stream', b', c', hb, hc, hwritten⟩ :=
      (LawfulTransport.write data stream hbench).exists_eq_eq
    simp only [hb, hc]
    exact ⟨⟨hwritten⟩⟩

theorem Abreast.executeConnect (h : Abreast past past' s t) (port : String) (baud : UInt32) :
    Alongside (Abreast past past') (Directive.executeConnect port baud s)
      (Directive.executeConnect port baud t) := by
  have hopen : ∀ {s t : Session S W}, Abreast past past' s t →
      ∀ e : Event, e.Routine → Alongside (Abreast past past')
        (((s.report e).connect port baud).1.during .connecting, ((s.report e).connect port baud).2)
        (((t.report e).connect port baud).1.during .connecting,
          ((t.report e).connect port baud).2) := by
    intro s t h e he
    obtain ⟨result, s', t', hs, ht, hst⟩ := ((h.report he).connect port baud).exists_eq
    rw [hs, ht]
    exact ⟨hst⟩
  unfold Directive.executeConnect
  apply Abreast.reportSuccess
  apply hopen
  · split
    · exact h
    · exact h.report (Directive.routine_event _ (by simp) _)
  · exact Directive.routine_event _ (by simp) _

theorem Abreast.executeDisconnect (h : Abreast past past' s t) (port : String) :
    Abreast past past' (Directive.executeDisconnect port s)
      (Directive.executeDisconnect port t) := by
  obtain ⟨wasOpen, s', t', hs, ht, hst⟩ := h.disconnect.exists_eq
  simp only [Directive.executeDisconnect, hs, ht]
  apply Abreast.report
  · cases wasOpen with
    | true => exact hst
    | false => exact hst.report ⟨by simp [Directive.event], .inr ⟨_, rfl⟩⟩
  · exact Directive.routine_event _ (by simp) _

theorem Abreast.executeCfgResTimeout (h : Abreast past past' s t) (ms : Nat) :
    Abreast past past' (Directive.executeCfgResTimeout ms s)
      (Directive.executeCfgResTimeout ms t) := by
  obtain @⟨eol, responseTimeout, stream, b, c, hbench⟩ := h
  unfold Directive.executeCfgResTimeout
  apply Abreast.report
  · cases stream with
    | none => exact ⟨hbench⟩
    | some stream =>
      obtain ⟨stream', b', c', hb, hc, hset⟩ :=
        (LawfulTransport.setTimeout ms stream hbench).exists_eq
      simp only [hb, hc]
      exact ⟨hset⟩
  · exact Directive.routine_event _ (by simp) _

theorem Abreast.executeRes (h : Abreast past past' s t) (pattern : String) :
    Alongside (Abreast past past') (Directive.executeRes pattern s)
      (Directive.executeRes pattern t) := by
  unfold Directive.executeRes
  rw [h.requireStream]
  cases s.requireStream Keyword.res.spelling with
  | error stop => exact ⟨h⟩
  | ok stream =>
    obtain @⟨eol, responseTimeout, _, b, c, hbench⟩ := h
    obtain ⟨result, stream', b', c', hb, hc, hread⟩ :=
      (LawfulTransport.readUntil pattern responseTimeout stream hbench).exists_eq_eq
    simp only [hb, hc]
    cases result with
    | error stop => exact ⟨⟨hread⟩⟩
    | ok received =>
      by_cases hnothing : received = ""
      · simp only [hnothing, if_true]
        exact ⟨⟨hread⟩⟩
      · simp only [hnothing, if_false]
        exact ⟨⟨(hread.report ⟨by simp [Directive.event], .inr ⟨_, rfl⟩⟩).report
          (Directive.routine_event _ (by simp) _)⟩⟩

theorem Abreast.execute (h : Abreast past past' s t) (d : Directive) :
    Alongside (Abreast past past') (d.execute s) (d.execute t) := by
  have heol : t.eol = s.eol := by
    cases h
    rfl
  cases d with
  | connect port baud => exact h.executeConnect port baud
  | disconnect port => exact ⟨h.executeDisconnect port⟩
  | cfgEol convention =>
    obtain ⟨hbench⟩ := h
    exact ⟨⟨hbench.report (Directive.routine_event _ (by simp) _)⟩⟩
  | cfgResTimeout ms => exact ⟨h.executeCfgResTimeout ms⟩
  | delay seconds => exact ⟨(h.report (Directive.routine_event _ (by simp) _)).wait _⟩
  | delayMs ms => exact ⟨(h.report (Directive.routine_event _ (by simp) _)).wait _⟩
  | eol =>
    simp only [Directive.execute, Directive.executeEol, heol]
    exact Abreast.reportSuccess (h.send _ _ _) _ _
  | cmd text =>
    simp only [Directive.execute, Directive.executeCmd, heol]
    exact Abreast.reportSuccess (h.send _ _ _) _ _
  | res pattern => exact h.executeRes pattern

theorem Abreast.perform (h : Abreast past past' s t) (k : Keyword) (arguments : List String) :
    Alongside (Abreast past past') (s.perform k arguments) (t.perform k arguments) := by
  unfold Session.perform
  cases Directive.ofArguments k arguments with
  | error cause => exact ⟨h⟩
  | ok d => exact h.execute d

/-- No directive looks at the log. -/
theorem Alike.perform (h : s.Alike R t) (hR : Steady R)
    (k : Keyword) (arguments : List String) :
    Alongside (Alike R) (s.perform k arguments) (t.perform k arguments) := by
  obtain ⟨result, s', t', hs, ht, hdone⟩ := (h.abreast.perform k arguments).exists_eq
  rw [hs, ht]
  exact ⟨hdone.alike hR h.log⟩

theorem Alike.runLine (h : s.Alike R t) (hR : Steady R) (line : Line) :
    Alongside (Alike R) (s.runLine line) (t.runLine line) := by
  unfold Session.runLine
  cases line.keyword? with
  | none => exact ⟨h.report hR _⟩
  | some k => exact (h.report hR _).perform hR k line.arguments

/-- Two runs that begin with the same line go on alike if their later lines do. -/
theorem Alike.runLines_cons (h : s.Alike R t) (hR : Steady R) (line : Line)
    {later later' : List Line} (hlater : ∀ {s t : Session S W}, s.Alike R t →
      Alongside (Alike R) (s.runLines later) (t.runLines later')) :
    Alongside (Alike R) (s.runLines (line :: later)) (t.runLines (line :: later')) := by
  obtain ⟨result, s', t', hs, ht, hst⟩ := (h.runLine hR line).exists_eq
  rw [Session.runLines, Session.runLines, hs, ht]
  rcases result with (cause | _) | _
  · exact ⟨hst.report hR _⟩
  · exact ⟨hst⟩
  · exact hlater hst

theorem Alike.runLines (h : s.Alike R t) (hR : Steady R) (lines : List Line) :
    Alongside (Alike R) (s.runLines lines) (t.runLines lines) := by
  induction lines generalizing s t with
  | nil => exact ⟨h⟩
  | cons line later ih => exact h.runLines_cons hR line ih

/-- To the log, a directive adds what is routine. -/
theorem log_perform (s : Session S W) (k : Keyword) (arguments : List String) :
    ∃ events : Array Event, (∀ e ∈ events, e.Routine) ∧
      (s.perform k arguments).2.bench.log = s.bench.log ++ events := by
  have hself : Abreast s.bench.log s.bench.log s s := (Alike.refl (R := Eq) s rfl).abreast
  obtain ⟨events, hevents, hlog, -⟩ := (hself.perform k arguments).snd.log
  exact ⟨events, hevents, hlog⟩

end Session

end SerialScript
