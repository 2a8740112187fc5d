import SerialScript.Proofs.Arguments
import SerialScript.Proofs.Session.FailFast
import SerialScript.Proofs.Session.Failing
import SerialScript.Proofs.Session.Framing

namespace SerialScript

namespace Line

/-- The number that the first argument stands for, if it counts something. -/
def count? (line : Line) : Option Nat :=
  line.arguments.head?.bind fun argument => (Numeral.read argument).toOption.bind Int.toNat?

def timeout? (line : Line) : Option Nat :=
  if line.keyword? = some .cfgResTimeout then line.count? else none

end Line

namespace Directive

def timeout? : Directive → Option Nat
  | cfgResTimeout ms => some ms
  | _ => none

theorem count?_of_readCount {line : Line} {directive quantity first : String} {value : Nat}
    (hfirst : line.arguments.head? = some first)
    (h : readCount directive quantity first = .ok value) : line.count? = some value := by
  have hread := readCount_eq_ok_iff_read.1 h
  unfold Line.count?
  rw [hfirst, Option.bind_some, hread]
  rfl

/-- The number of a directive that takes one is what its line counts. -/
theorem exists_count_of_map {line : Line} {k : Keyword} {d : Directive} {quantity : String}
    {build : Nat → Directive}
    (h : withFirst k line.arguments (fun argument =>
      (readCount k.spelling quantity argument).map build) = .ok d) :
    ∃ value, line.count? = some value ∧ d = build value := by
  obtain ⟨first, hfirst, hbuild⟩ := withFirst_eq_ok h
  obtain ⟨value, hcount, hd⟩ := map_eq_ok_iff.1 hbuild
  exact ⟨value, count?_of_readCount hfirst hcount, hd⟩

theorem timeout?_of_ofArguments {line : Line} {k : Keyword} {d : Directive}
    (hk : line.keyword? = some k) (hd : ofArguments k line.arguments = .ok d) :
    line.timeout? = d.timeout? := by
  unfold Line.timeout?
  rw [hk]
  cases k with
  | cfgResTimeout =>
    obtain ⟨value, hcount, rfl⟩ := exists_count_of_map hd
    rw [if_pos rfl]
    exact hcount
  | _ =>
    have hkeyword := keyword_ofArguments hd
    cases d <;> cases hkeyword
    rfl

end Directive

def dispatching (line : Line) (k : Keyword) : Event where
  level := .debug
  origin := .engine
  message := "dispatch"
  fields := [("line", toString line.number), ("directive", k.spelling)]

namespace Session

variable {S W : Type} {s s' : Session S W}

def settings (s : Session S W) : Eol × Nat := (s.eol, s.responseTimeout)

theorem settings_reportSuccess (d : Directive) (message : String)
    (o : Outcome Unit × Session S W) :
    (d.reportSuccess message o).2.settings = o.2.settings := by
  obtain ⟨_ | _, s⟩ := o <;> rfl

variable [Transport S W]

theorem settings_disconnect (s : Session S W) : s.disconnect.2.settings = s.settings := by
  rw [disconnect_eq]
  rfl

theorem settings_connect (port : String) (baud : UInt32) (s : Session S W) :
    (s.connect port baud).2.settings = s.settings := by
  have hgone := settings_disconnect s
  unfold connect
  rcases hopen : Transport.openPort (S := S) port baud s.disconnect.2.responseTimeout openTimeout
      s.disconnect.2.bench with ⟨stop | stream, b⟩
  · simp only [hopen]
    exact hgone
  · simp only [hopen]
    split
    · exact hgone
    · exact hgone

theorem settings_send (directive : String) (activity : Activity) (data : List UInt8)
    (s : Session S W) : (s.send directive activity data).2.settings = s.settings := by
  unfold send
  cases s.requireStream directive <;> rfl

/-- `DISCONNECT` does no more than to let go of the stream there is, but for what it reports. -/
theorem exists_log_executeDisconnect (port : String) (s : Session S W) :
    ∃ log, Directive.executeDisconnect port s =
      { s.disconnect.2 with bench := { s.disconnect.2.bench with log } } := by
  unfold Directive.executeDisconnect
  rcases s.disconnect with ⟨_ | _, s'⟩
  · exact ⟨_, rfl⟩
  · exact ⟨_, rfl⟩

theorem exists_log_shutdown (s : Session S W) :
    ∃ log, s.shutdown = { s.disconnect.2 with bench := { s.disconnect.2.bench with log } } := by
  unfold shutdown
  rcases s.disconnect with ⟨_ | _, s'⟩
  · exact ⟨s'.bench.log, rfl⟩
  · exact ⟨_, rfl⟩

theorem settings_executeDisconnect (port : String) (s : Session S W) :
    (Directive.executeDisconnect port s).settings = s.settings := by
  obtain ⟨log, heq⟩ := exists_log_executeDisconnect port s
  rw [heq]
  exact settings_disconnect s

theorem settings_executeCfgResTimeout (ms : Nat) (s : Session S W) :
    (Directive.executeCfgResTimeout ms s).settings = (s.eol, ms) := by
  unfold Directive.executeCfgResTimeout
  cases s.stream <;> rfl

theorem settings_executeRes (pattern : String) (s : Session S W) :
    (Directive.executeRes pattern s).2.settings = s.settings := by
  unfold Directive.executeRes
  cases s.requireStream Keyword.res.spelling with
  | error stop => rfl
  | ok stream =>
    rcases hread : Transport.readUntil pattern s.responseTimeout stream s.bench with
      ⟨stop | received, stream', b⟩
    · simp only [hread]
      rfl
    · simp only [hread]
      split <;> rfl

theorem settings_execute (d : Directive) (s : Session S W) :
    (d.execute s).2.settings = (d.eol?.getD s.eol, d.timeout?.getD s.responseTimeout) := by
  cases d with
  | connect port baud =>
    obtain ⟨b, -, heq⟩ := executeConnect_eq port baud s
    rw [Directive.execute, heq, settings_reportSuccess]
    exact settings_connect port baud { s with bench := b }
  | disconnect port => exact settings_executeDisconnect port s
  | cfgEol convention => rfl
  | cfgResTimeout ms => exact settings_executeCfgResTimeout ms s
  | delay seconds => rfl
  | delayMs ms => rfl
  | eol => exact (settings_reportSuccess _ _ _).trans (settings_send _ _ _ s)
  | cmd text => exact (settings_reportSuccess _ _ _).trans (settings_send _ _ _ s)
  | res pattern => exact settings_executeRes pattern s

theorem Fails.settings {k : Keyword} {arguments : List String} (h : s.Fails k arguments s') :
    s'.settings = s.settings := by
  cases h <;> rfl

theorem runLine_of_unknown {line : Line} (h : line.keyword? = none) (s : Session S W) :
    s.runLine line = (.ok (), s.report (ignoring line)) := by
  unfold runLine
  rw [h]
  rfl

theorem runLine_of_keyword {line : Line} {k : Keyword} (h : line.keyword? = some k)
    (s : Session S W) :
    s.runLine line = (s.report (dispatching line k)).perform k line.arguments := by
  unfold runLine
  rw [h]
  rfl

theorem perform_of_ofArguments {k : Keyword} {arguments : List String} {d : Directive}
    (h : Directive.ofArguments k arguments = .ok d) (s : Session S W) :
    s.perform k arguments = d.execute s := by
  unfold perform
  rw [h]

theorem settings_of_runLine_error {line : Line} {stop : Stop}
    (h : s.runLine line = (.error stop, s')) : s'.settings = s.settings := by
  cases hk : line.keyword? with
  | none =>
    rw [runLine_of_unknown hk] at h
    cases h
  | some k =>
    rw [runLine_of_keyword hk] at h
    exact (perform_error h).settings

theorem settings_of_runLine {line : Line} (h : s.runLine line = (.ok (), s')) :
    s'.settings = (line.eol?.getD s.eol, line.timeout?.getD s.responseTimeout) := by
  cases hk : line.keyword? with
  | none =>
    have heol : line.eol? = none := by simp [Line.eol?, hk]
    have htimeout : line.timeout? = none := by simp [Line.timeout?, hk]
    rw [runLine_of_unknown hk] at h
    cases h
    rw [heol, htimeout]
    rfl
  | some k =>
    rw [runLine_of_keyword hk] at h
    cases hd : Directive.ofArguments k line.arguments with
    | error cause =>
      unfold perform at h
      rw [hd] at h
      cases h
    | ok d =>
      rw [perform_of_ofArguments hd] at h
      have hset := settings_execute d (s.report (dispatching line k))
      rw [h] at hset
      rw [(Directive.line_of_ofArguments hk hd).1, Directive.timeout?_of_ofArguments hk hd]
      exact hset

/-- What is in force after lines that succeed is what was chosen last. -/
theorem Passes.responseTimeout {lines : List Line} (h : s.Passes lines s') :
    s'.responseTimeout = (lines.filterMap Line.timeout?).getLastD s.responseTimeout := by
  induction h with
  | nil => rfl
  | @cons s s₁ s' line later hline _ ih =>
    have hset := congrArg Prod.snd (settings_of_runLine hline)
    rw [ih]
    change s₁.responseTimeout = _ at hset
    rw [hset]
    cases hchosen : line.timeout? with
    | none => rw [List.filterMap_cons_none hchosen, Option.getD_none]
    | some ms => rw [List.filterMap_cons_some hchosen, Option.getD_some, List.getLastD_cons]

theorem Passes.succeeded_append {done : List Line} (h : s.Passes done s') (later : List Line) :
    s.succeeded (done ++ later) = done ++ s'.succeeded later := by
  induction h with
  | nil => rfl
  | cons hline _ ih => rw [List.cons_append, succeeded_of_ok hline, ih, List.cons_append]

theorem Passes.succeeded {lines : List Line} (h : s.Passes lines s') :
    s.succeeded lines = lines := by
  have hnone := h.succeeded_append []
  rwa [List.append_nil, Session.succeeded, List.append_nil] at hnone

/-- If the lines that succeed end here, the next one fails. -/
theorem exists_error_of_succeeded {done : List Line} {line : Line} {later : List Line}
    (h : s.Passes done s') (hdone : s.succeeded (done ++ line :: later) = done) :
    ∃ stop s'', s'.runLine line = (.error stop, s'') := by
  rcases hline : s'.runLine line with ⟨stop | _, s''⟩
  · exact ⟨stop, s'', rfl⟩
  · rw [h.succeeded_append, succeeded_of_ok hline] at hdone
    simp at hdone

theorem responseTimeout_run (lines : List Line) (s : Session S W) :
    (s.run lines).2.responseTimeout =
      ((s.succeeded lines).filterMap Line.timeout?).getLastD s.responseTimeout := by
  rcases passes_or_fails lines s with
    ⟨s', hpasses⟩ | ⟨done, line, later, stop, s', rfl, s₁, hpasses, hline⟩
  · rw [hpasses.run, hpasses.succeeded]
    exact hpasses.responseTimeout
  · have hkept : s'.responseTimeout = s₁.responseTimeout :=
      congrArg Prod.snd (settings_of_runLine_error hline)
    rw [run_of_failsAfter ⟨s₁, hpasses, hline⟩, hpasses.succeeded_append,
      succeeded_of_error hline, List.append_nil, ← hpasses.responseTimeout, ← hkept]
    cases stop <;> rfl

/-- A session on which these lines have succeeded, in any number of runs since it was new. -/
inductive HasRun : List Line → Session S W → Prop where
  | new (b : Bench W) : HasRun [] { bench := b }
  | run {past : List Line} {s : Session S W} (lines : List Line) : HasRun past s →
      HasRun (past ++ s.succeeded lines) (s.run lines).2
  | shutdown {past : List Line} {s : Session S W} : HasRun past s → HasRun past s.shutdown

theorem responseTimeout_shutdown (s : Session S W) :
    s.shutdown.responseTimeout = s.responseTimeout := by
  obtain ⟨log, heq⟩ := exists_log_shutdown s
  rw [heq]
  exact congrArg Prod.snd (settings_disconnect s)

theorem HasRun.responseTimeout {past : List Line} (h : HasRun past s) :
    s.responseTimeout = (past.filterMap Line.timeout?).getLastD defaultResponseTimeout := by
  induction h with
  | new b => rfl
  | run lines _ ih =>
    rw [responseTimeout_run, ih]
    simp [List.getLastD_eq_getLast?, List.getLast?_append]
  | shutdown _ ih =>
    rw [responseTimeout_shutdown]
    exact ih

end Session

end SerialScript
