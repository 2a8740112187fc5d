import Mathlib.Algebra.GroupWithZero.Nat
import SerialScript.Proofs.Session.Aftermath
import SerialScript.Proofs.Session.Framing
import SerialScript.Proofs.Session.Settings

namespace SerialScript

namespace Line

def pause (line : Line) : Nat :=
  match line.keyword? with
  | some .delay => 1000 * line.count?.getD 0
  | some .delayMs => line.count?.getD 0
  | _ => 0

end Line

theorem Directive.pause_of_ofArguments {line : Line} {k : Keyword} {d : Directive}
    (hk : line.keyword? = some k) (hd : ofArguments k line.arguments = .ok d) :
    line.pause = d.pause := by
  unfold Line.pause
  rw [hk]
  cases k with
  | delay | delayMs =>
    obtain ⟨value, hcount, rfl⟩ := exists_count_of_map hd
    rw [hcount]
    rfl
  | _ =>
    have hkeyword := keyword_ofArguments hd
    cases d <;> cases hkeyword
    rfl

namespace Memory

theorem clock_openPort {b b' : Bench Memory} {result : Outcome Stream} {port : String}
    {baud : UInt32} {responseTimeout openTimeout : Nat}
    (h : openPort port baud responseTimeout openTimeout b = (result, b')) : b'.clock = b.clock := by
  unfold openPort at h
  split at h <;> cases h <;> rfl

theorem clock_close (s : Stream) (b : Bench Memory) : (close s b).2.clock = b.clock := by
  unfold close
  split <;> rfl

/-- A wait takes no time or all of it. -/
theorem clock_readUntil {s : Stream} (hopen : s.isOpen = true) (pattern : String) (ms : Nat)
    (b : Bench Memory) :
    (readUntil pattern ms s b).2.2.clock =
      b.clock + if pattern.toList <:+: b.world.inbound.toList then 0 else ms := by
  unfold readUntil
  rw [if_pos hopen]
  cases hsearch : Text.takeThrough pattern.toList b.world.inbound.toList with
  | none =>
    rw [if_neg (Text.takeThrough_eq_none_iff.1 hsearch)]
    rfl
  | some cut =>
    have hin : pattern.toList <:+: b.world.inbound.toList := by
      by_contra hnot
      rw [Text.takeThrough_eq_none_iff.2 hnot] at hsearch
      cases hsearch
    rw [if_pos hin]
    rfl

theorem infix_of_received {s s' : Stream} {pattern received : String} {ms : Nat}
    {b b' : Bench Memory} (h : readUntil pattern ms s b = (.ok received, s', b'))
    (hreceived : received ≠ "") : pattern.toList <:+: b.world.inbound.toList := by
  by_contra hnot
  unfold readUntil at h
  rw [Text.takeThrough_eq_none_iff.2 hnot] at h
  split at h
  · cases h
    exact hreceived rfl
  · cases h

end Memory

namespace Session

section Memory

variable {s s' : Session Memory.Stream Memory} {line : Line}

/-- The line waits, on an open stream, for a text that has not been received. -/
def Unanswered (s : Session Memory.Stream Memory) (line : Line) : Prop :=
  line.keyword? = some .res ∧ s.isConnected = true ∧
    ¬(Directive.phrase line.arguments).toList <:+: s.bench.world.inbound.toList

instance (s : Session Memory.Stream Memory) (line : Line) : Decidable (s.Unanswered line) :=
  inferInstanceAs (Decidable (_ ∧ _ ∧ _))

theorem clock_disconnect (s : Session Memory.Stream Memory) :
    s.disconnect.2.bench.clock = s.bench.clock := by
  rw [disconnect_eq]
  unfold letGo
  cases s.stream with
  | none => rfl
  | some stream => exact Memory.clock_close stream s.bench

theorem clock_connect (port : String) (baud : UInt32) (s : Session Memory.Stream Memory) :
    (s.connect port baud).2.bench.clock = s.bench.clock := by
  have hgone := clock_disconnect s
  unfold connect
  rcases hopen : Transport.openPort (S := Memory.Stream) port baud s.disconnect.2.responseTimeout
      openTimeout s.disconnect.2.bench with ⟨result, b⟩
  have hopened : b.clock = s.bench.clock := (Memory.clock_openPort hopen).trans hgone
  simp only [hopen]
  cases result with
  | error stop => exact hopened
  | ok stream =>
    simp only
    split
    · exact hopened
    · exact hopened

theorem clock_send (directive : String) (activity : Activity) (data : List UInt8)
    (s : Session Memory.Stream Memory) :
    (s.send directive activity data).2.bench.clock = s.bench.clock := by
  unfold send
  cases hr : s.requireStream directive with
  | error stop => rfl
  | ok stream =>
    have hopen : stream.isOpen = true := (requireStream_ok hr).2
    simp only [Transport.write, Memory.write, hopen, if_true]

theorem clock_reportSuccess (d : Directive) (message : String)
    (o : Outcome Unit × Session Memory.Stream Memory) :
    (d.reportSuccess message o).2.bench.clock = o.2.bench.clock := by
  obtain ⟨_ | _, s⟩ := o <;> rfl

theorem clock_executeConnect (port : String) (baud : UInt32) (s : Session Memory.Stream Memory) :
    (Directive.executeConnect port baud s).2.bench.clock = s.bench.clock := by
  unfold Directive.executeConnect
  rw [clock_reportSuccess]
  split
  · exact clock_connect _ _ _
  · exact clock_connect _ _ _

theorem clock_executeDisconnect (port : String) (s : Session Memory.Stream Memory) :
    (Directive.executeDisconnect port s).bench.clock = s.bench.clock := by
  obtain ⟨log, heq⟩ := exists_log_executeDisconnect port s
  rw [heq]
  exact clock_disconnect s

theorem clock_executeRes (pattern : String) (s : Session Memory.Stream Memory) :
    (Directive.executeRes pattern s).2.bench.clock = s.bench.clock +
      if s.isConnected = true ∧ ¬pattern.toList <:+: s.bench.world.inbound.toList then
        s.responseTimeout
      else 0 := by
  unfold Directive.executeRes
  cases hr : s.requireStream Keyword.res.spelling with
  | error stop =>
    have hclosed := not_isConnected_of_requireStream hr
    rw [if_neg fun h => by simp [hclosed] at h]
    rfl
  | ok stream =>
    have hclock := Memory.clock_readUntil (requireStream_ok hr).2 pattern s.responseTimeout s.bench
    simp only [Transport.readUntil, isConnected_of_requireStream hr, true_and, ite_not]
    rcases hread : Memory.readUntil pattern s.responseTimeout stream s.bench with
      ⟨stop | received, stream', b⟩
    · rw [hread] at hclock
      exact hclock
    · rw [hread] at hclock
      by_cases hnothing : received = ""
      · simp only [hnothing, if_true]
        exact hclock
      · simp only [hnothing, if_false]
        exact hclock

/-- A wait that succeeds has been answered. -/
theorem answered_of_executeRes {pattern : String}
    (h : Directive.executeRes pattern s = (.ok (), s')) :
    pattern.toList <:+: s.bench.world.inbound.toList := by
  unfold Directive.executeRes at h
  cases hr : s.requireStream Keyword.res.spelling with
  | error stop =>
    rw [hr] at h
    cases h
  | ok stream =>
    rw [hr] at h
    simp only [Transport.readUntil] at h
    rcases hread : Memory.readUntil pattern s.responseTimeout stream s.bench with
      ⟨stop | received, stream', b⟩
    · rw [hread] at h
      cases h
    · rw [hread] at h
      by_cases hnothing : received = ""
      · simp only [hnothing, if_true] at h
        cases h
      · exact Memory.infix_of_received hread hnothing

theorem clock_of_execute {d : Directive} (h : d.execute s = (.ok (), s')) :
    s'.bench.clock = s.bench.clock + d.pause := by
  have hsnd : (d.execute s).2 = s' := congrArg Prod.snd h
  cases d with
  | connect port baud =>
    rw [← hsnd]
    exact clock_executeConnect port baud s
  | disconnect port =>
    rw [← hsnd]
    exact clock_executeDisconnect port s
  | cfgEol convention =>
    rw [← hsnd]
    rfl
  | cfgResTimeout ms =>
    rw [← hsnd]
    unfold Directive.execute Directive.executeCfgResTimeout
    cases s.stream <;> rfl
  | delay seconds | delayMs ms =>
    rw [← hsnd]
    rfl
  | eol | cmd text =>
    rw [← hsnd]
    exact (clock_reportSuccess _ _ _).trans (clock_send _ _ _ s)
  | res pattern =>
    have hanswered := answered_of_executeRes h
    rw [← hsnd]
    apply (clock_executeRes pattern s).trans
    rw [if_neg fun hwaits => hwaits.2 hanswered]
    rfl

theorem Refuses.not_unanswered {k : Keyword} (hk : line.keyword? = some k)
    (h : s.Refuses k line.arguments) : ¬s.Unanswered line := by
  rintro ⟨hres, hconnected, hsilent⟩
  rw [hk, Option.some_inj] at hres
  subst hres
  rcases h with ⟨cause, hcause⟩ | ⟨-, hclosed⟩
  · cases harguments : line.arguments with
    | nil =>
      -- The only way to get the arguments wrong is to have none, and no text waits for nothing.
      rw [harguments] at hsilent
      exact hsilent List.nil_infix
    | cons first later =>
      rw [harguments] at hcause
      cases hcause
  · rw [hconnected] at hclosed
    cases hclosed

theorem clock_of_perform_error {k : Keyword} {stop : Stop} (hk : line.keyword? = some k)
    (h : s.perform k line.arguments = (.error stop, s')) :
    s'.bench.clock = s.bench.clock + if s.Unanswered line then s.responseTimeout else 0 := by
  have hsnd : (s.perform k line.arguments).2 = s' := congrArg Prod.snd h
  have hother : k ≠ .res → ¬s.Unanswered line := by
    rintro hne ⟨hres, -⟩
    rw [hk, Option.some_inj] at hres
    exact hne hres
  cases hd : Directive.ofArguments k line.arguments with
  | error cause =>
    rw [if_neg (Refuses.not_unanswered hk (.inl ⟨cause, hd⟩)), ← hsnd]
    unfold perform
    rw [hd]
    rfl
  | ok d =>
    have hkeyword := Directive.keyword_ofArguments hd
    rw [perform_of_ofArguments hd] at h hsnd
    cases d with
    | connect port baud =>
      obtain rfl : Keyword.connect = k := hkeyword
      rw [if_neg (hother (by decide)), ← hsnd]
      exact clock_executeConnect port baud s
    | eol =>
      obtain rfl : Keyword.eol = k := hkeyword
      rw [if_neg (hother (by decide)), ← hsnd]
      exact (clock_reportSuccess _ _ _).trans (clock_send _ _ _ s)
    | cmd text =>
      obtain rfl : Keyword.cmd = k := hkeyword
      rw [if_neg (hother (by decide)), ← hsnd]
      exact (clock_reportSuccess _ _ _).trans (clock_send _ _ _ s)
    | res pattern =>
      obtain rfl : Keyword.res = k := hkeyword
      obtain ⟨first, -, hphrase⟩ := Directive.withFirst_eq_ok hd
      cases hphrase
      simp only [Unanswered, hk, true_and]
      rw [← hsnd]
      exact clock_executeRes _ s
    | disconnect | cfgEol | cfgResTimeout | delay | delayMs => cases h

theorem clock_of_runLine_error {stop : Stop} (h : s.runLine line = (.error stop, s')) :
    s'.bench.clock = s.bench.clock + if s.Unanswered line then s.responseTimeout else 0 := by
  cases hk : line.keyword? with
  | none =>
    rw [runLine_of_unknown hk] at h
    cases h
  | some k =>
    rw [runLine_of_keyword hk] at h
    exact clock_of_perform_error (s := s.report (dispatching line k)) hk h

theorem clock_of_runLine (h : s.runLine line = (.ok (), s')) :
    s'.bench.clock = s.bench.clock + line.pause := by
  cases hk : line.keyword? with
  | none =>
    have hpause : line.pause = 0 := by simp [Line.pause, hk]
    rw [runLine_of_unknown hk] at h
    cases h
    rw [hpause]
    rfl
  | some k =>
    rw [runLine_of_keyword hk] at h
    cases hd : Directive.ofArguments k line.arguments with
    | error cause =>
      unfold perform at h
      rw [hd] at h
      cases h
    | ok d =>
      rw [perform_of_ofArguments hd] at h
      rw [Directive.pause_of_ofArguments hk hd]
      exact clock_of_execute (s := s.report (dispatching line k)) h

theorem Passes.clock {lines : List Line} (h : s.Passes lines s') :
    s'.bench.clock = s.bench.clock + (lines.map Line.pause).sum := by
  induction h with
  | nil => rfl
  | @cons s s₁ s' line later hline _ ih =>
    rw [ih, clock_of_runLine hline, List.map_cons, List.sum_cons, Nat.add_assoc]

structure Lasts (s : Session Memory.Stream Memory) (lines : List Line)
    (s₁ : Session Memory.Stream Memory) : Prop where
  getsPast : s.GetsPast lines (s.succeeded lines)
  passes : s.Passes (s.succeeded lines) s₁
  inForce : s₁.responseTimeout =
    ((s.succeeded lines).filterMap Line.timeout?).getLastD s.responseTimeout
  complete : s.succeeded lines = lines →
    (s.run lines).2.bench.clock = s.bench.clock + (lines.map Line.pause).sum
  halted : ∀ line later, lines = s.succeeded lines ++ line :: later →
    (s.run lines).2.bench.clock = s.bench.clock + ((s.succeeded lines).map Line.pause).sum +
      if s₁.Unanswered line then s₁.responseTimeout else 0
  /-- What is not even tried takes no time. -/
  refused : ∀ line later k, lines = s.succeeded lines ++ line :: later →
    line.keyword? = some k → s₁.Refuses k line.arguments →
    (s.run lines).2.bench.clock = s.bench.clock + ((s.succeeded lines).map Line.pause).sum

theorem clock_run_of_passes {lines : List Line} (h : s.Passes lines s') :
    (s.run lines).2.bench.clock = s.bench.clock + (lines.map Line.pause).sum := by
  rw [h.run]
  exact h.clock

theorem clock_run_of_failsAfter {done later : List Line} {stop : Stop}
    {s₁ : Session Memory.Stream Memory} (h : s.Passes done s₁)
    (hline : s₁.runLine line = (.error stop, s')) :
    (s.run (done ++ line :: later)).2.bench.clock = s.bench.clock + (done.map Line.pause).sum +
      if s₁.Unanswered line then s₁.responseTimeout else 0 := by
  rw [run_of_failsAfter ⟨s₁, h, hline⟩, ← h.clock, ← clock_of_runLine_error hline]
  cases stop <;> rfl

/-- Whatever the memory is set up to do and whatever the session has been through, a run takes as
long as its pauses and the wait in vain that halts it, if one does. -/
theorem run_lasts (s : Session Memory.Stream Memory) (lines : List Line) :
    ∃ s₁, s.Lasts lines s₁ ∧ ∀ past, HasRun past s →
      s₁.responseTimeout =
        ((past ++ s.succeeded lines).filterMap Line.timeout?).getLastD defaultResponseTimeout := by
  obtain ⟨s₁, hpasses⟩ := exists_passes_succeeded lines s
  have hinForce := hpasses.responseTimeout
  have hhalted : ∀ line later, lines = s.succeeded lines ++ line :: later →
      (s.run lines).2.bench.clock = s.bench.clock + ((s.succeeded lines).map Line.pause).sum +
        if s₁.Unanswered line then s₁.responseTimeout else 0 := by
    intro line later hsplit
    generalize hdone : s.succeeded lines = done at hpasses hsplit
    subst hsplit
    obtain ⟨stop, s', hline⟩ := exists_error_of_succeeded hpasses hdone
    exact clock_run_of_failsAfter hpasses hline
  refine ⟨s₁, ⟨getsPast_succeeded lines s, hpasses, hinForce, ?_, hhalted, ?_⟩, ?_⟩
  · intro hall
    rw [hall] at hpasses
    exact clock_run_of_passes hpasses
  · intro line later k hsplit hk hrefused
    rw [hhalted line later hsplit, if_neg (hrefused.not_unanswered hk), Nat.add_zero]
  · intro past hpast
    rw [hinForce, hpast.responseTimeout]
    simp [List.getLastD_eq_getLast?, List.getLast?_append]

def patient : Session Memory.Stream Memory :=
  (Session.run [⟨1, "CONNECT p 9600"⟩, ⟨2, "CFGRESTIMEOUT 250"⟩] { bench := { world := {} } }).2

/-- Lines of which the first pauses for more milliseconds than fit into 64 bits. -/
def leisurely : List Line := [⟨1, "DELAY 18446744073709552"⟩, ⟨2, "DELAYMS 5"⟩]

theorem run_lasts_of_patient :
    (patient.run leisurely).2.bench.clock = 18446744073709552005 ∧
      (patient.run (leisurely ++ [⟨3, "RES OK"⟩, ⟨4, "DELAY 1"⟩])).2.bench.clock =
        18446744073709552005 + 250 ∧
      (patient.run (leisurely ++ [⟨3, "DELAY -1"⟩])).2.bench.clock = 18446744073709552005 := by
  have hpast := HasRun.run [⟨1, "CONNECT p 9600"⟩, ⟨2, "CFGRESTIMEOUT 250"⟩]
    (.new (S := Memory.Stream) { world := {} })
  refine ⟨?_, ?_, ?_⟩
  · obtain ⟨s₁, hlasts, -⟩ := run_lasts patient leisurely
    exact hlasts.complete (by decide +kernel)
  · obtain ⟨s₁, hlasts, hinForce⟩ :=
      run_lasts patient (leisurely ++ [⟨3, "RES OK"⟩, ⟨4, "DELAY 1"⟩])
    have hdone : patient.succeeded (leisurely ++ [⟨3, "RES OK"⟩, ⟨4, "DELAY 1"⟩]) = leisurely := by
      decide +kernel
    have hpasses := hlasts.passes
    have hhalted := hlasts.halted ⟨3, "RES OK"⟩ [⟨4, "DELAY 1"⟩] (by rw [hdone])
    have hwait := hinForce _ hpast
    rw [hdone] at hpasses hhalted hwait
    have hwaits : (patient.runLines leisurely).2.Unanswered ⟨3, "RES OK"⟩ := by decide +kernel
    rw [hpasses.runLines] at hwaits
    rw [hhalted, if_pos hwaits, hwait]
    decide +kernel
  · obtain ⟨s₁, hlasts, -⟩ := run_lasts patient (leisurely ++ [⟨3, "DELAY -1"⟩])
    have hdone : patient.succeeded (leisurely ++ [⟨3, "DELAY -1"⟩]) = leisurely := by
      decide +kernel
    have hrefused := hlasts.refused ⟨3, "DELAY -1"⟩ [] .delay (by rw [hdone]) (by decide +kernel)
      (.inl ⟨_, rfl⟩)
    rw [hrefused, hdone]
    decide +kernel

end Memory

end Session

end SerialScript
