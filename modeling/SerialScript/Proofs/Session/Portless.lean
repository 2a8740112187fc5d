import SerialScript.Proofs.Arguments
import SerialScript.Proofs.Session.Settings

namespace SerialScript

inductive Line.Portless (line : Line) : Prop where
  | disconnect : line.keyword? = some .disconnect → line.arguments ≠ [] → Portless line
  | cfgEol {first : String} : line.keyword? = some .cfgEol →
      line.arguments.head? = some first → first ∈ ["CR", "LF", "CRLF"] → Portless line
  | count {k : Keyword} {first : String} {value : Int} : line.keyword? = some k →
      k ∈ [Keyword.delay, .delayMs, .cfgResTimeout] → line.arguments.head? = some first →
      Numeral.Denotes first value → 0 ≤ value → value < 2 ^ 63 → Portless line

theorem exists_readCount_iff {directive quantity argument : String} :
    (∃ n, readCount directive quantity argument = .ok n) ↔
      ∃ value, Numeral.Denotes argument value ∧ 0 ≤ value ∧ value < 2 ^ 63 := by
  simp only [readCount_eq_ok_iff]
  constructor
  · rintro ⟨n, hdenotes, hlimit⟩
    exact ⟨n, hdenotes, by omega, by omega⟩
  · rintro ⟨value, hdenotes, hpositive, hlimit⟩
    obtain ⟨n, rfl⟩ := Int.eq_ofNat_of_zero_le hpositive
    exact ⟨n, hdenotes, by omega⟩

theorem exists_ofName?_iff {name : String} :
    (∃ eol, Eol.ofName? name = some eol) ↔ name ∈ ["CR", "LF", "CRLF"] := by
  constructor
  · rintro ⟨eol, h⟩
    have hname := List.find?_some h
    rw [beq_iff_eq] at hname
    rw [← hname]
    cases eol <;> decide
  · intro h
    simp only [List.mem_cons, List.not_mem_nil, or_false] at h
    rcases h with rfl | rfl | rfl
    · exact ⟨.cr, Eol.ofName?_name .cr⟩
    · exact ⟨.lf, Eol.ofName?_name .lf⟩
    · exact ⟨.crlf, Eol.ofName?_name .crlf⟩

namespace Directive

def portless : Directive → Bool
  | disconnect _ | cfgEol _ | cfgResTimeout _ | delay _ | delayMs _ => true
  | connect _ _ | eol | cmd _ | res _ => false

theorem withFirst_of_head? {k : Keyword} {arguments : List String} {first : String}
    (h : arguments.head? = some first) (build : String → Except Fault Directive) :
    withFirst k arguments build = build first := by
  cases arguments with
  | nil => cases h
  | cons _ later =>
    cases h
    rfl

theorem exists_count_of_denotes {arguments : List String} {first : String} {value : Int}
    (hfirst : arguments.head? = some first) (hdenotes : Numeral.Denotes first value)
    (hpositive : 0 ≤ value) (hlimit : value < 2 ^ 63) (k : Keyword) (build : Nat → Directive) :
    ∃ n, withFirst k arguments (fun argument =>
      (readCount k.spelling "time value" argument).map build) = .ok (build n) := by
  obtain ⟨n, hcount⟩ := exists_readCount_iff.2 ⟨value, hdenotes, hpositive, hlimit⟩
  rw [withFirst_of_head? hfirst, hcount]
  exact ⟨n, rfl⟩

end Directive

namespace Line

variable {line : Line}

theorem Portless.exists_directive (h : line.Portless) :
    ∃ k d, line.keyword? = some k ∧ Directive.ofArguments k line.arguments = .ok d ∧
      d.portless = true := by
  cases h with
  | disconnect hk hsome =>
    obtain ⟨port, later, harguments⟩ := List.exists_cons_of_ne_nil hsome
    rw [harguments]
    exact ⟨_, .disconnect port, hk, rfl, rfl⟩
  | cfgEol hk hfirst hname =>
    obtain ⟨eol, heol⟩ := exists_ofName?_iff.2 hname
    refine ⟨_, .cfgEol eol, hk, ?_, rfl⟩
    unfold Directive.ofArguments
    simp only
    rw [Directive.withFirst_of_head? hfirst, readEol, heol]
  | count hk hmem hfirst hdenotes hpositive hlimit =>
    have hcount := Directive.exists_count_of_denotes hfirst hdenotes hpositive hlimit
    simp only [List.mem_cons, List.not_mem_nil, or_false] at hmem
    rcases hmem with rfl | rfl | rfl
    · obtain ⟨n, hd⟩ := hcount .delay .delay
      exact ⟨_, _, hk, hd, rfl⟩
    · obtain ⟨n, hd⟩ := hcount .delayMs .delayMs
      exact ⟨_, _, hk, hd, rfl⟩
    · obtain ⟨n, hd⟩ := hcount .cfgResTimeout .cfgResTimeout
      exact ⟨_, _, hk, hd, rfl⟩

theorem portless_of_count {k : Keyword} {build : Nat → Directive} {d : Directive}
    (hk : line.keyword? = some k) (hmem : k ∈ [Keyword.delay, .delayMs, .cfgResTimeout])
    (hd : Directive.withFirst k line.arguments (fun argument =>
      (readCount k.spelling "time value" argument).map build) = .ok d) : line.Portless := by
  obtain ⟨numeral, later, n, harguments, hdenotes, hlimit, -⟩ := Directive.exists_count hd
  have hfirst : line.arguments.head? = some numeral := by rw [harguments, List.head?_cons]
  exact .count hk hmem hfirst hdenotes (by omega) (by omega)

theorem portless_of_directive {k : Keyword} {d : Directive} (hk : line.keyword? = some k)
    (hd : Directive.ofArguments k line.arguments = .ok d) (h : d.portless = true) :
    line.Portless := by
  have hkeyword := Directive.keyword_ofArguments hd
  cases d with
  | disconnect port =>
    obtain rfl : Keyword.disconnect = k := hkeyword
    obtain ⟨first, hfirst, -⟩ := Directive.withFirst_eq_ok hd
    refine .disconnect hk ?_
    rintro hnone
    rw [hnone] at hfirst
    cases hfirst
  | cfgEol eol =>
    obtain rfl : Keyword.cfgEol = k := hkeyword
    obtain ⟨convention, hname, -⟩ := Directive.ofArguments_cfgEol hd
    obtain ⟨first, hfirst, heol⟩ := Option.bind_eq_some_iff.1 hname
    exact .cfgEol hk hfirst (exists_ofName?_iff.1 ⟨convention, heol⟩)
  | cfgResTimeout ms =>
    obtain rfl : Keyword.cfgResTimeout = k := hkeyword
    exact portless_of_count hk (by simp) hd
  | delay seconds =>
    obtain rfl : Keyword.delay = k := hkeyword
    exact portless_of_count hk (by simp) hd
  | delayMs ms =>
    obtain rfl : Keyword.delayMs = k := hkeyword
    exact portless_of_count hk (by simp) hd
  | connect | eol | cmd | res => cases h

end Line

/-- No port opens, and nothing that a session without a stream does makes one open. -/
structure Barred (S : Type) {W : Type} [Transport S W] (P : Bench W → Prop) : Prop where
  report : ∀ {b : Bench W} event, P b → P (b.report event)
  wait : ∀ {b : Bench W} ms, P b → P (b.wait ms)
  openPort : ∀ {b : Bench W} port baud responseTimeout openTimeout, P b →
    ∃ cause b', Transport.openPort (S := S) port baud responseTimeout openTimeout b =
      (.fail cause, b') ∧ P b'

namespace Session

section Barred

variable {S W : Type} [Transport S W] {P : Bench W → Prop} {s : Session S W}

/-- There is no stream, and there will be none. -/
def Stranded (P : Bench W → Prop) (s : Session S W) : Prop := s.stream = none ∧ P s.bench

theorem Stranded.report (hbarred : Barred S P) (h : s.Stranded P) (e : Event) :
    (s.report e).Stranded P := ⟨h.1, hbarred.report e h.2⟩

theorem Stranded.reportAll (hbarred : Barred S P) (h : s.Stranded P) (events : List Event) :
    (events.foldl Session.report s).Stranded P := by
  induction events generalizing s with
  | nil => exact h
  | cons event later ih => exact ih (h.report hbarred event)

theorem disconnect_of_stranded (h : s.Stranded P) : s.disconnect = (false, s) := by
  unfold disconnect
  rw [h.1]

theorem connect_of_stranded (hbarred : Barred S P) (h : s.Stranded P) (port : String)
    (baud : UInt32) : ∃ cause s', s.connect port baud = (.fail cause, s') ∧ s'.Stranded P := by
  obtain ⟨cause, b', hopen, hb'⟩ := hbarred.openPort port baud s.responseTimeout openTimeout h.2
  refine ⟨cause, { s with bench := b' }, ?_, h.1, hb'⟩
  rw [connect_eq_openNext, disconnect_of_stranded h, openNext]
  simp only [hopen]
  rfl

theorem requireStream_of_stranded (h : s.Stranded P) (directive : String) :
    s.requireStream directive = .fail (.notConnected directive) := by
  unfold requireStream
  rw [h.1]

theorem send_of_stranded (h : s.Stranded P) (directive : String) (activity : Activity)
    (data : List UInt8) :
    s.send directive activity data = (.fail (.notConnected directive), s) := by
  unfold send
  rw [requireStream_of_stranded h]
  rfl

theorem executeConnect_of_stranded (hbarred : Barred S P) (h : s.Stranded P) (port : String)
    (baud : UInt32) :
    ∃ cause s', Directive.executeConnect port baud s = (.fail cause, s') ∧ s'.Stranded P := by
  obtain ⟨opening, heq⟩ := exists_opening (S := S) (W := W) port baud
  obtain ⟨cause, s', hconnect, hs'⟩ :=
    connect_of_stranded hbarred (h.reportAll hbarred opening) port baud
  rw [heq, hconnect]
  exact ⟨.during .connecting cause, s', rfl, hs'⟩

theorem executeDisconnect_of_stranded (hbarred : Barred S P) (h : s.Stranded P) (port : String) :
    (Directive.executeDisconnect port s).Stranded P := by
  unfold Directive.executeDisconnect
  rw [disconnect_of_stranded h]
  exact (h.report hbarred _).report hbarred _

theorem executeCfgResTimeout_of_stranded (hbarred : Barred S P) (h : s.Stranded P) (ms : Nat) :
    (Directive.executeCfgResTimeout ms s).Stranded P := by
  unfold Directive.executeCfgResTimeout
  simp only [h.1]
  exact ⟨rfl, hbarred.report _ h.2⟩

/-- Without a stream a valid directive succeeds or fails by what it is. -/
theorem execute_of_stranded (hbarred : Barred S P) (h : s.Stranded P) (d : Directive) :
    ∃ result s', d.execute s = (result, s') ∧ s'.Stranded P ∧
      (d.portless = true → result = .ok ()) ∧
      (d.portless = false → ∃ cause, result = .fail cause) := by
  cases d with
  | connect port baud =>
    obtain ⟨cause, s', hexecute, hs'⟩ := executeConnect_of_stranded hbarred h port baud
    exact ⟨_, s', hexecute, hs', Bool.noConfusion, fun _ => ⟨cause, rfl⟩⟩
  | disconnect port =>
    exact ⟨_, _, rfl, executeDisconnect_of_stranded hbarred h port, fun _ => rfl, Bool.noConfusion⟩
  | cfgEol eol => exact ⟨_, _, rfl, ⟨h.1, hbarred.report _ h.2⟩, fun _ => rfl, Bool.noConfusion⟩
  | cfgResTimeout ms =>
    exact ⟨_, _, rfl, executeCfgResTimeout_of_stranded hbarred h ms, fun _ => rfl, Bool.noConfusion⟩
  | delay seconds =>
    exact ⟨_, _, rfl, ⟨h.1, hbarred.wait _ (hbarred.report _ h.2)⟩, fun _ => rfl, Bool.noConfusion⟩
  | delayMs ms =>
    exact ⟨_, _, rfl, ⟨h.1, hbarred.wait _ (hbarred.report _ h.2)⟩, fun _ => rfl, Bool.noConfusion⟩
  | eol =>
    rw [Directive.execute, Directive.executeEol, send_of_stranded h]
    exact ⟨_, s, rfl, h, Bool.noConfusion, fun _ => ⟨_, rfl⟩⟩
  | cmd text =>
    rw [Directive.execute, Directive.executeCmd, send_of_stranded h]
    exact ⟨_, s, rfl, h, Bool.noConfusion, fun _ => ⟨_, rfl⟩⟩
  | res pattern =>
    rw [Directive.execute, Directive.executeRes, requireStream_of_stranded h]
    exact ⟨_, s, rfl, h, Bool.noConfusion, fun _ => ⟨_, rfl⟩⟩

/-- A line that names a directive succeeds if it needs no port, and fails otherwise. -/
theorem runLine_of_stranded (hbarred : Barred S P) (h : s.Stranded P) {line : Line}
    (hknown : line.keyword?.isSome = true) :
    ∃ result s', s.runLine line = (result, s') ∧ s'.Stranded P ∧
      (line.Portless → result = .ok ()) ∧ (¬line.Portless → ∃ cause, result = .fail cause) := by
  obtain ⟨k, hk⟩ := Option.isSome_iff_exists.1 hknown
  rw [runLine_of_keyword hk]
  have hdispatched := h.report hbarred (dispatching line k)
  cases hd : Directive.ofArguments k line.arguments with
  | error cause =>
    refine ⟨.fail cause, s.report (dispatching line k), ?_, hdispatched, ?_, fun _ => ⟨cause, rfl⟩⟩
    · unfold perform
      rw [hd]
    · intro hportless
      obtain ⟨k', d, hk', hd', -⟩ := hportless.exists_directive
      rw [hk, Option.some_inj] at hk'
      rw [← hk', hd] at hd'
      cases hd'
  | ok d =>
    obtain ⟨result, s', hexecute, hs', hok, hfail⟩ := execute_of_stranded hbarred hdispatched d
    rw [perform_of_ofArguments hd]
    refine ⟨result, s', hexecute, hs', ?_, ?_⟩
    · intro hportless
      obtain ⟨k', d', hk', hd', hd'portless⟩ := hportless.exists_directive
      rw [hk, Option.some_inj] at hk'
      rw [← hk', hd, Except.ok.injEq] at hd'
      exact hok (hd' ▸ hd'portless)
    · intro hneeds
      apply hfail
      rw [Bool.eq_false_iff]
      exact fun hportless => hneeds (Line.portless_of_directive hk hd hportless)

theorem Passes.of_stranded (hbarred : Barred S P) {lines : List Line} {s' : Session S W}
    (hpasses : s.Passes lines s') (h : s.Stranded P)
    (hknown : ∀ line ∈ lines, line.keyword?.isSome = true) :
    s'.Stranded P ∧ ∀ line ∈ lines, line.Portless := by
  induction hpasses with
  | nil => exact ⟨h, List.forall_mem_nil _⟩
  | @cons s s₁ s' line later hline _ ih =>
    obtain ⟨hfirst, hlater⟩ := List.forall_mem_cons.1 hknown
    obtain ⟨result, s₂, hrun, hs₂, hok, hfail⟩ := runLine_of_stranded hbarred h hfirst
    rw [hline] at hrun
    cases hrun
    obtain ⟨hs', hall⟩ := ih hs₂ hlater
    refine ⟨hs', List.forall_mem_cons.2 ⟨?_, hall⟩⟩
    by_contra hneeds
    obtain ⟨cause, hcause⟩ := hfail hneeds
    cases hcause

variable [LawfulTransport S W]

structure EndsPortless (P : Bench W → Prop) (lines : List Line) (s : Session S W) : Prop where
  stranded : (s.run lines).2.Stranded P
  succeeds : (s.run lines).1 = .ok () ↔ ∀ line ∈ lines, line.Portless
  silent : (s.run lines).1 = .ok () → (s.run lines).2.errors = s.errors
  /-- The program does not break off, and the line that fails is reported. -/
  fails : ∀ stop, (s.run lines).1 = .error stop → ∃ line ∈ lines, ∃ cause, ¬line.Portless ∧
    stop = .fault (.during (.runningLine line.number line.text) cause) ∧
    (s.run lines).2.errors = s.errors ++ [failureEvent line cause]

theorem run_of_stranded (hbarred : Barred S P) (h : s.Stranded P) {lines : List Line}
    (hknown : ∀ line ∈ lines, line.keyword?.isSome = true) : s.EndsPortless P lines := by
  rcases passes_or_fails lines s with
    ⟨s', hpasses⟩ | ⟨done, line, later, stop, s', rfl, s₁, hpasses, hline⟩
  · obtain ⟨hs', hall⟩ := hpasses.of_stranded hbarred h hknown
    obtain ⟨hrun, herrors⟩ := (run_fails_fast s).succeeds hpasses
    refine ⟨?_, ?_, fun _ => herrors, ?_⟩
    · rw [hrun]
      exact hs'.report hbarred _
    · rw [hrun]
      exact ⟨fun _ => hall, fun _ => rfl⟩
    · intro stop hstop
      rw [hrun] at hstop
      cases hstop
  · obtain ⟨hdone, hrest⟩ := List.forall_mem_append.1 hknown
    obtain ⟨hs₁, -⟩ := hpasses.of_stranded hbarred h hdone
    obtain ⟨result, s₂, hrun, hs', hok, hfail⟩ :=
      runLine_of_stranded hbarred hs₁ (hrest line List.mem_cons_self)
    rw [hline] at hrun
    cases hrun
    have hneeds : ¬line.Portless := by
      intro hportless
      cases hok hportless
    obtain ⟨cause, hcause⟩ := hfail hneeds
    cases hcause
    have hmem : line ∈ done ++ line :: later := by simp
    have hhalted := run_of_failsAfter ⟨s₁, hpasses, hline⟩ later
    obtain ⟨-, -, -, herrors⟩ := (run_fails_fast s).fails ⟨s₁, hpasses, hline⟩ later
    refine ⟨?_, ?_, ?_, ?_⟩
    · rw [hhalted]
      exact hs'.report hbarred _
    · rw [hhalted]
      constructor
      · intro h
        cases h
      · intro hall
        exact absurd (hall line hmem) hneeds
    · rw [hhalted]
      intro h
      cases h
    · intro stop hstop
      rw [hhalted] at hstop
      cases hstop
      exact ⟨line, hmem, cause, hneeds, rfl, herrors⟩

end Barred

end Session

end SerialScript
