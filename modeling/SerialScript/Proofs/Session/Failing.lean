import SerialScript.Proofs.Session.Transcript

namespace SerialScript.Session

variable {S W : Type} {s s' : Session S W} {k : Keyword} {arguments : List String} {stop : Stop}

theorem reportSuccess_error {d : Directive} {message : String} {o : Outcome Unit × Session S W}
    (h : d.reportSuccess message o = (.error stop, s')) : o = (.error stop, s') := by
  obtain ⟨_ | _, s⟩ := o
  · exact h
  · cases h

theorem foldl_report (events : List Event) (s : Session S W) :
    events.foldl report s =
      { s with bench := { s.bench with log := s.bench.log ++ events.toArray } } := by
  induction events generalizing s with
  | nil => simp
  | cons event later ih =>
    rw [List.foldl_cons, ih]
    simp [report, Bench.report]

variable [Transport S W]

/-- Nothing is tried: the arguments are not valid, or there is no open stream to talk to. -/
def Refuses (s : Session S W) (k : Keyword) (arguments : List String) : Prop :=
  (∃ cause, Directive.ofArguments k arguments = .error cause) ∨
    (k = .cmd ∨ k = .eol ∨ k = .res) ∧ s.isConnected = false

/-- The bench once the stream there is has been closed and given up. -/
def letGo (s : Session S W) : Bench W :=
  match s.stream with
  | none => s.bench
  | some stream =>
    let (closed, bench) := Transport.close stream s.bench
    Transport.discard closed bench

theorem disconnect_eq (s : Session S W) :
    s.disconnect.2 = { s with stream := none, bench := s.letGo } := by
  unfold disconnect letGo
  cases hs : s.stream with
  | none =>
    obtain ⟨eol, responseTimeout, stream, b⟩ := s
    cases hs
    rfl
  | some stream => rfl

/-- A port that was asked for did not come, or came closed and was given up. -/
inductive Unopened (port : String) (baud : UInt32) (responseTimeout : Nat) (b : Bench W) :
    Bench W → Prop where
  | refused {b' : Bench W} {stop : Stop} :
      Transport.openPort (S := S) port baud responseTimeout openTimeout b = (.error stop, b') →
      Unopened port baud responseTimeout b b'
  | closed {b' : Bench W} {stream : S} :
      Transport.openPort port baud responseTimeout openTimeout b = (.ok stream, b') →
      Transport.isOpen stream = false →
      Unopened port baud responseTimeout b (Transport.discard stream b')

theorem connect_error {port : String} {baud : UInt32}
    (h : s.connect port baud = (.error stop, s')) :
    ∃ b, Unopened (S := S) port baud s.responseTimeout s.letGo b ∧
      s' = { s with stream := none, bench := b } := by
  unfold connect at h
  rw [disconnect_eq] at h
  simp only at h
  rcases hopen : Transport.openPort (S := S) port baud s.responseTimeout openTimeout s.letGo with
    ⟨stop | stream, b⟩
  · simp only [hopen] at h
    cases h
    exact ⟨b, .refused hopen, rfl⟩
  · simp only [hopen] at h
    by_cases hlive : Transport.isOpen stream = true
    · rw [if_pos hlive] at h
      cases h
    · rw [if_neg hlive] at h
      cases h
      exact ⟨_, .closed hopen (Bool.eq_false_iff.2 hlive), rfl⟩

theorem isConnected_of_requireStream {directive : String} {stream : S}
    (h : s.requireStream directive = .ok stream) : s.isConnected = true := by
  obtain ⟨hstream, hopen⟩ := requireStream_ok h
  unfold isConnected
  rw [hstream]
  exact hopen

theorem isOpen_of_isConnected {stream : S} (hstream : s.stream = some stream)
    (h : s.isConnected = true) : Transport.isOpen stream = true := by
  unfold isConnected at h
  rwa [hstream] at h

theorem not_isConnected_of_requireStream {directive : String}
    (h : s.requireStream directive = .error stop) : s.isConnected = false := by
  unfold requireStream at h
  unfold isConnected
  cases hs : s.stream with
  | none => rfl
  | some stream =>
    rw [hs] at h
    by_cases hopen : Transport.isOpen stream = true
    · simp only [hopen, if_true] at h
      cases h
    · exact Bool.eq_false_iff.2 hopen

theorem requireStream_of_not_isConnected (h : s.isConnected = false) (directive : String) :
    s.requireStream directive = .fail (.notConnected directive) := by
  unfold isConnected at h
  unfold requireStream
  cases hs : s.stream with
  | none => rfl
  | some stream =>
    rw [hs] at h
    simp only [h, Bool.false_eq_true, if_false]

inductive Fails (s : Session S W) (k : Keyword) (arguments : List String) :
    Session S W → Prop where
  | refused : s.Refuses k arguments → Fails s k arguments s
  /-- What is reported before the port is asked for does not matter. -/
  | unopened {port : String} {baud : UInt32} {b b' : Bench W} :
      Directive.ofArguments k arguments = .ok (.connect port baud) → b.world = s.bench.world →
      Unopened (S := S) port baud s.responseTimeout { s with bench := b }.letGo b' →
      Fails s k arguments { s with stream := none, bench := b' }
  | unwritten {d : Directive} {data : List UInt8} {stream stream' : S} {b : Bench W} {stop : Stop} :
      Directive.ofArguments k arguments = .ok d → k = .cmd ∨ k = .eol →
      s.stream = some stream → s.isConnected = true →
      Transport.write data stream s.bench = (.error stop, stream', b) →
      Fails s k arguments { s with stream := some stream', bench := b }
  | unread {pattern : String} {stream stream' : S} {b : Bench W} {result : Outcome String} :
      Directive.ofArguments k arguments = .ok (.res pattern) → s.stream = some stream →
      s.isConnected = true →
      Transport.readUntil pattern s.responseTimeout stream s.bench = (result, stream', b) →
      (∀ received, result = .ok received → received = "") →
      Fails s k arguments { s with stream := some stream', bench := b }

theorem send_error {d : Directive} {directive : String} {activity : Activity} {data : List UInt8}
    (hd : Directive.ofArguments k arguments = .ok d) (hk : k = .cmd ∨ k = .eol)
    (h : s.send directive activity data = (.error stop, s')) :
    s.Fails k arguments s' := by
  unfold send at h
  cases hr : s.requireStream directive with
  | error stop =>
    rw [hr] at h
    cases h
    refine .refused (.inr ⟨?_, not_isConnected_of_requireStream hr⟩)
    rcases hk with hk | hk <;> simp [hk]
  | ok stream =>
    rw [hr] at h
    simp only at h
    rcases hwrite : Transport.write data stream s.bench with ⟨stop | _, stream', b⟩
    · rw [hwrite] at h
      cases h
      exact .unwritten hd hk (requireStream_ok hr).1 (isConnected_of_requireStream hr) hwrite
    · rw [hwrite] at h
      cases h

/-- What `CONNECT` reports before it lets go of the stream there is. -/
theorem exists_opening (port : String) (baud : UInt32) :
    ∃ opening : List Event, ∀ s : Session S W, Directive.executeConnect port baud s =
      (Directive.connect port baud).reportSuccess "CONNECT Serial port open."
        (((opening.foldl report s).connect port baud).1.during .connecting,
          ((opening.foldl report s).connect port baud).2) := by
  unfold Directive.executeConnect
  cases commonBaudRates.contains baud with
  | true => exact ⟨[_], fun _ => rfl⟩
  | false => exact ⟨[_, _], fun _ => rfl⟩

theorem executeConnect_eq (port : String) (baud : UInt32) (s : Session S W) :
    ∃ b : Bench W, b.world = s.bench.world ∧
      Directive.executeConnect port baud s =
        (Directive.connect port baud).reportSuccess "CONNECT Serial port open."
          (({ s with bench := b }.connect port baud).1.during .connecting,
            ({ s with bench := b }.connect port baud).2) := by
  obtain ⟨opening, heq⟩ := exists_opening (S := S) (W := W) port baud
  refine ⟨{ s.bench with log := s.bench.log ++ opening.toArray }, rfl, ?_⟩
  rw [heq, foldl_report]

theorem executeConnect_error {port : String} {baud : UInt32}
    (hd : Directive.ofArguments k arguments = .ok (.connect port baud))
    (h : Directive.executeConnect port baud s = (.error stop, s')) : s.Fails k arguments s' := by
  obtain ⟨b, hworld, heq⟩ := executeConnect_eq port baud s
  rw [heq] at h
  replace h := reportSuccess_error h
  rcases hconnect : { s with bench := b }.connect port baud with ⟨stop' | _, s''⟩
  · rw [hconnect] at h
    cases h
    obtain ⟨b', hunopened, rfl⟩ := connect_error hconnect
    exact .unopened hd hworld hunopened
  · rw [hconnect] at h
    cases h

/-- A wait on the stream there is decides what becomes of `RES`: it must hand over a text. -/
theorem result_executeRes {stream : S} (h : s.requireStream Keyword.res.spelling = .ok stream)
    (pattern : String) :
    (Directive.executeRes pattern s).1 =
      match (Transport.readUntil pattern s.responseTimeout stream s.bench).1 with
      | .error stop => .error stop
      | .ok received =>
        if received = "" then .fail (.noResponse s.responseTimeout pattern) else .ok () := by
  unfold Directive.executeRes
  rw [h]
  rcases hread : Transport.readUntil pattern s.responseTimeout stream s.bench with
    ⟨stop | received, stream', b⟩
  · simp only [hread]
  · simp only [hread]
    split
    · rfl
    · rfl

theorem executeRes_error {pattern : String}
    (hd : Directive.ofArguments k arguments = .ok (.res pattern))
    (h : Directive.executeRes pattern s = (.error stop, s')) : s.Fails k arguments s' := by
  unfold Directive.executeRes at h
  cases hr : s.requireStream Keyword.res.spelling with
  | error stop =>
    rw [hr] at h
    cases h
    have hk := Directive.keyword_ofArguments hd
    exact .refused (.inr ⟨.inr (.inr hk.symm), not_isConnected_of_requireStream hr⟩)
  | ok stream =>
    rw [hr] at h
    simp only at h
    rcases hread : Transport.readUntil pattern s.responseTimeout stream s.bench with
      ⟨stop | received, stream', b⟩
    · rw [hread] at h
      cases h
      exact .unread hd (requireStream_ok hr).1 (isConnected_of_requireStream hr) hread (by simp)
    · rw [hread] at h
      by_cases hnothing : received = ""
      · simp only [hnothing, if_true] at h
        cases h
        refine .unread hd (requireStream_ok hr).1 (isConnected_of_requireStream hr) hread ?_
        intro received' h'
        cases h'
        exact hnothing
      · simp only [hnothing, if_false] at h
        cases h

theorem perform_error (h : s.perform k arguments = (.error stop, s')) : s.Fails k arguments s' := by
  unfold perform at h
  cases hd : Directive.ofArguments k arguments with
  | error cause =>
    rw [hd] at h
    cases h
    exact .refused (.inl ⟨cause, hd⟩)
  | ok d =>
    rw [hd] at h
    have hk := Directive.keyword_ofArguments hd
    cases d with
    | connect port baud => exact executeConnect_error hd h
    | eol => exact send_error hd (.inr hk.symm) (reportSuccess_error h)
    | cmd text => exact send_error hd (.inl hk.symm) (reportSuccess_error h)
    | res pattern => exact executeRes_error hd h
    | disconnect | cfgEol | cfgResTimeout | delay | delayMs => cases h

theorem not_refuses {d : Directive} (hd : Directive.ofArguments k arguments = .ok d)
    (h : k = .connect ∨ s.isConnected = true) : ¬s.Refuses k arguments := by
  rintro (⟨cause, hcause⟩ | ⟨hk, hclosed⟩)
  · rw [hd] at hcause
    cases hcause
  · rcases h with rfl | hopen
    · simp at hk
    · rw [hopen] at hclosed
      cases hclosed

/-- A valid `CONNECT` that fails has let go of the stream and has got none for it. -/
theorem Fails.of_connect (h : s.Fails .connect arguments s')
    (hnot : ¬s.Refuses .connect arguments) :
    ∃ (port : String) (baud : UInt32) (b b' : Bench W), b.world = s.bench.world ∧
      Unopened (S := S) port baud s.responseTimeout { s with bench := b }.letGo b' ∧
      s' = { s with stream := none, bench := b' } := by
  cases h with
  | refused hrefused => exact absurd hrefused hnot
  | unopened _ hworld hunopened => exact ⟨_, _, _, _, hworld, hunopened, rfl⟩
  | unwritten _ hk => simp at hk
  | unread hd => cases Directive.keyword_ofArguments hd

end SerialScript.Session
