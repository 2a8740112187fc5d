import SerialScript.Proofs.Session.FailFast

/-!
Carrying sessions over. Where streams and benches are mapped so that every call on the images does
what it does on the originals, so does every directive, every run and every sequence of runs: the
image of a session answers what the session answers and is left as its image.
-/

namespace SerialScript

namespace Session

variable {S W S' W' : Type}

def carry (f : S → S') (g : Bench W → Bench W') (s : Session S W) : Session S' W' where
  eol := s.eol
  responseTimeout := s.responseTimeout
  stream := s.stream.map f
  bench := g s.bench

def carried {α : Type} (f : S → S') (g : Bench W → Bench W') :
    α × Session S W → α × Session S' W' := Prod.map id (carry f g)

def proceed [Transport S W] (line : Line) (later : List Line) :
    Outcome Unit × Session S W → Outcome Unit × Session S W
  | (.ok (), s) => s.runLines later
  | (.error stop, s) => halt line stop s

/-- Runs scripts one after the other, whether or not they succeed. -/
def runEach [Transport S W] : List (List Line) → Session S W → List (Outcome Unit) × Session S W
  | [], s => ([], s)
  | lines :: later, s =>
    let (result, s) := s.run lines
    let (results, s) := runEach later s
    (result :: results, s)

def follow [Transport S W] (line : Line) (later : List Line) (scripts : List (List Line))
    (o : Outcome Unit × Session S W) : List (Outcome Unit) × Session S W :=
  let (result, s) := complete (line :: later).length (proceed line later o)
  let (results, s) := s.runEach scripts
  (result :: results, s)

theorem runLines_cons [Transport S W] (line : Line) (later : List Line) (s : Session S W) :
    s.runLines (line :: later) = proceed line later (s.runLine line) := by
  rw [runLines]
  rcases s.runLine line with ⟨(cause | _) | _, s'⟩ <;> rfl

theorem runEach_cons [Transport S W] (line : Line) (later : List Line) (scripts : List (List Line))
    (s : Session S W) :
    s.runEach ((line :: later) :: scripts) = follow line later scripts (s.runLine line) := by
  rw [runEach, run_eq_complete, runLines_cons]
  rfl

end Session

/-- Every call on the images is the image of the call. -/
structure Carries {S W S' W' : Type} [Transport S W] [Transport S' W'] (f : S → S')
    (g : Bench W → Bench W') : Prop where
  report : ∀ (b : Bench W) event, (g b).report event = g (b.report event)
  wait : ∀ (b : Bench W) ms, (g b).wait ms = g (b.wait ms)
  isOpen : ∀ s : S, Transport.isOpen (f s) = Transport.isOpen s
  openPort : ∀ port baud responseTimeout openTimeout b,
    Transport.openPort port baud responseTimeout openTimeout (g b) =
      Prod.map (Except.map f) g (Transport.openPort port baud responseTimeout openTimeout b)
  close : ∀ s b, Transport.close (f s) (g b) = Prod.map f g (Transport.close s b)
  setTimeout : ∀ ms s b,
    Transport.setTimeout ms (f s) (g b) = Prod.map f g (Transport.setTimeout ms s b)
  write : ∀ data s b,
    Transport.write data (f s) (g b) = Prod.map id (Prod.map f g) (Transport.write data s b)
  readUntil : ∀ text ms s b,
    Transport.readUntil text ms (f s) (g b) =
      Prod.map id (Prod.map f g) (Transport.readUntil text ms s b)
  discard : ∀ s b, Transport.discard (f s) (g b) = g (Transport.discard s b)

namespace Carries

open Session

variable {S W S' W' : Type} [Transport S W] [Transport S' W'] {f : S → S'}
  {g : Bench W → Bench W'}

theorem reported (h : Carries f g) (s : Session S W) (event : Event) :
    (s.carry f g).report event = (s.report event).carry f g :=
  congrArg (Session.mk s.eol s.responseTimeout (s.stream.map f)) (h.report s.bench event)

theorem disconnect (h : Carries f g) (s : Session S W) :
    (s.carry f g).disconnect = carried f g s.disconnect := by
  obtain ⟨eol, responseTimeout, stream, b⟩ := s
  unfold Session.disconnect
  cases stream with
  | none => rfl
  | some stream =>
    simp only [carry, Option.map_some, h.close, h.isOpen, h.discard, Prod.map]
    rfl

theorem openNext (h : Carries f g) (port : String) (baud : UInt32) (s : Session S W) :
    (s.carry f g).openNext port baud = carried f g (s.openNext port baud) := by
  unfold Session.openNext
  simp only [carry, h.openPort]
  rcases Transport.openPort (S := S) port baud s.responseTimeout openTimeout s.bench with
    ⟨stop | stream, b⟩
  · rfl
  · simp only [Prod.map, Except.map, h.isOpen]
    by_cases hlive : Transport.isOpen stream = true
    · rw [if_pos hlive, if_pos hlive]
      rfl
    · rw [if_neg hlive, if_neg hlive, h.discard]
      rfl

theorem connect (h : Carries f g) (port : String) (baud : UInt32) (s : Session S W) :
    (s.carry f g).connect port baud = carried f g (s.connect port baud) := by
  rw [connect_eq_openNext, h.disconnect]
  exact h.openNext port baud s.disconnect.2

theorem requireStream (h : Carries f g) (directive : String) (s : Session S W) :
    (s.carry f g).requireStream directive = (s.requireStream directive).map f := by
  unfold Session.requireStream carry
  cases s.stream with
  | none => rfl
  | some stream =>
    simp only [Option.map_some, h.isOpen]
    split <;> rfl

theorem send (h : Carries f g) (directive : String) (activity : Activity) (data : List UInt8)
    (s : Session S W) :
    (s.carry f g).send directive activity data = carried f g (s.send directive activity data) := by
  unfold Session.send
  rw [h.requireStream]
  cases s.requireStream directive with
  | error stop => rfl
  | ok stream =>
    simp only [Except.map, carry, h.write]
    rfl

theorem reportSuccess (h : Carries f g) (d : Directive) (message : String)
    (o : Outcome Unit × Session S W) :
    d.reportSuccess message (carried f g o) = carried f g (d.reportSuccess message o) := by
  obtain ⟨_ | _, s⟩ := o
  · rfl
  · exact congrArg (Prod.mk _) (h.reported s _)

theorem executeConnect (h : Carries f g) (port : String) (baud : UInt32) (s : Session S W) :
    Directive.executeConnect port baud (s.carry f g) =
      carried f g (Directive.executeConnect port baud s) := by
  unfold Directive.executeConnect
  rw [← h.reportSuccess]
  split <;> simp only [h.reported, h.connect] <;> rfl

theorem executeDisconnect (h : Carries f g) (port : String) (s : Session S W) :
    Directive.executeDisconnect port (s.carry f g) =
      (Directive.executeDisconnect port s).carry f g := by
  unfold Directive.executeDisconnect
  rw [h.disconnect]
  rcases s.disconnect with ⟨_ | _, s'⟩
  · simp only [carried, Prod.map, id_eq, Bool.false_eq_true, if_false, h.reported]
  · simp only [carried, Prod.map, id_eq, if_true, h.reported]

theorem executeCfgResTimeout (h : Carries f g) (ms : Nat) (s : Session S W) :
    Directive.executeCfgResTimeout ms (s.carry f g) =
      (Directive.executeCfgResTimeout ms s).carry f g := by
  unfold Directive.executeCfgResTimeout
  rw [← h.reported]
  simp only [carry]
  cases s.stream with
  | none => rfl
  | some stream =>
    simp only [Option.map_some, h.setTimeout]
    rfl

theorem executeRes (h : Carries f g) (pattern : String) (s : Session S W) :
    Directive.executeRes pattern (s.carry f g) = carried f g (Directive.executeRes pattern s) := by
  unfold Directive.executeRes
  rw [h.requireStream]
  cases s.requireStream Keyword.res.spelling with
  | error stop => rfl
  | ok stream =>
    simp only [Except.map, carry, h.readUntil]
    rcases Transport.readUntil pattern s.responseTimeout stream s.bench with
      ⟨stop | received, stream', b⟩
    · rfl
    · simp only [Prod.map, id_eq]
      by_cases hnothing : received = ""
      · rw [if_pos hnothing, if_pos hnothing]
        rfl
      · rw [if_neg hnothing, if_neg hnothing]
        simp only [Session.report, h.report]
        rfl

theorem execute (h : Carries f g) (d : Directive) (s : Session S W) :
    d.execute (s.carry f g) = carried f g (d.execute s) := by
  cases d with
  | connect port baud => exact h.executeConnect port baud s
  | disconnect port => exact congrArg (Prod.mk _) (h.executeDisconnect port s)
  | cfgEol convention => exact congrArg (Prod.mk _) (h.reported { s with eol := convention } _)
  | cfgResTimeout ms => exact congrArg (Prod.mk _) (h.executeCfgResTimeout ms s)
  | delay seconds | delayMs ms =>
    simp only [Directive.execute, h.reported]
    simp only [carry, h.wait]
    rfl
  | eol =>
    simp only [Directive.execute, Directive.executeEol, h.send, ← h.reportSuccess]
    rfl
  | cmd text =>
    simp only [Directive.execute, Directive.executeCmd, h.send, ← h.reportSuccess]
    rfl
  | res pattern => exact h.executeRes pattern s

theorem perform (h : Carries f g) (k : Keyword) (arguments : List String) (s : Session S W) :
    (s.carry f g).perform k arguments = carried f g (s.perform k arguments) := by
  unfold Session.perform
  cases Directive.ofArguments k arguments with
  | error cause => rfl
  | ok d => exact h.execute d s

theorem runLine (h : Carries f g) (line : Line) (s : Session S W) :
    (s.carry f g).runLine line = carried f g (s.runLine line) := by
  unfold Session.runLine
  cases line.keyword? with
  | none => exact congrArg (Prod.mk _) (h.reported s _)
  | some k =>
    simp only [h.reported]
    exact h.perform k line.arguments _

theorem halt (h : Carries f g) (line : Line) (stop : Stop) (s : Session S W) :
    Session.halt line stop (s.carry f g) = carried f g (Session.halt line stop s) := by
  cases stop with
  | broken => rfl
  | fault cause => exact congrArg (Prod.mk _) (h.reported s _)

theorem runLines (h : Carries f g) (lines : List Line) (s : Session S W) :
    (s.carry f g).runLines lines = carried f g (s.runLines lines) := by
  induction lines generalizing s with
  | nil => rfl
  | cons line later ih =>
    rw [runLines_cons, runLines_cons, h.runLine]
    rcases s.runLine line with ⟨stop | _, s'⟩
    · exact h.halt line stop s'
    · exact ih s'

theorem proceed (h : Carries f g) (line : Line) (later : List Line)
    (o : Outcome Unit × Session S W) :
    Session.proceed line later (carried f g o) = carried f g (Session.proceed line later o) := by
  obtain ⟨stop | _, s⟩ := o
  · exact h.halt line stop s
  · exact h.runLines later s

theorem complete (h : Carries f g) (count : Nat) (o : Outcome Unit × Session S W) :
    Session.complete count (carried f g o) = carried f g (Session.complete count o) := by
  obtain ⟨_ | _, s⟩ := o
  · rfl
  · exact congrArg (Prod.mk _) (h.reported s _)

theorem run (h : Carries f g) (lines : List Line) (s : Session S W) :
    (s.carry f g).run lines = carried f g (s.run lines) := by
  rw [run_eq_complete, run_eq_complete, h.runLines, h.complete]

theorem runEach (h : Carries f g) (scripts : List (List Line)) (s : Session S W) :
    (s.carry f g).runEach scripts = carried f g (s.runEach scripts) := by
  induction scripts generalizing s with
  | nil => rfl
  | cons lines later ih =>
    rw [Session.runEach, Session.runEach, h.run]
    simp only [carried, Prod.map, id_eq] at ih ⊢
    rw [ih]

theorem follow (h : Carries f g) (line : Line) (later : List Line) (scripts : List (List Line))
    (o : Outcome Unit × Session S W) :
    Session.follow line later scripts (carried f g o) =
      carried f g (Session.follow line later scripts o) := by
  have hscripts := h.runEach scripts (Session.complete (line :: later).length
    (Session.proceed line later o)).2
  rw [Session.follow, Session.follow, h.proceed, h.complete]
  simp only [carried, Prod.map, id_eq] at hscripts ⊢
  rw [hscripts]

end Carries

end SerialScript
