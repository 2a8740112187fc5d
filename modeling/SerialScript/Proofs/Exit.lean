import SerialScript.Program.Basic
import SerialScript.Proofs.Session.Portless
import SerialScript.Proofs.Text.Decoding

namespace SerialScript

theorem Host.barred : Barred NoStream fun _ : Bench Host => True where
  report _ _ := trivial
  wait _ _ := trivial
  openPort _ _ _ _ _ := ⟨_, _, rfl, trivial⟩

namespace Serial

def Refusing (b : Bench World) : Prop := ∀ port ∈ b.world.ports, ∃ reason, port = .refusing reason

theorem barred : Barred Stream Refusing where
  report _ h := h
  wait _ h := h
  openPort {b} port baud responseTimeout openTimeout h := by
    simp only [Transport.openPort, openPort, record]
    cases hports : b.world.ports with
    | nil => exact ⟨_, _, rfl, hports ▸ h⟩
    | cons next ports =>
      unfold Refusing at h
      rw [hports, List.forall_mem_cons] at h
      obtain ⟨⟨reason, rfl⟩, hlater⟩ := h
      exact ⟨_, _, rfl, hlater⟩

end Serial

namespace Script

theorem isSome_of_accepted {script : String} {line : Line} (h : line ∈ accepted script) :
    line.keyword?.isSome = true := by
  have hverdict := of_decide_eq_true (List.mem_filter.1 h).2
  unfold verdict at hverdict
  split at hverdict
  · cases hverdict
  · cases hverdict
  · split at hverdict
    · assumption
    · cases hverdict

/-- To read a script is no reason for an error. -/
theorem isError_readingEvents {script : String} {e : Event} (h : e ∈ readingEvents script) :
    e.isError = false := by
  rcases List.mem_append.1 h with h | h
  · obtain ⟨line, -, rfl⟩ := List.mem_map.1 h
    rfl
  · obtain rfl := List.mem_singleton.1 h
    rfl

theorem load_eq_ok_iff {host : Host} {path text : String} :
    load host path = .ok text ↔ host.readFile path = .ok (Text.toBytes text) := by
  unfold load
  rcases host.readFile path with refusal | bytes
  · simp
  · simp only [Except.ok.injEq]
    rw [← Text.decode?_eq_some_iff]
    cases Text.decode? bytes <;> simp

end Script

namespace Session

variable {S W : Type}

theorem errors_reportAll (events : List Event) (s : Session S W) :
    (events.foldl report s).errors = s.errors ++ events.filter Event.isError := by
  rw [foldl_report]
  simp [errors, shown]

theorem shutdown_of_stranded [Transport S W] {P : Bench W → Prop} {s : Session S W}
    (h : s.Stranded P) : s.shutdown = s := by
  unfold shutdown
  rw [disconnect_of_stranded h]
  rfl

end Session

namespace Program

def loadedSession (path script : String) (host : Host) : Session NoStream Host :=
  (Script.readingEvents script ++ [loaded path script]).foldl Session.report
    { bench := { world := host } }

theorem endsPortless (path script : String) (host : Host) :
    (loadedSession path script host).EndsPortless (fun _ => True) (Script.accepted script) := by
  apply Session.run_of_stranded Host.barred
  · exact Session.Stranded.reportAll Host.barred ⟨rfl, trivial⟩ _
  · exact fun line => Script.isSome_of_accepted

theorem errors_loadedSession (path script : String) (host : Host) :
    (loadedSession path script host).errors = [] := by
  unfold loadedSession
  rw [Session.errors_reportAll]
  apply List.filter_eq_nil_iff.2
  intro e he
  rcases List.mem_append.1 he with he | he
  · simp [Script.isError_readingEvents he]
  · obtain rfl := List.mem_singleton.1 he
    simp [loaded, Event.isError]

theorem runFile_of_unloaded {path : String} {host : Host} {cause : Fault}
    (h : Script.load host path = .error cause) :
    runFile path host = ⟨.failure, [loadFailure path cause], 0⟩ := by
  unfold runFile
  rw [h]

/-- A script that is loaded is run, and there is no stream to close after it. -/
theorem runFile_of_loaded {path script : String} {host : Host}
    (h : Script.load host path = .ok script) :
    let o := (loadedSession path script host).run (Script.accepted script)
    (runFile path host).exit = (match o.1 with | .ok () => .success | .error _ => .failure) ∧
      (runFile path host).events = o.2.bench.log.toList := by
  intro o
  have hclosed : o.2.shutdown = o.2 :=
    Session.shutdown_of_stranded (endsPortless path script host).stranded
  have hstart : (Script.readingEvents script ++ [loaded path script]).foldl Session.report
      { bench := { world := host } } = loadedSession path script host := rfl
  unfold runFile
  rcases hrun : (loadedSession path script host).run (Script.accepted script) with ⟨stop | _, s⟩
  all_goals
    simp only [o, hrun] at hclosed
    simp only [o, h, hstart, hrun, hclosed, and_self]

/-- What a file has to hold for the program to succeed. -/
def Passing (host : Host) (path : String) : Prop :=
  ∃ text, host.readFile path = .ok (Text.toBytes text) ∧
    ∀ line ∈ Script.accepted text, line.Portless

theorem passing_iff {host : Host} {path script : String}
    (h : Script.load host path = .ok script) :
    Passing host path ↔ ∀ line ∈ Script.accepted script, line.Portless := by
  constructor
  · rintro ⟨text, hread, hall⟩
    have hload := Script.load_eq_ok_iff.2 hread
    rw [h, Except.ok.injEq] at hload
    rwa [hload]
  · intro hall
    exact ⟨script, Script.load_eq_ok_iff.1 h, hall⟩

/-- Either all is well and nothing is reported as an error, or one thing is. -/
inductive Settled (host : Host) (path : String) (ending : Ending) : Prop where
  | success : Passing host path → ending.exit = .success →
      ending.events.filter Event.isError = [] → Settled host path ending
  | failure {e : Event} : ¬Passing host path → ending.exit = .failure →
      ending.events.filter Event.isError = [e] → Settled host path ending

theorem settled_runFile (path : String) (host : Host) : Settled host path (runFile path host) := by
  cases hload : Script.load host path with
  | error cause =>
    rw [runFile_of_unloaded hload]
    apply Settled.failure (e := loadFailure path cause)
    · rintro ⟨text, hread, -⟩
      rw [Script.load_eq_ok_iff.2 hread] at hload
      cases hload
    · rfl
    · rfl
  | ok script =>
    obtain ⟨hexit, hevents⟩ := runFile_of_loaded hload
    obtain ⟨-, hsucceeds, hsilent, hfails⟩ := endsPortless path script host
    have hnone := errors_loadedSession path script host
    rcases hrun : (loadedSession path script host).run (Script.accepted script) with
      ⟨stop | _, s⟩
    · rw [hrun] at hexit hevents hsucceeds hfails
      obtain ⟨line, hmem, cause, hneeds, -, herrors⟩ := hfails stop rfl
      apply Settled.failure (e := Session.failureEvent line cause)
      · rw [passing_iff hload]
        exact fun hall => hneeds (hall line hmem)
      · exact hexit
      · rw [hevents]
        exact herrors.trans (by rw [hnone]; rfl)
    · rw [hrun] at hexit hevents hsucceeds hsilent
      apply Settled.success
      · rw [passing_iff hload]
        exact hsucceeds.1 rfl
      · exact hexit
      · rw [hevents]
        exact (hsilent rfl).trans hnone

theorem exit_runWith {readArguments : List String → CommandLine.Request}
    {shows : CommandLine.Options → Event → Bool} {arguments : List String} {host : Host}
    {options : CommandLine.Options} {path : String}
    (hoptions : readArguments arguments = .start options) (hfile : options.file = some path) :
    (runWith readArguments shows arguments host).exit = (runFile path host).exit := by
  unfold runWith
  rw [hoptions]
  simp only [hfile]

/-- The exit code where no port can be opened, and how often an error is reported: for the program
on any host and file, however its arguments are read, and for a run on any connector that
refuses. -/
theorem exit_of_barred :
    (∀ (host : Host) (path : String),
      let ending := runFile path host
      (ending.exit.code = 0 ↔ ∃ text, host.readFile path = .ok (Text.toBytes text) ∧
        ∀ line ∈ Script.accepted text, line.Portless) ∧
      (ending.exit.code = 0 ∨ ending.exit.code = 1) ∧
      (ending.events.filter Event.isError).length = ending.exit.code ∧
      ∀ (readArguments : List String → CommandLine.Request) shows arguments options,
        readArguments arguments = .start options → options.file = some path →
        (runWith readArguments shows arguments host).exit = ending.exit) ∧
    (∀ {S W : Type} [Transport S W] [LawfulTransport S W] {P : Bench W → Prop}, Barred S P →
      ∀ (b : Bench W) (script : String), P b →
      let start : Session S W := { bench := b }
      let o := start.runScript script
      (o.1 = .ok () ↔ ∀ line ∈ Script.accepted script, line.Portless) ∧
      (o.1 = .ok () → o.2.shutdown.errors = start.errors) ∧
      (∀ stop, o.1 = .error stop → ∃ e, o.2.shutdown.errors = start.errors ++ [e])) := by
  constructor
  · intro host path ending
    have hrun : ∀ (readArguments : List String → CommandLine.Request) shows arguments options,
        readArguments arguments = .start options → options.file = some path →
        (runWith readArguments shows arguments host).exit = ending.exit :=
      fun _ _ _ _ hoptions hfile => exit_runWith hoptions hfile
    cases settled_runFile path host with
    | success hpassing hexit herrors =>
      have hcode : ending.exit.code = 0 := congrArg Exit.code hexit
      exact ⟨⟨fun _ => hpassing, fun _ => hcode⟩, .inl hcode,
        (congrArg List.length herrors).trans hcode.symm, hrun⟩
    | failure hnot hexit herrors =>
      have hcode : ending.exit.code = 1 := congrArg Exit.code hexit
      refine ⟨⟨?_, fun hpassing => absurd hpassing hnot⟩, .inr hcode,
        (congrArg List.length herrors).trans hcode.symm, hrun⟩
      intro hzero
      rw [hcode] at hzero
      cases hzero
  · intro S W _ _ P hbarred b script hb start o
    have hstranded : ((Script.readingEvents script).foldl Session.report start).Stranded P :=
      Session.Stranded.reportAll hbarred ⟨rfl, hb⟩ _
    have hstart : ((Script.readingEvents script).foldl Session.report start).errors =
        start.errors := by
      rw [Session.errors_reportAll, List.filter_eq_nil_iff.2, List.append_nil]
      intro e he
      simp [Script.isError_readingEvents he]
    obtain ⟨hleft, hsucceeds, hsilent, hfails⟩ := Session.run_of_stranded hbarred hstranded
      fun line => Script.isSome_of_accepted
    have hclosed : o.2.shutdown = o.2 := Session.shutdown_of_stranded hleft
    rw [hclosed, ← hstart]
    refine ⟨hsucceeds, hsilent, ?_⟩
    intro stop hstop
    obtain ⟨line, -, cause, -, -, herrors⟩ := hfails stop hstop
    exact ⟨_, herrors⟩

theorem exit_of_barred_of_refusing :
    let host : Host := { nodes := [(["script"], .file (Text.toBytes "CFGEOL LF\nCMD hello\n"))] }
    let start : Session Serial.Stream Serial.World :=
      { bench := { world := { ports := [.refusing "busy"] } } }
    (runWith CommandLine.Request.ofArguments (fun _ _ => true) ["-f", "script"] host).exit.code =
        1 ∧
      ((runFile "script" host).events.filter Event.isError).length = 1 ∧
      (start.runScript "DELAY +0\nDISCONNECT p").2.shutdown.errors = [] ∧
      ∃ e, (start.runScript "DELAY +0\nCONNECT p 9600\nDELAY 1").2.shutdown.errors = [e] := by
  intro host start
  obtain ⟨hprogram, hconnector⟩ := exit_of_barred
  obtain ⟨-, -, hreported, hrun⟩ := hprogram host "script"
  have hexit : (runFile "script" host).exit = .failure := by decide +kernel
  have hbench : Serial.Refusing start.bench := List.forall_mem_singleton.2 ⟨"busy", rfl⟩
  have hok : (start.runScript "DELAY +0\nDISCONNECT p").1 = .ok () := by decide +kernel
  have hfails : (start.runScript "DELAY +0\nCONNECT p 9600\nDELAY 1").1 =
      .fail (.during (.runningLine 2 "CONNECT p 9600")
        (.during .connecting (.reported "busy"))) := by
    decide +kernel
  refine ⟨?_, ?_, ?_, ?_⟩
  · have hoptions : CommandLine.Request.ofArguments ["-f", "script"] =
        .start { file := some "script", logLevel := "info" } := by
      have hflag : CommandLine.Progress.step "-f" {} =
          .ok { pending := some (.file, none) } := rfl
      have hvalue : CommandLine.Progress.step "script" { pending := some (.file, none) } =
          .ok { pending := some (.file, some "script") } := rfl
      simp only [CommandLine.Request.ofArguments, CommandLine.Progress.finish, hflag, hvalue,
        String.reduceEq, if_false]
      rfl
    rw [hrun _ (fun _ _ => true) _ _ hoptions rfl, hexit]
    rfl
  · rw [hreported, hexit]
    rfl
  · exact (hconnector Serial.barred start.bench "DELAY +0\nDISCONNECT p" hbench).2.1 hok
  · exact (hconnector Serial.barred start.bench "DELAY +0\nCONNECT p 9600\nDELAY 1" hbench).2.2 _
      hfails

end Program

end SerialScript
