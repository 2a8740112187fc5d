import Mathlib.Data.List.Infix
import SerialScript.Proofs.Session.Invariant
import SerialScript.Proofs.Session.Progress
import SerialScript.Transport.Memory

namespace SerialScript

namespace Line

def eol? (line : Line) : Option Eol :=
  if line.keyword? = some .cfgEol then line.arguments.head?.bind Eol.ofName? else none

/-- What a line has to send while this convention is in force, write by write. -/
def sent (eol : Eol) (line : Line) : List (List UInt8) :=
  match line.keyword? with
  | some .cmd => [Text.toBytes (" ".intercalate line.arguments) ++ eol.bytes]
  | some .eol => [eol.bytes]
  | _ => []

end Line

/-- The convention that was chosen last. -/
def eolInForce (earlier : List Line) : Eol := (earlier.filterMap Line.eol?).getLastD .cr

def transcript (lines : List Line) : List (List UInt8) :=
  (lines.inits.zip lines).flatMap fun (earlier, line) => line.sent (eolInForce earlier)

def transcriptFrom : Eol → List Line → List (List UInt8)
  | _, [] => []
  | eol, line :: later => line.sent eol ++ transcriptFrom (line.eol?.getD eol) later

theorem eolInForce_concat (earlier : List Line) (line : Line) :
    eolInForce (earlier ++ [line]) = line.eol?.getD (eolInForce earlier) := by
  unfold eolInForce
  rw [List.filterMap_append]
  cases h : line.eol? with
  | none =>
    rw [List.filterMap_cons_none h, List.filterMap_nil, List.append_nil]
    rfl
  | some eol =>
    rw [List.filterMap_cons_some h, List.filterMap_nil, List.getLastD_concat]
    rfl

theorem transcriptFrom_eolInForce (earlier lines : List Line) :
    transcriptFrom (eolInForce earlier) lines =
      (lines.inits.zip lines).flatMap fun (between, line) =>
        line.sent (eolInForce (earlier ++ between)) := by
  induction lines generalizing earlier with
  | nil => rfl
  | cons line later ih =>
    rw [transcriptFrom, ← eolInForce_concat, ih]
    simp only [List.inits_cons, List.zip_cons_cons, List.flatMap_cons, List.append_nil,
      List.zip_map_left, List.flatMap_map, List.append_assoc, List.singleton_append]
    rfl

theorem transcript_eq (lines : List Line) : transcript lines = transcriptFrom .cr lines :=
  (transcriptFrom_eolInForce [] lines).symm

namespace Directive

def eol? : Directive → Option Eol
  | cfgEol convention => some convention
  | _ => none

def sent (convention : Eol) : Directive → List (List UInt8)
  | cmd text => [Text.toBytes text ++ convention.bytes]
  | eol => [convention.bytes]
  | _ => []

theorem withFirst_eq_ok {k : Keyword} {arguments : List String}
    {build : String → Except Fault Directive} {d : Directive}
    (h : withFirst k arguments build = .ok d) :
    ∃ first, arguments.head? = some first ∧ build first = .ok d := by
  cases arguments with
  | nil => cases h
  | cons first later => exact ⟨first, rfl, h⟩

theorem keyword_map {α : Type} {k : Keyword} {read : Except Fault α} {build : α → Directive}
    {d : Directive} (h : read.map build = .ok d) (hbuild : ∀ a, (build a).keyword = k) :
    d.keyword = k := by
  cases read with
  | error cause => cases h
  | ok a =>
    cases h
    exact hbuild a

theorem keyword_ofArguments {k : Keyword} {arguments : List String} {d : Directive}
    (h : ofArguments k arguments = .ok d) : d.keyword = k := by
  cases k with
  | connect =>
    rcases arguments with _ | ⟨port, _ | ⟨baud, later⟩⟩
    · cases h
    · cases h
    · exact keyword_map h fun _ => rfl
  | eol =>
    cases h
    rfl
  | cfgEol =>
    obtain ⟨first, -, hbuild⟩ := withFirst_eq_ok h
    rcases hread : readEol first with _ | convention
    · rw [hread] at hbuild
      cases hbuild
    · rw [hread] at hbuild
      cases hbuild
      rfl
  | disconnect | cmd | res =>
    obtain ⟨first, -, hbuild⟩ := withFirst_eq_ok h
    cases hbuild
    rfl
  | cfgResTimeout | delay | delayMs =>
    obtain ⟨first, -, hbuild⟩ := withFirst_eq_ok h
    exact keyword_map hbuild fun _ => rfl

theorem ofArguments_cfgEol {arguments : List String} {d : Directive}
    (h : ofArguments .cfgEol arguments = .ok d) :
    ∃ convention, arguments.head?.bind Eol.ofName? = some convention ∧ d = cfgEol convention := by
  obtain ⟨first, hfirst, hbuild⟩ := withFirst_eq_ok h
  rw [hfirst, Option.bind_some]
  unfold readEol at hbuild
  cases hread : Eol.ofName? first with
  | none =>
    rw [hread] at hbuild
    cases hbuild
  | some convention =>
    rw [hread] at hbuild
    cases hbuild
    exact ⟨convention, rfl, rfl⟩

/-- A directive chooses and sends what its line does. -/
theorem line_of_ofArguments {line : Line} {k : Keyword} {d : Directive}
    (hk : line.keyword? = some k) (hd : ofArguments k line.arguments = .ok d) :
    line.eol? = d.eol? ∧ ∀ convention, line.sent convention = d.sent convention := by
  unfold Line.eol? Line.sent
  rw [hk]
  cases k with
  | cfgEol =>
    obtain ⟨convention, hchosen, rfl⟩ := ofArguments_cfgEol hd
    rw [if_pos rfl]
    exact ⟨hchosen, fun _ => rfl⟩
  | cmd =>
    obtain ⟨first, -, hbuild⟩ := withFirst_eq_ok hd
    cases hbuild
    exact ⟨rfl, fun _ => rfl⟩
  | eol =>
    cases hd
    exact ⟨rfl, fun _ => rfl⟩
  | _ =>
    have hkeyword := keyword_ofArguments hd
    cases d <;> cases hkeyword
    exact ⟨rfl, fun _ => rfl⟩

end Directive

namespace Memory

theorem writes_openPort {b b' : Bench Memory} {result : Outcome Stream} {port : String}
    {baud : UInt32} {responseTimeout openTimeout : Nat}
    (h : openPort port baud responseTimeout openTimeout b = (result, b')) :
    b'.world.writes = b.world.writes := by
  unfold openPort at h
  split at h <;> cases h <;> rfl

theorem writes_close (s : Stream) (b : Bench Memory) :
    (close s b).2.world.writes = b.world.writes := by
  unfold close
  split <;> rfl

theorem writes_readUntil (pattern : String) (ms : Nat) (s : Stream) (b : Bench Memory) :
    (readUntil pattern ms s b).2.2.world.writes = b.world.writes := by
  unfold readUntil
  split
  · split <;> rfl
  · rfl

end Memory

namespace Session

def writes (s : Session Memory.Stream Memory) : List (List UInt8) := s.bench.world.writes.toList

structure Stands (written : List (List UInt8)) (convention : Eol)
    (s : Session Memory.Stream Memory) : Prop where
  writes : s.writes = written
  eol : s.eol = convention

/-- An outcome of sending more after these writes and then having this convention in force. A
failure sends nothing. -/
inductive Sends (before sent : List (List UInt8)) (convention : Eol) :
    Outcome Unit × Session Memory.Stream Memory → Prop where
  | succeeded {s : Session Memory.Stream Memory} : s.Stands (before ++ sent) convention →
      Sends before sent convention (.ok (), s)
  | failed {stop : Stop} {s : Session Memory.Stream Memory} : s.writes = before →
      Sends before sent convention (.error stop, s)

variable {s : Session Memory.Stream Memory} {before sent : List (List UInt8)} {convention : Eol}
  {outcome : Outcome Unit × Session Memory.Stream Memory}

theorem Stands.sends (h : Stands before convention outcome.2) :
    Sends before [] convention outcome := by
  rcases outcome with ⟨_ | _, s⟩
  · exact .failed h.writes
  · exact .succeeded ⟨h.writes.trans (List.append_nil _).symm, h.eol⟩

theorem Sends.reportSuccess (h : Sends before sent convention outcome) (d : Directive)
    (message : String) : Sends before sent convention (d.reportSuccess message outcome) := by
  cases h with
  | succeeded h => exact .succeeded ⟨h.writes, h.eol⟩
  | failed hwrites => exact .failed hwrites

theorem Stands.report (h : Stands before convention s) (event : Event) :
    Stands before convention (s.report event) := ⟨h.writes, h.eol⟩

theorem Stands.disconnect (h : Stands before convention s) :
    Stands before convention s.disconnect.2 := by
  unfold Session.disconnect
  cases s.stream with
  | none => exact h
  | some stream =>
    have hclose := congrArg Array.toList (Memory.writes_close stream s.bench)
    exact ⟨hclose.trans h.writes, h.eol⟩

theorem Stands.connect (h : Stands before convention s) (port : String) (baud : UInt32) :
    Stands before convention (s.connect port baud).2 := by
  obtain ⟨hwrites, heol⟩ := h.disconnect
  unfold Session.connect
  rcases hopen : Transport.openPort (S := Memory.Stream) port baud s.disconnect.2.responseTimeout
      openTimeout s.disconnect.2.bench with ⟨result, b⟩
  have hopened : b.world.writes.toList = before :=
    (congrArg Array.toList (Memory.writes_openPort hopen)).trans hwrites
  simp only [hopen]
  cases result with
  | error stop => exact ⟨hopened, heol⟩
  | ok stream =>
    simp only
    split
    · exact ⟨hopened, heol⟩
    · exact ⟨hopened, heol⟩

theorem stands (s : Session Memory.Stream Memory) : s.Stands s.writes s.eol := ⟨rfl, rfl⟩

theorem send_sends (s : Session Memory.Stream Memory) (directive : String) (activity : Activity)
    (data : List UInt8) : Sends s.writes [data] s.eol (s.send directive activity data) := by
  unfold send
  cases hr : s.requireStream directive with
  | error stop => exact .failed rfl
  | ok stream =>
    -- An open stream in memory takes every write, so to have none is the only failure.
    have hopen : stream.isOpen = true := (requireStream_ok hr).2
    simp only [Transport.write, Memory.write, hopen, if_true]
    exact .succeeded ⟨Array.toList_push, rfl⟩

theorem executeConnect_sends (s : Session Memory.Stream Memory) (port : String) (baud : UInt32) :
    Sends s.writes [] s.eol (Directive.executeConnect port baud s) := by
  unfold Directive.executeConnect
  apply Sends.reportSuccess
  apply Stands.sends
  apply Stands.connect
  apply Stands.report
  split
  · exact s.stands
  · exact s.stands.report _

theorem executeDisconnect_stands (s : Session Memory.Stream Memory) (port : String) :
    Stands s.writes s.eol (Directive.executeDisconnect port s) := by
  have hgone := s.stands.disconnect
  unfold Directive.executeDisconnect
  rcases hd : s.disconnect with ⟨_ | _, s'⟩
  · rw [hd] at hgone
    exact (hgone.report _).report _
  · rw [hd] at hgone
    exact hgone.report _

theorem executeCfgResTimeout_stands (s : Session Memory.Stream Memory) (ms : Nat) :
    Stands s.writes s.eol (Directive.executeCfgResTimeout ms s) := by
  unfold Directive.executeCfgResTimeout
  apply Stands.report
  cases s.stream <;> exact ⟨rfl, rfl⟩

theorem executeRes_sends (s : Session Memory.Stream Memory) (pattern : String) :
    Sends s.writes [] s.eol (Directive.executeRes pattern s) := by
  unfold Directive.executeRes
  cases hr : s.requireStream Keyword.res.spelling with
  | error stop => exact .failed rfl
  | ok stream =>
    have hread := congrArg Array.toList
      (Memory.writes_readUntil pattern s.responseTimeout stream s.bench)
    apply Stands.sends
    simp only [Transport.readUntil]
    rcases hout : Memory.readUntil pattern s.responseTimeout stream s.bench with
      ⟨stop | received, stream', b'⟩
    · rw [hout] at hread
      exact ⟨hread, rfl⟩
    · rw [hout] at hread
      simp only
      split
      · exact ⟨hread, rfl⟩
      · exact ⟨hread, rfl⟩

theorem execute_sends (s : Session Memory.Stream Memory) (d : Directive) :
    Sends s.writes (d.sent s.eol) (d.eol?.getD s.eol) (d.execute s) := by
  cases d with
  | connect port baud => exact executeConnect_sends s port baud
  | disconnect port => exact (executeDisconnect_stands s port).sends
  | cfgEol convention => exact Stands.sends ⟨rfl, rfl⟩
  | cfgResTimeout ms => exact (executeCfgResTimeout_stands s ms).sends
  | delay seconds => exact Stands.sends ⟨rfl, rfl⟩
  | delayMs ms => exact Stands.sends ⟨rfl, rfl⟩
  | eol => exact (send_sends s _ _ _).reportSuccess _ _
  | cmd text => exact (send_sends s _ _ _).reportSuccess _ _
  | res pattern => exact executeRes_sends s pattern

theorem perform_sends (s : Session Memory.Stream Memory) {line : Line} {k : Keyword}
    (hk : line.keyword? = some k) :
    Sends s.writes (line.sent s.eol) (line.eol?.getD s.eol) (s.perform k line.arguments) := by
  unfold perform
  cases hd : Directive.ofArguments k line.arguments with
  | error cause => exact .failed rfl
  | ok d =>
    obtain ⟨heol, hsent⟩ := Directive.line_of_ofArguments hk hd
    rw [heol, hsent]
    exact execute_sends s d

theorem runLine_sends (s : Session Memory.Stream Memory) (line : Line) :
    Sends s.writes (line.sent s.eol) (line.eol?.getD s.eol) (s.runLine line) := by
  unfold runLine
  cases hk : line.keyword? with
  | none =>
    unfold Line.sent Line.eol?
    rw [hk]
    exact (s.stands.report _).sends
  | some k => exact perform_sends (s.report _) hk

/-- From any state on, a run writes what its successful lines have to send and nothing else. -/
theorem runLines_writes (s : Session Memory.Stream Memory) (lines : List Line) :
    (s.runLines lines).2.writes = s.writes ++ transcriptFrom s.eol (s.succeeded lines) := by
  induction lines generalizing s with
  | nil => exact (List.append_nil _).symm
  | cons line later ih =>
    have hline := runLine_sends s line
    rcases hr : s.runLine line with ⟨stop | _, s'⟩
    · rw [hr] at hline
      rw [succeeded_of_error hr, transcriptFrom, List.append_nil, runLines, hr]
      cases hline with
      | failed hwrites => cases stop <;> exact hwrites
    · rw [hr] at hline
      rw [runLines_of_ok hr, succeeded_of_ok hr, ih, transcriptFrom]
      cases hline with
      | succeeded h => rw [h.writes, h.eol, List.append_assoc]

theorem run_writes (s : Session Memory.Stream Memory) (lines : List Line) :
    (s.run lines).2.writes = (s.runLines lines).2.writes := by
  unfold run
  rcases s.runLines lines with ⟨_ | _, s'⟩ <;> rfl

/-- However the memory is set up, a run writes what the lines that it gets past have to send, each
line under the convention chosen last before it. -/
theorem run_writes_transcript (replies : List (List UInt8 × String)) (inbound : String)
    (refusal : Option String) (opensClosed : Bool) (clock : Nat) (log : Array Event)
    (lines : List Line) :
    let s : Session Memory.Stream Memory :=
      { bench := { world := { replies, inbound, refusal, opensClosed }, clock, log } }
    s.GetsPast lines (s.succeeded lines) ∧
      (s.run lines).2.bench.world.writes.toList = transcript (s.succeeded lines) := by
  intro s
  refine ⟨getsPast_succeeded lines s, ?_⟩
  have hwrites := runLines_writes s lines
  rw [← run_writes] at hwrites
  rw [transcript_eq]
  exact hwrites

example :
    let s : Session Memory.Stream Memory := { bench := { world := {} } }
    let lines := ["CONNECT p 9600", "CMD  AT  I", "CFGEOL LF", "?", "EOL", "RES OK", "CMD late"].map
      fun text => ⟨0, text⟩
    (s.run lines).2.writes = [Text.toBytes "AT I\r", Text.toBytes "\n"] := by
  decide +kernel

end Session

end SerialScript
