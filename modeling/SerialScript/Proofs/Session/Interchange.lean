import Mathlib.Logic.Equiv.Basic
import SerialScript.Proofs.Session.Settings
import SerialScript.Proofs.Session.Verdict

namespace SerialScript

/-- A line that sets something, and one that neither sets the same nor has a use for it. -/
inductive Line.Indifferent (setting other : Line) : Prop where
  | eol {d : Directive} : setting.keyword? = some .cfgEol →
      Directive.ofArguments .cfgEol setting.arguments = .ok d →
      other.keyword? ≠ some .cmd → other.keyword? ≠ some .eol → other.keyword? ≠ some .cfgEol →
      Indifferent setting other
  | responseTimeout {d : Directive} : setting.keyword? = some .cfgResTimeout →
      Directive.ofArguments .cfgResTimeout setting.arguments = .ok d →
      other.keyword? ≠ some .res → other.keyword? ≠ some .cfgResTimeout →
      Indifferent setting other

/-- What a line asks for does not depend on its number. -/
theorem Line.congr_text {line line' : Line} (h : line'.text = line.text) :
    line'.keyword? = line.keyword? ∧ line'.eol? = line.eol? ∧ line'.timeout? = line.timeout? := by
  obtain ⟨_, text⟩ := line
  obtain ⟨_, text'⟩ := line'
  obtain rfl : text' = text := h
  exact ⟨rfl, rfl, rfl⟩

theorem getD_getD_comm {α : Type} {x y : Option α} (h : x = none ∨ y = none) (a : α) :
    y.getD (x.getD a) = x.getD (y.getD a) := by
  rcases h with rfl | rfl
  · rfl
  · rfl

namespace Line.Indifferent

variable {setting setting' other other' : Line}

theorem renumbered (h : setting.Indifferent other) (hsetting : setting'.text = setting.text)
    (hother : other'.text = other.text) : setting'.Indifferent other' := by
  obtain ⟨_, text⟩ := setting
  obtain ⟨_, text'⟩ := setting'
  obtain ⟨_, words⟩ := other
  obtain ⟨_, words'⟩ := other'
  obtain rfl : text' = text := hsetting
  obtain rfl : words' = words := hother
  cases h with
  | eol hk hd hcmd heol hcfg => exact .eol hk hd hcmd heol hcfg
  | responseTimeout hk hd hres hcfg => exact .responseTimeout hk hd hres hcfg

/-- What is set is not used, and not set again. -/
theorem unused (h : setting.Indifferent other) :
    (setting.eol? = none ∨
      other.eol? = none ∧ other.keyword? ≠ some .cmd ∧ other.keyword? ≠ some .eol) ∧
    (setting.timeout? = none ∨ other.timeout? = none ∧ other.keyword? ≠ some .res) := by
  cases h with
  | eol hk _ hcmd heol hcfg =>
    have htimeout : setting.timeout? = none := if_neg (by simp [hk])
    exact ⟨.inr ⟨Line.eol?_of_ne hcfg, hcmd, heol⟩, .inl htimeout⟩
  | responseTimeout hk _ hres hcfg =>
    have heol : setting.eol? = none := Line.eol?_of_ne (by simp [hk])
    exact ⟨.inl heol, .inr ⟨if_neg hcfg, hres⟩⟩

theorem not_connect (h : setting.Indifferent other) : setting.keyword? ≠ some .connect := by
  cases h with
  | eol hk => simp [hk]
  | responseTimeout hk => simp [hk]

end Line.Indifferent

def Bench.retuned (timeout : Option Nat) (log : Array Event) (b : Bench Memory) : Bench Memory where
  world := { b.world with timeout }
  clock := b.clock
  log := log

namespace Memory

variable {b : Bench Memory} {timeout : Option Nat} {log : Array Event}

/-- The response timeout that is asked for goes nowhere but to the live stream. -/
theorem openPort_retuned (port : String) (baud : UInt32)
    (responseTimeout responseTimeout' openTimeout : Nat) (b : Bench Memory)
    (timeout : Option Nat) (log : Array Event) :
    ∃ timeout', openPort port baud responseTimeout' openTimeout (b.retuned timeout log) =
      Prod.map id (Bench.retuned timeout' log)
        (openPort port baud responseTimeout openTimeout b) := by
  unfold openPort Bench.retuned
  cases b.world.refusal with
  | some reason => exact ⟨timeout, rfl⟩
  | none => exact ⟨some responseTimeout', rfl⟩

theorem close_retuned (s : Stream) :
    close s (b.retuned timeout log) = Prod.map id (Bench.retuned timeout log) (close s b) := by
  unfold close
  split <;> rfl

theorem write_retuned (data : List UInt8) (s : Stream) :
    write data s (b.retuned timeout log) =
      Prod.map id (Prod.map id (Bench.retuned timeout log)) (write data s b) := by
  unfold write
  split <;> rfl

theorem readUntil_retuned (pattern : String) (ms : Nat) (s : Stream) :
    readUntil pattern ms s (b.retuned timeout log) =
      Prod.map id (Prod.map id (Bench.retuned timeout log)) (readUntil pattern ms s b) := by
  unfold readUntil Bench.retuned
  cases Text.takeThrough pattern.toList b.world.inbound.toList with
  | none => split <;> rfl
  | some cut => split <;> rfl

theorem timeout_of_openPort {port : String} {baud : UInt32} {responseTimeout openTimeout : Nat}
    {stream : Stream} {b' : Bench Memory}
    (h : openPort port baud responseTimeout openTimeout b = (.ok stream, b')) :
    b'.world.timeout = some responseTimeout := by
  unfold openPort at h
  split at h
  · cases h
  · cases h
    rfl

end Memory

namespace Session

section Akin

def retuned (eol : Eol) (responseTimeout : Nat) (timeout : Option Nat) (log : Array Event)
    (s : Session Memory.Stream Memory) : Session Memory.Stream Memory where
  eol := eol
  responseTimeout := responseTimeout
  stream := s.stream
  bench := s.bench.retuned timeout log

def bare (s : Session Memory.Stream Memory) : Session Memory.Stream Memory :=
  s.retuned .cr 0 none #[]

/-- Equal but for how they are tuned, and for their logs. -/
def Akin (s t : Session Memory.Stream Memory) : Prop := t.bare = s.bare

variable {s t : Session Memory.Stream Memory}

theorem Akin.symm (h : s.Akin t) : t.Akin s := Eq.symm h

theorem Akin.trans {u : Session Memory.Stream Memory} (h : s.Akin t) (h' : t.Akin u) : s.Akin u :=
  Eq.trans h' h

theorem Akin.exists_retuned (h : s.Akin t) :
    ∃ eol responseTimeout timeout log, t = s.retuned eol responseTimeout timeout log := by
  refine ⟨t.eol, t.responseTimeout, t.bench.world.timeout, t.bench.log, ?_⟩
  change t.bare.retuned t.eol t.responseTimeout t.bench.world.timeout t.bench.log = _
  rw [show t.bare = s.bare from h]
  rfl

theorem Akin.report (h : s.Akin t) (e e' : Event) : (s.report e).Akin (t.report e') := h

theorem Akin.reportSuccess {o o' : Outcome Unit × Session Memory.Stream Memory}
    (h : Alongside Akin o o') (d : Directive) (message message' : String) :
    Alongside Akin (d.reportSuccess message o) (d.reportSuccess message' o') := by
  obtain @⟨result, s, t, hst⟩ := h
  cases result with
  | error stop => exact ⟨hst⟩
  | ok _ => exact ⟨hst.report _ _⟩

theorem Akin.requireStream (h : s.Akin t) (directive : String) :
    t.requireStream directive = s.requireStream directive := by
  obtain ⟨eol, responseTimeout, timeout, log, rfl⟩ := h.exists_retuned
  rfl

theorem Akin.disconnect (h : s.Akin t) : Alongside Akin s.disconnect t.disconnect := by
  obtain ⟨eol, responseTimeout, timeout, log, rfl⟩ := h.exists_retuned
  obtain ⟨_, _, _ | stream, b⟩ := s
  · exact ⟨rfl⟩
  · simp only [Session.disconnect, retuned, Transport.close, Memory.close_retuned]
    exact ⟨rfl⟩

theorem Akin.openNext (h : s.Akin t) (port : String) (baud : UInt32) :
    Alongside Akin (s.openNext port baud) (t.openNext port baud) := by
  obtain ⟨eol, responseTimeout, timeout, log, rfl⟩ := h.exists_retuned
  obtain ⟨timeout', hopen⟩ := Memory.openPort_retuned port baud s.responseTimeout
    responseTimeout openTimeout s.bench timeout log
  unfold Session.openNext
  simp only [Transport.openPort, retuned, hopen]
  rcases Memory.openPort port baud s.responseTimeout openTimeout s.bench with
    ⟨stop | stream, b⟩
  · exact ⟨rfl⟩
  · simp only [Prod.map, id]
    split
    · exact ⟨rfl⟩
    · exact ⟨rfl⟩

theorem Akin.connect (h : s.Akin t) (port : String) (baud : UInt32) :
    Alongside Akin (s.connect port baud) (t.connect port baud) := by
  rw [connect_eq_openNext, connect_eq_openNext]
  exact h.disconnect.snd.openNext port baud

theorem Akin.send (h : s.Akin t) (directive : String) (activity : Activity) (data : List UInt8) :
    Alongside Akin (s.send directive activity data) (t.send directive activity data) := by
  unfold Session.send
  rw [h.requireStream]
  cases s.requireStream directive with
  | error stop => exact ⟨h⟩
  | ok stream =>
    obtain ⟨eol, responseTimeout, timeout, log, rfl⟩ := h.exists_retuned
    simp only [Transport.write, retuned, Memory.write_retuned]
    exact ⟨rfl⟩

theorem Akin.executeConnect (h : s.Akin t) (port : String) (baud : UInt32) :
    Alongside Akin (Directive.executeConnect port baud s)
      (Directive.executeConnect port baud t) := by
  obtain ⟨opening, heq⟩ := exists_opening (S := Memory.Stream) (W := Memory) port baud
  have hopening : (opening.foldl Session.report s).Akin (opening.foldl Session.report t) := by
    rw [foldl_report, foldl_report]
    exact h
  obtain ⟨result, s', t', hs, ht, hst⟩ := (hopening.connect port baud).exists_eq
  rw [heq, heq, hs, ht]
  apply Akin.reportSuccess
  exact ⟨hst⟩

theorem Akin.executeDisconnect (h : s.Akin t) (port : String) :
    (Directive.executeDisconnect port s).Akin (Directive.executeDisconnect port t) := by
  obtain ⟨log, hs⟩ := exists_log_executeDisconnect port s
  obtain ⟨log', ht⟩ := exists_log_executeDisconnect port t
  rw [hs, ht]
  exact h.disconnect.snd

theorem Akin.executeRes (h : s.Akin t) (hwait : t.responseTimeout = s.responseTimeout)
    (pattern : String) :
    Alongside Akin (Directive.executeRes pattern s) (Directive.executeRes pattern t) := by
  unfold Directive.executeRes
  rw [h.requireStream, hwait]
  cases s.requireStream Keyword.res.spelling with
  | error stop => exact ⟨h⟩
  | ok stream =>
    obtain ⟨eol, responseTimeout, timeout, log, rfl⟩ := h.exists_retuned
    simp only [Transport.readUntil, retuned, Memory.readUntil_retuned]
    rcases Memory.readUntil pattern s.responseTimeout stream s.bench with
      ⟨stop | received, stream', b⟩
    · exact ⟨rfl⟩
    · by_cases hnothing : received = ""
      · simp only [Prod.map, id, hnothing, if_true]
        exact ⟨rfl⟩
      · simp only [Prod.map, id, hnothing, if_false]
        exact ⟨rfl⟩

theorem Akin.wait (h : s.Akin t) (ms : Nat) :
    Akin { s with bench := s.bench.wait ms } { t with bench := t.bench.wait ms } := by
  obtain ⟨eol, responseTimeout, timeout, log, rfl⟩ := h.exists_retuned
  rfl

theorem akin_executeCfgResTimeout (ms : Nat) (s : Session Memory.Stream Memory) :
    s.Akin (Directive.executeCfgResTimeout ms s) := by
  obtain ⟨_, _, _ | stream, b⟩ := s
  · rfl
  · rfl

/-- A directive needs the setting that it has a use for, and no other. -/
theorem Akin.execute (h : s.Akin t) (d : Directive)
    (heol : d.keyword = .cmd ∨ d.keyword = .eol → t.eol = s.eol)
    (hwait : d.keyword = .res → t.responseTimeout = s.responseTimeout) :
    Alongside Akin (d.execute s) (d.execute t) := by
  cases d with
  | connect port baud => exact h.executeConnect port baud
  | disconnect port => exact ⟨h.executeDisconnect port⟩
  | cfgEol convention => exact ⟨h⟩
  | cfgResTimeout ms =>
    have hs := akin_executeCfgResTimeout ms s
    have ht := akin_executeCfgResTimeout ms t
    exact ⟨(hs.symm.trans h).trans ht⟩
  | delay seconds => exact ⟨(h.report _ _).wait _⟩
  | delayMs ms => exact ⟨(h.report _ _).wait _⟩
  | eol =>
    simp only [Directive.execute, Directive.executeEol, heol (.inr rfl)]
    exact Akin.reportSuccess (h.send _ _ _) _ _ _
  | cmd text =>
    simp only [Directive.execute, Directive.executeCmd, heol (.inl rfl)]
    exact Akin.reportSuccess (h.send _ _ _) _ _ _
  | res pattern => exact h.executeRes (hwait rfl) pattern

theorem Akin.perform (h : s.Akin t) (k : Keyword) (arguments : List String)
    (heol : k = .cmd ∨ k = .eol → t.eol = s.eol)
    (hwait : k = .res → t.responseTimeout = s.responseTimeout) :
    Alongside Akin (s.perform k arguments) (t.perform k arguments) := by
  unfold Session.perform
  cases hd : Directive.ofArguments k arguments with
  | error cause => exact ⟨h⟩
  | ok d =>
    obtain rfl := Directive.keyword_ofArguments hd
    exact h.execute d heol hwait

/-- Lines of the same text do the same, however they are numbered. -/
theorem Akin.runLine (h : s.Akin t) {line line' : Line} (htext : line'.text = line.text)
    (heol : line.keyword? = some .cmd ∨ line.keyword? = some .eol → t.eol = s.eol)
    (hwait : line.keyword? = some .res → t.responseTimeout = s.responseTimeout) :
    Alongside Akin (s.runLine line) (t.runLine line') := by
  obtain ⟨number, text⟩ := line
  obtain ⟨number', text'⟩ := line'
  obtain rfl : text' = text := htext
  cases hk : Line.keyword? ⟨number, text'⟩ with
  | none =>
    have hk' : Line.keyword? ⟨number', text'⟩ = none := hk
    rw [runLine_of_unknown hk, runLine_of_unknown hk']
    exact ⟨h.report _ _⟩
  | some k =>
    rw [hk] at heol hwait
    have hk' : Line.keyword? ⟨number', text'⟩ = some k := hk
    rw [runLine_of_keyword hk, runLine_of_keyword hk']
    apply (h.report _ _).perform k
    · intro hsends
      exact heol (hsends.imp (congrArg some) (congrArg some))
    · intro hwaits
      exact hwait (congrArg some hwaits)

theorem runLine_of_indifferent {setting other : Line} (h : setting.Indifferent other)
    (s : Session Memory.Stream Memory) :
    ∃ s', s.runLine setting = (.ok (), s') ∧ s.Akin s' := by
  cases h with
  | eol hk hd =>
    obtain ⟨convention, -, rfl⟩ := Directive.ofArguments_cfgEol hd
    rw [runLine_of_keyword hk, perform_of_ofArguments hd]
    exact ⟨_, rfl, rfl⟩
  | responseTimeout hk hd =>
    obtain ⟨ms, -, rfl⟩ := Directive.exists_count_of_map hd
    rw [runLine_of_keyword hk, perform_of_ofArguments hd]
    exact ⟨_, rfl, akin_executeCfgResTimeout ms _⟩

/-- Verdicts on the same lines, but for where these stand. -/
structure Concord (f : Nat → Nat)
    (o o' : Option Halting × Session Memory.Stream Memory) : Prop where
  halting : o'.1 = o.1.map fun h => h.moved f
  akin : o.2.Akin o'.2
  settings : o.1 = none → o'.2.settings = o.2.settings

theorem Concord.symm {f : Nat → Nat} {o o' : Option Halting × Session Memory.Stream Memory}
    (h : Concord f o o') (hf : f.Involutive) : Concord f o' o := by
  obtain ⟨hhalting, hakin, hsettings⟩ := h
  refine ⟨?_, hakin.symm, ?_⟩
  · have hback : ∀ k, f (f k) = id (id k) := hf
    rw [hhalting, Halting.map_moved hback]
    cases o.1 <;> rfl
  · intro hnone
    rw [hhalting, Option.map_eq_none_iff] at hnone
    exact (hsettings hnone).symm

variable {a b a' b' : Line}

/-- Two lines in either order leave the same settings behind if they do not set the same one. -/
theorem settings_exchange {s s₁ s₂ t₁ t₂ : Session Memory.Stream Memory} (ha : a'.text = a.text)
    (hb : b'.text = b.text) (heol : a.eol? = none ∨ b.eol? = none)
    (htimeout : a.timeout? = none ∨ b.timeout? = none) (hs₁ : s.runLine a = (.ok (), s₁))
    (hs₂ : s₁.runLine b = (.ok (), s₂)) (ht₁ : s.runLine b' = (.ok (), t₁))
    (ht₂ : t₁.runLine a' = (.ok (), t₂)) : t₂.settings = s₂.settings := by
  obtain ⟨-, haeol, hatimeout⟩ := Line.congr_text ha
  obtain ⟨-, hbeol, hbtimeout⟩ := Line.congr_text hb
  obtain ⟨hs₁eol, hs₁timeout⟩ := Prod.mk.inj (settings_of_runLine hs₁)
  obtain ⟨ht₁eol, ht₁timeout⟩ := Prod.mk.inj (settings_of_runLine ht₁)
  rw [settings_of_runLine hs₂, settings_of_runLine ht₂, hs₁eol, hs₁timeout, ht₁eol, ht₁timeout,
    haeol, hatimeout, hbeol, hbtimeout, getD_getD_comm heol, getD_getD_comm htimeout]

theorem concord_of_indifferent (h : a.Indifferent b) (ha : a'.text = a.text)
    (hb : b'.text = b.text) (s : Session Memory.Stream Memory) :
    Concord (Equiv.swap 0 1) (s.verdict [a, b]) (s.verdict [b', a']) := by
  obtain ⟨s₁, hs₁, hakin⟩ := runLine_of_indifferent h s
  obtain ⟨heol, htimeout⟩ := h.unused
  obtain ⟨hs₁eol, hs₁timeout⟩ := Prod.mk.inj (settings_of_runLine hs₁)
  -- The other line runs with or without the setting made, and finds what it has a use for the same.
  have hother : Alongside Akin (s₁.runLine b) (s.runLine b') := by
    apply hakin.symm.runLine hb
    · intro hsends
      rcases heol with hnone | ⟨-, hcmd, hend⟩
      · rw [hs₁eol, hnone, Option.getD_none]
      · exact absurd hsends (not_or.2 ⟨hcmd, hend⟩)
    · intro hwaits
      rcases htimeout with hnone | ⟨-, hres⟩
      · rw [hs₁timeout, hnone, Option.getD_none]
      · exact absurd hwaits hres
  obtain ⟨result, s₂, t₁, hs₂, ht₁, hst⟩ := hother.exists_eq
  cases result with
  | error stop =>
    rw [verdict_of_ok hs₁, verdict_of_error hs₂, verdict_of_error ht₁, hb]
    exact ⟨rfl, hst, nofun⟩
  | ok _ =>
    obtain ⟨t₂, ht₂, hakin'⟩ := runLine_of_indifferent (h.renumbered ha hb) t₁
    rw [verdict_of_ok hs₁, verdict_of_ok hs₂, verdict_of_ok ht₁, verdict_of_ok ht₂]
    refine ⟨rfl, hst.trans hakin', fun _ => ?_⟩
    apply settings_exchange ha hb _ _ hs₁ hs₂ ht₁ ht₂
    · exact heol.imp_right And.left
    · exact htimeout.imp_right And.left

/-- Sessions that are akin and set alike go on alike. -/
theorem concord_verdict (lines : List Line) (h : s.Akin t) (hset : t.settings = s.settings) :
    Concord id (s.verdict lines) (t.verdict lines) := by
  induction lines generalizing s t with
  | nil => exact ⟨rfl, h, fun _ => hset⟩
  | cons line later ih =>
    obtain ⟨heol, htimeout⟩ := Prod.mk.inj hset
    have hline : Alongside Akin (s.runLine line) (t.runLine line) :=
      h.runLine rfl (fun _ => heol) (fun _ => htimeout)
    obtain ⟨result, s', t', hs, ht, hst⟩ := hline.exists_eq
    cases result with
    | error stop =>
      rw [verdict_of_error hs, verdict_of_error ht]
      exact ⟨rfl, hst, nofun⟩
    | ok _ =>
      have hset' : t'.settings = s'.settings := by
        rw [settings_of_runLine hs, settings_of_runLine ht, heol, htimeout]
      obtain ⟨hhalting, hakin, hsettings⟩ := ih hst hset'
      rw [verdict_of_ok hs, verdict_of_ok ht]
      refine ⟨?_, hakin, ?_⟩
      · rw [hhalting]
        cases (s'.verdict later).1 <;> rfl
      · intro hnone
        exact hsettings (Option.map_eq_none_iff.1 hnone)

/-- What concurs goes on concurring, if the lines that follow are the same and stay in place. -/
theorem Concord.append {f : Nat → Nat} {xs ys : List Line}
    (h : Concord f (s.verdict xs) (t.verdict ys)) (hlength : ys.length = xs.length)
    (hf : ∀ k, f (k + xs.length) = k + xs.length) (later : List Line) :
    Concord f (s.verdict (xs ++ later)) (t.verdict (ys ++ later)) := by
  obtain ⟨hhalting, hakin, hsettings⟩ := h
  rcases hy : t.verdict ys with ⟨halting', t'⟩
  rcases hx : s.verdict xs with ⟨_ | halting, s'⟩ <;> rw [hx, hy] at hhalting hakin hsettings
  · obtain rfl : halting' = none := hhalting
    obtain ⟨hlater, hakin', hsettings'⟩ := concord_verdict later hakin (hsettings rfl)
    rw [(passes_of_verdict hx).verdict_append, (passes_of_verdict hy).verdict_append]
    refine ⟨?_, hakin', ?_⟩
    · rw [hlater, hlength]
      exact Halting.map_moved (fun k => (hf k).symm) _
    · intro hnone
      exact hsettings' (Option.map_eq_none_iff.1 hnone)
  · obtain rfl : halting' = some (halting.moved f) := hhalting
    rw [(verdict_append_of_some hx later).1, (verdict_append_of_some hy later).1]
    exact ⟨rfl, hakin, nofun⟩

/-- What concurs from any session on does so behind the same lines. -/
theorem concord_behind {f g : Nat → Nat} {xs ys : List Line} (earlier : List Line)
    (h : ∀ s : Session Memory.Stream Memory, Concord f (s.verdict xs) (s.verdict ys))
    (hbefore : ∀ k < earlier.length, g k = k)
    (hbehind : ∀ k, g (k + earlier.length) = f k + earlier.length)
    (s : Session Memory.Stream Memory) :
    Concord g (s.verdict (earlier ++ xs)) (s.verdict (earlier ++ ys)) := by
  rcases hs : s.verdict earlier with ⟨_ | halting, s₁⟩
  · obtain ⟨hhalting, hakin, hsettings⟩ := h s₁
    rw [(passes_of_verdict hs).verdict_append, (passes_of_verdict hs).verdict_append]
    refine ⟨?_, hakin, ?_⟩
    · rw [hhalting]
      exact Halting.map_moved (fun k => (hbehind k).symm) _
    · intro hnone
      exact hsettings (Option.map_eq_none_iff.1 hnone)
  · obtain ⟨hx, hplace⟩ := verdict_append_of_some hs xs
    rw [hx, (verdict_append_of_some hs ys).1]
    refine ⟨?_, rfl, nofun⟩
    simp [Halting.moved, hbefore halting.place hplace]

theorem involutive_swap (m n : Nat) : Function.Involutive (Equiv.swap m n) :=
  fun k => Equiv.swap_apply_self m n k

theorem concord_pair (h : a.Indifferent b ∨ b.Indifferent a) (ha : a'.text = a.text)
    (hb : b'.text = b.text) (s : Session Memory.Stream Memory) :
    Concord (Equiv.swap 0 1) (s.verdict [a, b]) (s.verdict [b', a']) := by
  rcases h with h | h
  · exact concord_of_indifferent h ha hb s
  · have hback := concord_of_indifferent (h.renumbered hb ha) hb.symm ha.symm s
    exact hback.symm (involutive_swap 0 1)

theorem concord_exchange (h : a.Indifferent b ∨ b.Indifferent a) (ha : a'.text = a.text)
    (hb : b'.text = b.text) (earlier later : List Line) (s : Session Memory.Stream Memory) :
    Concord (Equiv.swap earlier.length (earlier.length + 1))
      (s.verdict (earlier ++ a :: b :: later)) (s.verdict (earlier ++ b' :: a' :: later)) := by
  apply concord_behind (f := Equiv.swap 0 1) earlier
  · intro s₁
    apply (concord_pair h ha hb s₁).append rfl
    intro k
    apply Equiv.swap_apply_of_ne_of_ne <;> simp
  · intro k hk
    apply Equiv.swap_apply_of_ne_of_ne <;> omega
  · intro k
    simp only [Equiv.swap_apply_def]
    split_ifs <;> omega

/-- There is a stream, and it waits as long as the session says. -/
def Live (s : Session Memory.Stream Memory) : Prop :=
  s.stream.isSome = true ∧ s.bench.world.timeout = some s.responseTimeout

theorem live_connect {port : String} {baud : UInt32} (h : s.connect port baud = (.ok (), t)) :
    t.Live := by
  rw [connect_eq_openNext] at h
  unfold Session.openNext at h
  rcases hopen : Transport.openPort (S := Memory.Stream) port baud s.disconnect.2.responseTimeout
      openTimeout s.disconnect.2.bench with ⟨stop | stream, b⟩
  · simp only [hopen] at h
    cases h
  · simp only [hopen] at h
    split at h
    · cases h
      exact ⟨rfl, Memory.timeout_of_openPort hopen⟩
    · cases h

theorem live_of_connect {line : Line} (hk : line.keyword? = some .connect)
    (h : s.runLine line = (.ok (), t)) : t.Live := by
  rw [runLine_of_keyword hk] at h
  cases hd : Directive.ofArguments .connect line.arguments with
  | error cause =>
    unfold Session.perform at h
    rw [hd] at h
    cases h
  | ok d =>
    rw [perform_of_ofArguments hd] at h
    have hkeyword := Directive.keyword_ofArguments hd
    cases d <;> cases hkeyword
    rename_i port baud
    obtain ⟨b, -, heq⟩ := executeConnect_eq port baud (s.report (dispatching line .connect))
    rw [Directive.execute, heq] at h
    rcases hconnect : { s.report (dispatching line .connect) with bench := b }.connect port baud
      with ⟨stop | _, s'⟩
    · rw [hconnect] at h
      cases h
    · rw [hconnect] at h
      cases h
      have hlive : s'.Live := live_connect hconnect
      exact hlive

theorem Live.of_indifferent {setting other : Line} (hs : s.Live)
    (h : setting.Indifferent other) (hrun : s.runLine setting = (.ok (), t)) : t.Live := by
  obtain ⟨hstream, htimeout⟩ := hs
  cases h with
  | eol hk hd =>
    obtain ⟨convention, -, rfl⟩ := Directive.ofArguments_cfgEol hd
    rw [runLine_of_keyword hk, perform_of_ofArguments hd] at hrun
    cases hrun
    exact ⟨hstream, htimeout⟩
  | responseTimeout hk hd =>
    obtain ⟨ms, -, rfl⟩ := Directive.exists_count_of_map hd
    rw [runLine_of_keyword hk, perform_of_ofArguments hd] at hrun
    obtain ⟨stream, hstream⟩ := Option.isSome_iff_exists.1 hstream
    obtain ⟨_, _, _, b⟩ := s
    obtain rfl : _ = some stream := hstream
    cases hrun
    exact ⟨rfl, rfl⟩

theorem live_pair (h : a.Indifferent b ∨ b.Indifferent a)
    (hconnect : a.keyword? = some .connect ∨ b.keyword? = some .connect)
    (hpasses : s.Passes [a, b] t) : t.Live := by
  cases hpasses with
  | cons hs₁ hrest =>
    cases hrest with
    | cons hs₂ hnil =>
      cases hnil
      rcases h with h | h
      · have hb := hconnect.resolve_left h.not_connect
        exact live_of_connect hb hs₂
      · have ha := hconnect.resolve_right h.not_connect
        exact (live_of_connect ha hs₁).of_indifferent h hs₂

theorem Akin.alike (h : s.Akin t) (hset : t.settings = s.settings) (hs : s.Live) (ht : t.Live) :
    s.Alike (fun _ _ => True) t := by
  obtain ⟨heol, hwait⟩ := Prod.mk.inj hset
  obtain ⟨eol, responseTimeout, timeout, log, rfl⟩ := h.exists_retuned
  refine ⟨heol, hwait, rfl, ?_, rfl, trivial⟩
  have htimeout : timeout = s.bench.world.timeout := ht.2.trans (hwait ▸ hs.2.symm)
  rw [htimeout]
  rfl

/-- Next to a `CONNECT` that has succeeded not even the live stream tells which came first. -/
theorem alike_pair (h : a.Indifferent b ∨ b.Indifferent a)
    (hconnect : a.keyword? = some .connect ∨ b.keyword? = some .connect) (ha : a'.text = a.text)
    (hb : b'.text = b.text) {s₁ : Session Memory.Stream Memory} (hs : s.Passes [a, b] s₁) :
    ∃ t₁, s.Passes [b', a'] t₁ ∧ s₁.Alike (fun _ _ => True) t₁ := by
  obtain ⟨hhalting, hakin, hsettings⟩ := concord_pair h ha hb s
  rw [hs.verdict] at hhalting hakin hsettings
  have ht : s.Passes [b', a'] (s.verdict [b', a']).2 := passes_of_verdict (Prod.ext hhalting rfl)
  have h' : b'.Indifferent a' ∨ a'.Indifferent b' :=
    h.symm.imp (fun h => h.renumbered hb ha) fun h => h.renumbered ha hb
  have hconnect' : b'.keyword? = some .connect ∨ a'.keyword? = some .connect := by
    rw [(Line.congr_text ha).1, (Line.congr_text hb).1]
    exact hconnect.symm
  refine ⟨_, ht, ?_⟩
  exact hakin.alike (hsettings rfl) (live_pair h hconnect hs) (live_pair h' hconnect' ht)

theorem world_run (lines : List Line) (s : Session Memory.Stream Memory) :
    (s.run lines).2.bench.world = (s.runLines lines).2.bench.world := by
  rw [run_eq_complete]
  rcases s.runLines lines with ⟨_ | _, s'⟩
  · rfl
  · rfl

theorem world_exchange (h : a.Indifferent b ∨ b.Indifferent a)
    (hconnect : a.keyword? = some .connect ∨ b.keyword? = some .connect) (ha : a'.text = a.text)
    (hb : b'.text = b.text) {earlier later : List Line}
    (hpast : ∀ halting, (s.verdict (earlier ++ a :: b :: later)).1 = some halting →
      halting.place ≠ earlier.length ∧ halting.place ≠ earlier.length + 1) :
    (s.run (earlier ++ b' :: a' :: later)).2.bench.world =
      (s.run (earlier ++ a :: b :: later)).2.bench.world := by
  rcases hs : s.verdict earlier with ⟨_ | halting, s₀⟩
  · have hearlier := passes_of_verdict hs
    rcases hpair : s₀.verdict [a, b] with ⟨_ | halting, s₁⟩
    · have hab := passes_of_verdict hpair
      obtain ⟨t₁, hba, halike⟩ := alike_pair h hconnect ha hb hab
      have hlater := (halike.runLines (fun _ _ => trivial) later).snd.world
      rw [← hab.runLines_append, ← hba.runLines_append] at hlater
      rw [world_run, world_run, hearlier.runLines_append, hearlier.runLines_append]
      exact hlater
    · obtain ⟨hall, hplace⟩ := verdict_append_of_some hpair later
      rw [hearlier.verdict_append] at hpast
      have hnot := hpast _ (by rw [show a :: b :: later = [a, b] ++ later from rfl, hall]; rfl)
      simp only [Halting.moved, List.length_cons, List.length_nil] at hnot hplace
      omega
  · obtain ⟨log, hx⟩ := exists_log_run (earlier ++ a :: b :: later) s
    obtain ⟨log', hy⟩ := exists_log_run (earlier ++ b' :: a' :: later) s
    rw [hx, hy, (verdict_append_of_some hs _).1, (verdict_append_of_some hs _).1]

structure EndsAlike (f : Nat → Nat) (xs ys : List Line) (s : Session Memory.Stream Memory) :
    Prop where
  succeeds : (s.run ys).1 = .ok () ↔ (s.run xs).1 = .ok ()
  /-- The line that fails is the same, and so is what it fails with. -/
  halts : ∀ halting, (s.verdict xs).1 = some halting ↔
    (s.verdict ys).1 = some (halting.moved f)
  writes : (s.run ys).2.bench.world.writes = (s.run xs).2.bench.world.writes
  opened : (s.run ys).2.bench.world.opened = (s.run xs).2.bench.world.opened
  closes : (s.run ys).2.bench.world.closes = (s.run xs).2.bench.world.closes
  isOpen : (s.run ys).2.bench.world.isOpen = (s.run xs).2.bench.world.isOpen
  clock : (s.run ys).2.bench.clock = (s.run xs).2.bench.clock
  session : (s.run xs).1 = .ok () →
    (s.run ys).2.eol = (s.run xs).2.eol ∧
      (s.run ys).2.responseTimeout = (s.run xs).2.responseTimeout ∧
      (s.run ys).2.isConnected = (s.run xs).2.isConnected

theorem Concord.endsAlike {f : Nat → Nat} {xs ys : List Line} (hf : f.Involutive)
    (h : Concord f (s.verdict xs) (s.verdict ys)) : s.EndsAlike f xs ys := by
  obtain ⟨hhalting, hakin, hsettings⟩ := h
  obtain ⟨log, hx⟩ := exists_log_run xs s
  obtain ⟨log', hy⟩ := exists_log_run ys s
  have hbare : (s.run ys).2.bare = (s.run xs).2.bare := by
    rw [hx, hy]
    exact hakin
  refine ⟨?_, ?_, ?_, ?_, ?_, ?_, ?_, ?_⟩
  · rw [run_eq_ok_iff, run_eq_ok_iff, hhalting, Option.map_eq_none_iff]
  · intro halting
    rw [hhalting]
    exact (Halting.map_moved_eq_some_iff hf.injective).symm
  · exact congrArg (fun s => s.bench.world.writes) hbare
  · exact congrArg (fun s => s.bench.world.opened) hbare
  · exact congrArg (fun s => s.bench.world.closes) hbare
  · exact congrArg (fun s => s.bench.world.isOpen) hbare
  · exact congrArg (fun s => s.bench.clock) hbare
  · intro hok
    obtain ⟨heol, htimeout⟩ := Prod.mk.inj (hsettings (run_eq_ok_iff.1 hok))
    have hstream : (s.run ys).2.stream = (s.run xs).2.stream := congrArg (fun s => s.stream) hbare
    refine ⟨?_, ?_, ?_⟩
    · rw [hx, hy]
      exact heol
    · rw [hx, hy]
      exact htimeout
    · unfold isConnected
      rw [hstream]

/-- Whatever the memory is set up to do, wherever the session stands and whatever the other lines
are: a line that sets something may change places with a neighbour that is indifferent to it. Beside
a `CONNECT` that goes well nothing at all in the memory is different. -/
theorem run_exchange (s : Session Memory.Stream Memory)
    (h : a.Indifferent b ∨ b.Indifferent a) (ha : a'.text = a.text) (hb : b'.text = b.text)
    (earlier later : List Line) :
    let xs := earlier ++ a :: b :: later
    let ys := earlier ++ b' :: a' :: later
    s.EndsAlike (Equiv.swap earlier.length (earlier.length + 1)) xs ys ∧
      (a.keyword? = some .connect ∨ b.keyword? = some .connect →
        (∀ halting, (s.verdict xs).1 = some halting →
          halting.place ≠ earlier.length ∧ halting.place ≠ earlier.length + 1) →
        (s.run ys).2.bench.world = (s.run xs).2.bench.world) := by
  intro xs ys
  constructor
  · exact (concord_exchange h ha hb earlier later s).endsAlike (involutive_swap _ _)
  · exact fun hconnect hpast => world_exchange h hconnect ha hb hpast

/-- A timeout is set for the first port or for the second, and then a wait is in vain. A convention
is set before or after a pause that is not a number. -/
theorem run_exchange_of_vain :
    let s : Session Memory.Stream Memory := { bench := { world := {} } }
    let xs : List Line := [⟨1, "CONNECT p 9600"⟩] ++
      [⟨2, "CFGRESTIMEOUT 50"⟩, ⟨3, "CONNECT q 9600"⟩, ⟨4, "RES OK"⟩]
    let ys : List Line := [⟨1, "CONNECT p 9600"⟩] ++
      [⟨2, "CONNECT q 9600"⟩, ⟨3, "CFGRESTIMEOUT 50"⟩, ⟨4, "RES OK"⟩]
    (s.run ys).2.bench.world = (s.run xs).2.bench.world ∧
      (s.run ys).2.bench.clock = (s.run xs).2.bench.clock ∧
      (s.verdict ys).1 = some ⟨3, "RES OK", .fault (.noResponse 50 "OK")⟩ ∧
      (s.verdict [⟨1, "DELAY soon"⟩, ⟨2, "CFGEOL LF"⟩]).1 =
        some ⟨0, "DELAY soon", .fault (.notACount "DELAY" "time value" "soon")⟩ := by
  intro s xs ys
  have htimeout : Line.Indifferent ⟨2, "CFGRESTIMEOUT 50"⟩ ⟨3, "CONNECT q 9600"⟩ :=
    .responseTimeout (d := .cfgResTimeout 50) (by decide +kernel) (by decide +kernel)
      (by decide +kernel) (by decide +kernel)
  have heol : Line.Indifferent ⟨1, "CFGEOL LF"⟩ ⟨2, "DELAY soon"⟩ :=
    .eol (d := .cfgEol .lf) (by decide +kernel) (by decide +kernel) (by decide +kernel)
      (by decide +kernel) (by decide +kernel)
  have hxs : (s.verdict xs).1 = some ⟨3, "RES OK", .fault (.noResponse 50 "OK")⟩ := by
    decide +kernel
  have hpause : (s.verdict [⟨1, "CFGEOL LF"⟩, ⟨2, "DELAY soon"⟩]).1 =
      some ⟨1, "DELAY soon", .fault (.notACount "DELAY" "time value" "soon")⟩ := by
    decide +kernel
  have hset : (⟨3, "CFGRESTIMEOUT 50"⟩ : Line).text = "CFGRESTIMEOUT 50" := rfl
  have hopen : (⟨2, "CONNECT q 9600"⟩ : Line).text = "CONNECT q 9600" := rfl
  have hends : (⟨2, "CFGEOL LF"⟩ : Line).text = "CFGEOL LF" := rfl
  have hwaits : (⟨1, "DELAY soon"⟩ : Line).text = "DELAY soon" := rfl
  obtain ⟨halike, hworld⟩ :=
    run_exchange s (.inl htimeout) hset hopen [⟨1, "CONNECT p 9600"⟩] [⟨4, "RES OK"⟩]
  obtain ⟨halike', -⟩ := run_exchange s (.inl heol) hends hwaits [] []
  refine ⟨hworld (.inr (by decide +kernel)) ?_, halike.clock, (halike.halts _).1 hxs,
    (halike'.halts _).1 hpause⟩
  intro halting h
  cases hxs.symm.trans h
  decide

end Akin

end Session

end SerialScript
