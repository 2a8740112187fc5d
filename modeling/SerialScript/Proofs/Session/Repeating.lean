import SerialScript.Proofs.Session.Failing
import SerialScript.Proofs.Text.Draining
import SerialScript.Proofs.Text.Packing

namespace SerialScript

namespace Memory

/-- The pattern is not inbound, and no write has been accepted since there were these; or one has
been. -/
def Exhausted (pattern : String) (writes : Array (List UInt8)) (m : Memory) : Prop :=
  writes.size < m.writes.size ∨ m.writes = writes ∧ ¬ pattern.toList <:+: m.inbound.toList

variable {pattern : String} {writes : Array (List UInt8)} {m : Memory}

theorem Exhausted.write (h : Exhausted pattern writes m) (data : List UInt8) (inbound : String) :
    Exhausted pattern writes { m with writes := m.writes.push data, inbound } := by
  refine .inl ?_
  rw [Array.size_push]
  rcases h with h | ⟨rfl, -⟩ <;> omega

/-- What a wait for another text takes cannot bring the pattern about. -/
theorem Exhausted.drain (h : Exhausted pattern writes m) (other : String) :
    Exhausted pattern writes
      { m with inbound := String.ofList (Text.drain other.toList m.inbound.toList).2 } := by
  rcases h with h | ⟨hwrites, hmissing⟩
  · exact .inl h
  · refine .inr ⟨hwrites, fun hin => hmissing ?_⟩
    rw [String.toList_ofList] at hin
    cases hm : Text.takeThrough other.toList m.inbound.toList with
    | none => rwa [Text.drain_of_missing hm] at hin
    | some cut =>
      rw [Text.drain_of_found hm] at hin
      rw [← Text.append_of_takeThrough hm]
      exact hin.trans (List.suffix_append _ _).isInfix

/-- Whatever a session does, the pattern does not come back without a write. -/
theorem invariant_exhausted (pattern : String) (writes : Array (List UInt8)) :
    Invariant fun _ (_ : Option Stream) b => Exhausted pattern writes b.world where
  report _ h := h
  wait _ h := h
  retime _ h := h
  setTimeout _ h := h
  write {timeout stream b} data h := by
    simp only [Transport.write, Memory.write]
    split
    · exact h.write data _
    · exact h
  readUntil {timeout stream b} text ms h := by
    cases hopen : stream.isOpen with
    | true =>
      simp only [Transport.readUntil, readUntil_eq_drain text ms b hopen]
      exact h.drain text
    | false =>
      simp only [Transport.readUntil, Memory.readUntil, hopen]
      exact h
  close {timeout stream b} h := by
    simp only [Transport.close, Memory.close]
    split
    · exact h
    · exact h
  giveUp {timeout stream b} h := by
    simp only [Transport.discard, Transport.close, Memory.close]
    split
    · exact h
    · exact h
  refused {timeout b b' stop} port baud h hopen := by
    simp only [Transport.openPort, Memory.openPort] at hopen
    split at hopen <;> cases hopen
    exact h
  opened {timeout b b' stream} port baud h hopen _ := by
    simp only [Transport.openPort, Memory.openPort] at hopen
    split at hopen <;> cases hopen
    exact h
  openedClosed {timeout b b' stream} port baud h hopen _ := by
    simp only [Transport.openPort, Memory.openPort] at hopen
    split at hopen <;> cases hopen
    exact h

end Memory

namespace Session

open Text (OccursAt Searched packable takeThrough)

def repeatRes {S W : Type} [Transport S W] (pattern : String) :
    Nat → Session S W → List (Outcome Unit) × Session S W
  | 0, s => ([], s)
  | n + 1, s =>
    let (result, s) := (Directive.res pattern).execute s
    let (results, s) := repeatRes pattern n s
    (result :: results, s)

theorem repeatRes_succ {S W : Type} [Transport S W] (pattern : String) (n : Nat)
    (s : Session S W) :
    (s.repeatRes pattern (n + 1)).2 =
      ((Directive.res pattern).execute (s.repeatRes pattern n).2).2 := by
  induction n generalizing s with
  | zero => rfl
  | succ n ih => exact ih _

def inbound (s : Session Memory.Stream Memory) : List Char := s.bench.world.inbound.toList

def noResponse (s : Session Memory.Stream Memory) (pattern : String) : Outcome Unit :=
  .fail (.noResponse s.responseTimeout pattern)

structure Remains (s s' : Session Memory.Stream Memory) (text : List Char) : Prop where
  isConnected : s'.isConnected = true
  responseTimeout : s'.responseTimeout = s.responseTimeout
  world : s'.bench.world = { s.bench.world with inbound := String.ofList text }

variable {s s' s'' : Session Memory.Stream Memory} {pattern : String} {text text' : List Char}

theorem Remains.inbound (h : s.Remains s' text) : s'.inbound = text := by
  rw [Session.inbound, h.world, String.toList_ofList]

theorem Remains.trans (h : s.Remains s' text) (h' : s'.Remains s'' text') :
    s.Remains s'' text' where
  isConnected := h'.isConnected
  responseTimeout := h'.responseTimeout.trans h.responseTimeout
  world := by rw [h'.world, h.world]

theorem Remains.refl (h : s.isConnected = true) : s.Remains s s.inbound where
  isConnected := h
  responseTimeout := rfl
  world := by rw [Session.inbound, String.ofList_toList]

theorem Remains.noResponse (h : s.Remains s' text) (pattern : String) :
    s'.noResponse pattern = s.noResponse pattern := by
  rw [Session.noResponse, h.responseTimeout, Session.noResponse]

theorem exists_stream (h : s.isConnected = true) :
    ∃ stream, s.stream = some stream ∧ stream.isOpen = true := by
  cases hstream : s.stream with
  | none => simp [isConnected, hstream] at h
  | some stream => exact ⟨stream, rfl, isOpen_of_isConnected hstream h⟩

/-- The first match is received, and drained with what stands before it. -/
theorem executeRes_of_found {found rest : List Char} (h : s.isConnected = true)
    (hsome : pattern ≠ "") (hfound : takeThrough pattern.toList s.inbound = some (found, rest)) :
    ∃ s', (Directive.res pattern).execute s = (.ok (), s') ∧ s.Remains s' rest := by
  obtain ⟨stream, hstream, hopen⟩ := exists_stream h
  have hread := Memory.readUntil_eq_drain pattern s.responseTimeout s.bench hopen
  have hreceived : String.ofList found ≠ "" := by
    intro hnothing
    have hsuffix := (Text.takeThrough_eq_some_iff.1 hfound).2.isSuffix
    rw [String.ofList_eq_empty_iff.1 hnothing, List.suffix_nil] at hsuffix
    exact hsome (String.toList_eq_nil_iff.1 hsuffix)
  rw [← Session.inbound, Text.drain_of_found hfound] at hread
  simp only [Directive.execute, Directive.executeRes, requireStream_of_isOpen hstream hopen,
    Transport.readUntil, hread, Option.getD_some, if_neg hreceived]
  exact ⟨_, rfl, hopen, rfl, rfl⟩

theorem executeRes_of_missing (h : s.isConnected = true)
    (hmissing : takeThrough pattern.toList s.inbound = none) :
    ∃ s', (Directive.res pattern).execute s = (s.noResponse pattern, s') ∧
      s.Remains s' s.inbound := by
  obtain ⟨stream, hstream, hopen⟩ := exists_stream h
  have hread := Memory.readUntil_eq_drain pattern s.responseTimeout s.bench hopen
  rw [← Session.inbound, Text.drain_of_missing hmissing] at hread
  simp only [Directive.execute, Directive.executeRes, requireStream_of_isOpen hstream hopen,
    Transport.readUntil, hread, Option.getD_none, String.ofList_nil, if_true]
  exact ⟨_, rfl, hopen, rfl, rfl⟩

section Searched

variable {start place n : Nat} {places later : List Nat}

/-- While places are left each wait takes the inbound text up to the end of the next one. -/
theorem execute_of_searched_cons (h : s.isConnected = true) (hsome : pattern ≠ "")
    (hinbound : s.inbound = text.drop start)
    (hsearched : Searched pattern.toList text start (place :: later)) :
    ∃ s', (Directive.res pattern).execute s = (.ok (), s') ∧
      s.Remains s' (text.drop (place + pattern.length)) := by
  have hnonempty : pattern.toList ≠ [] := mt String.toList_eq_nil_iff.1 hsome
  obtain ⟨found, hfound⟩ := hsearched.takeThrough_of_cons hnonempty
  rw [← hinbound, String.length_toList] at hfound
  exact executeRes_of_found h hsome hfound

theorem execute_of_searched_nil (h : s.isConnected = true)
    (hinbound : s.inbound = text.drop start) (hsearched : Searched pattern.toList text start []) :
    ∃ s', (Directive.res pattern).execute s = (s.noResponse pattern, s') ∧
      s.Remains s' (text.drop start) := by
  have hmissing := hsearched.missing_of_nil
  rw [← hinbound, ← Text.takeThrough_eq_none_iff] at hmissing
  rw [← hinbound]
  exact executeRes_of_missing h hmissing

/-- So many waits succeed as there are places, and the places that are left are those not waited
for. -/
theorem repeatRes_of_searched (h : s.isConnected = true) (hsome : pattern ≠ "")
    (hinbound : s.inbound = text.drop start)
    (hsearched : Searched pattern.toList text start places) (n : Nat) :
    ∃ s' behind, s.repeatRes pattern n =
        (List.replicate (min n places.length) (.ok ()) ++
          List.replicate (n - places.length) (s.noResponse pattern), s') ∧
      s.Remains s' (text.drop behind) ∧
      Searched pattern.toList text behind (places.drop n) := by
  induction n generalizing s start places with
  | zero =>
    refine ⟨s, start, ?_, hinbound ▸ .refl h, hsearched⟩
    simp [repeatRes]
  | succ n ih =>
    cases places with
    | nil =>
      obtain ⟨s₁, hexecute, hremains⟩ := execute_of_searched_nil h hinbound hsearched
      obtain ⟨s', behind, hrepeat, hremains', hrest⟩ :=
        ih hremains.isConnected hremains.inbound hsearched
      rw [List.drop_nil] at hrest ⊢
      refine ⟨s', behind, ?_, hremains.trans hremains', hrest⟩
      simp [repeatRes, hexecute, hrepeat, hremains.noResponse, List.replicate_succ]
    | cons place later =>
      obtain ⟨s₁, hexecute, hremains⟩ := execute_of_searched_cons h hsome hinbound hsearched
      obtain ⟨s', behind, hrepeat, hremains', hrest⟩ :=
        ih hremains.isConnected hremains.inbound hsearched.tail
      refine ⟨s', behind, ?_, hremains.trans hremains', hrest⟩
      simp [repeatRes, hexecute, hrepeat, hremains.noResponse, List.replicate_succ]

/-- A wait that succeeds leaves what stands behind its place. -/
theorem inbound_repeatRes_succ (h : s.isConnected = true) (hsome : pattern ≠ "")
    (hsearched : Searched pattern.toList s.inbound 0 places) (hn : n < places.length) :
    (s.repeatRes pattern (n + 1)).2.inbound = s.inbound.drop (places[n] + pattern.length) := by
  obtain ⟨s₁, behind, hrepeat, hremains, hrest⟩ := repeatRes_of_searched h hsome rfl hsearched n
  rw [List.drop_eq_getElem_cons hn] at hrest
  obtain ⟨s', hexecute, hlater⟩ :=
    execute_of_searched_cons hremains.isConnected hsome hremains.inbound hrest
  rw [repeatRes_succ, hrepeat, hexecute]
  exact hlater.inbound

end Searched

/-- Where the pattern is not inbound a wait for it fails, whether or not there is a stream. -/
theorem execute_res_fails (hmissing : ¬ pattern.toList <:+: s.inbound) :
    ∃ cause, ((Directive.res pattern).execute s).1 = .fail cause := by
  cases hopen : s.isConnected with
  | true =>
    obtain ⟨s', hexecute, -⟩ :=
      executeRes_of_missing hopen (Text.takeThrough_eq_none_iff.2 hmissing)
    rw [hexecute]
    exact ⟨_, rfl⟩
  | false =>
    rw [Directive.execute, Directive.executeRes, requireStream_of_not_isConnected hopen]
    exact ⟨_, rfl⟩

/-- What comes of waiting for a pattern again and again, if it is found at these places. -/
structure Counts (pattern : String) (s : Session Memory.Stream Memory) (places : List Nat) :
    Prop where
  greatest : IsGreatest (packable pattern.toList s.inbound) places.length
  occurs : ∀ i ∈ places, OccursAt pattern.toList s.inbound i
  ascending : places.Pairwise fun i j => i < j ∧ i + pattern.length ≤ j
  results : ∀ n, (s.repeatRes pattern n).1 =
    List.replicate (min n places.length) (.ok ()) ++
      List.replicate (n - places.length) (s.noResponse pattern)
  inbound : ∀ n (hn : n < places.length),
    (s.repeatRes pattern (n + 1)).2.inbound = s.inbound.drop (places[n] + pattern.length)
  /-- Whatever is done in between, if nothing is written then nothing more is received. -/
  exhausted : ∀ n, places.length ≤ n → ∀ ops : List Operation,
    ((s.repeatRes pattern n).2.operateAll ops).bench.world.writes = s.bench.world.writes →
      ∃ cause, ((Directive.res pattern).execute ((s.repeatRes pattern n).2.operateAll ops)).1 =
        .fail cause

theorem fails_of_exhausted (h : s.isConnected = true) (hsome : pattern ≠ "") {places : List Nat}
    (hsearched : Searched pattern.toList s.inbound 0 places) {n : Nat} (hn : places.length ≤ n)
    {ops : List Operation}
    (hunwritten : ((s.repeatRes pattern n).2.operateAll ops).bench.world.writes =
      s.bench.world.writes) :
    ∃ cause, ((Directive.res pattern).execute ((s.repeatRes pattern n).2.operateAll ops)).1 =
      .fail cause := by
  obtain ⟨s', behind, hrepeat, hremains, hrest⟩ := repeatRes_of_searched h hsome rfl hsearched n
  rw [List.drop_eq_nil_of_le hn] at hrest
  rw [hrepeat] at hunwritten ⊢
  have hexhausted : Memory.Exhausted pattern s.bench.world.writes s'.bench.world := by
    refine .inr ⟨by rw [hremains.world], ?_⟩
    rw [← Session.inbound, hremains.inbound]
    exact hrest.missing_of_nil
  have hkept : Memory.Exhausted pattern s.bench.world.writes (s'.operateAll ops).bench.world :=
    (Memory.invariant_exhausted pattern s.bench.world.writes).operateAll (fun _ _ _ _ h => h)
      hexhausted
  rcases hkept with hwritten | ⟨-, hmissing⟩
  · rw [hunwritten] at hwritten
    exact absurd hwritten (Nat.lt_irrefl _)
  · exact execute_res_fails hmissing

/-- Waiting for one response again and again counts how often it can be found without overlaps. So
many waits succeed, each takes the inbound text up to the end of the next match, and then all fail
until something is written. -/
theorem repeated_res_counts_matches (pattern : String) (hsome : pattern ≠ "")
    (s : Session Memory.Stream Memory) (h : s.isConnected = true) :
    ∃ places, s.Counts pattern places := by
  have hnonempty : pattern.toList ≠ [] := mt String.toList_eq_nil_iff.1 hsome
  obtain ⟨places, hsearched⟩ := Text.exists_searched hnonempty s.inbound 0
  refine ⟨places, hsearched.isGreatest hnonempty, hsearched.occurs, ?_, ?_, ?_, ?_⟩
  · exact hsearched.ascending hnonempty
  · intro n
    obtain ⟨s', behind, hrepeat, -⟩ := repeatRes_of_searched h hsome rfl hsearched n
    rw [hrepeat]
  · intro n hn
    exact inbound_repeatRes_succ h hsome hsearched hn
  · intro n hn ops hunwritten
    exact fails_of_exhausted h hsome hsearched hn hunwritten

/-- A connected session with an inbound text in which a pattern stands at three places, of which
only two do not overlap. -/
def overlapping : Session Memory.Stream Memory where
  stream := some ⟨true⟩
  bench := { world := { inbound := "éaéaéaé", isOpen := true } }

theorem repeated_res_counts_matches_overlapping :
    "éaé" ≠ "" ∧ overlapping.isConnected = true ∧
      (∃ places, overlapping.Counts "éaé" places ∧ places.length = 2) ∧
      Text.OccursAt "éaé".toList overlapping.inbound 2 := by
  have hsome : "éaé" ≠ "" := by decide
  obtain ⟨places, hcounts⟩ := repeated_res_counts_matches "éaé" hsome overlapping rfl
  refine ⟨hsome, rfl, ⟨places, hcounts, ?_⟩, ⟨['a', 'é'], by decide +kernel⟩⟩
  have hrun : (overlapping.repeatRes "éaé" 3).1.countP Except.isOk = 2 := by decide +kernel
  have hcount : min 3 places.length = 2 := by
    rw [hcounts.results, List.countP_append, List.countP_replicate, List.countP_replicate] at hrun
    simpa [noResponse, Outcome.fail, Except.isOk, Except.toBool] using hrun
  omega

end Session

end SerialScript
