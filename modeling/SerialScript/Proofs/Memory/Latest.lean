import SerialScript.Proofs.Memory.Inbound

/-!
What a memory shows of its streams. It has one place for a timeout and one for whether a stream is
open, and both are meant of the stream that was opened last. But every stream writes there, and it
is not told which one it is: what is shown is what was done last on any of them. It is true of the
stream that was opened last as long as the older ones are neither given a timeout nor closed.
-/

namespace SerialScript

def StreamUse.timeout? : StreamUse → Option Nat
  | .setTimeout ms => some ms
  | _ => none

namespace Pool

variable {S W : Type} [Transport S W]

/-- The timeouts that calls give to the streams chosen. -/
def timeouts (chosen : Nat → Prop) [DecidablePred chosen] (uses : List (Nat × StreamUse)) :
    List Nat :=
  uses.filterMap fun use => if chosen use.1 then use.2.timeout? else none

theorem timeouts_congr {chosen chosen' : Nat → Prop} [DecidablePred chosen]
    [DecidablePred chosen'] {uses : List (Nat × StreamUse)}
    (h : ∀ index ms, (index, .setTimeout ms) ∈ uses → (chosen index ↔ chosen' index)) :
    timeouts chosen uses = timeouts chosen' uses := by
  apply List.filterMap_congr
  rintro ⟨index, action⟩ hmem
  cases action with
  | setTimeout ms => simp only [h index ms hmem]
  | write | readUntil | close => simp [StreamUse.timeout?]

def runUses (pool : Pool S W) (uses : List (Nat × StreamUse)) : Pool S W :=
  (pool.run (uses.map fun use => .use use.1 use.2)).2

def HasOpen (pool : Pool Memory.Stream Memory) (index : Nat) : Prop :=
  ∃ s, pool.streams[index]? = some s ∧ s.isOpen = true

@[simp] theorem runUses_nil (pool : Pool S W) : pool.runUses [] = pool := rfl

theorem runUses_cons (pool : Pool S W) (index : Nat) (action : StreamUse)
    (later : List (Nat × StreamUse)) :
    pool.runUses ((index, action) :: later) =
      (pool.step (.use index action)).2.runUses later := rfl

theorem length_use (pool : Pool S W) (index : Nat) (action : StreamUse) :
    (pool.step (.use index action)).2.streams.length = pool.streams.length := by
  cases hs : pool.streams[index]? with
  | none => rw [step_missing hs]
  | some s => rw [step_use hs, List.length_set]

end Pool

namespace Memory

open Pool

/-- What a call does to its stream and to what is shown. Only a close changes whether a stream is
open, and what is shown open only if its stream is. -/
structure Effect (s : Stream) (b : Bench Memory) (action : StreamUse) (s' : Stream)
    (b' : Bench Memory) : Prop where
  stream : s'.isOpen = true ↔ s.isOpen = true ∧ action ≠ .close
  timeout : b'.world.timeout = action.timeout?.or b.world.timeout
  isOpen : b'.world.isOpen = true ↔ b.world.isOpen = true ∧ ¬(action = .close ∧ s.isOpen = true)

/-- A call that neither closes the stream nor gives it a timeout. -/
theorem Effect.of_kept {s : Stream} {b b' : Bench Memory} {action : StreamUse}
    (hclose : action ≠ .close) (htimeout : action.timeout? = none)
    (hshown : b'.world.timeout = b.world.timeout ∧ b'.world.isOpen = b.world.isOpen) :
    Effect s b action s b' where
  stream := by simp [hclose]
  timeout := by rw [htimeout, Option.none_or, hshown.1]
  isOpen := by simp [hclose, hshown.2]

theorem effect_make (s : Stream) (b : Bench Memory) (action : StreamUse) :
    Effect s b action (action.make s b).1 (action.make s b).2 := by
  cases action with
  | write data =>
    simp only [StreamUse.make, Transport.write, write]
    cases s.isOpen with
    | true => exact .of_kept (by simp) rfl ⟨rfl, rfl⟩
    | false => exact .of_kept (by simp) rfl ⟨rfl, rfl⟩
  | readUntil text ms =>
    simp only [StreamUse.make, Transport.readUntil, readUntil]
    cases s.isOpen with
    | true =>
      cases Text.takeThrough text.toList b.world.inbound.toList with
      | some cut => exact .of_kept (by simp) rfl ⟨rfl, rfl⟩
      | none => exact .of_kept (by simp) rfl ⟨rfl, rfl⟩
    | false => exact .of_kept (by simp) rfl ⟨rfl, rfl⟩
  | setTimeout ms =>
    simp only [StreamUse.make, Transport.setTimeout, setTimeout]
    exact ⟨by simp, rfl, by simp⟩
  | close =>
    simp only [StreamUse.make, Transport.close, close]
    cases hopen : s.isOpen with
    | true => exact ⟨by simp, rfl, by simp [hopen]⟩
    | false => exact ⟨by simp [hopen], rfl, by simp [hopen]⟩

variable {pool opened : Pool Stream Memory}

theorem timeout_use (pool : Pool Stream Memory) (index : Nat) (action : StreamUse) :
    (pool.step (.use index action)).2.bench.world.timeout =
      (if index < pool.streams.length then action.timeout? else none).or
        pool.bench.world.timeout := by
  cases hs : pool.streams[index]? with
  | none =>
    rw [step_missing hs, if_neg (Nat.not_lt.2 (List.getElem?_eq_none_iff.1 hs)), Option.none_or]
  | some s =>
    rw [step_use hs, if_pos (List.getElem?_eq_some_iff.1 hs).1]
    exact (effect_make s pool.bench action).timeout

theorem isOpen_use (pool : Pool Stream Memory) (index : Nat) (action : StreamUse) :
    (pool.step (.use index action)).2.bench.world.isOpen = true ↔
      pool.bench.world.isOpen = true ∧ ¬(action = .close ∧ pool.HasOpen index) := by
  unfold HasOpen
  cases hs : pool.streams[index]? with
  | none => simp [step_missing hs]
  | some s =>
    rw [step_use hs]
    simpa using (effect_make s pool.bench action).isOpen

theorem hasOpen_use (pool : Pool Stream Memory) (index : Nat) (action : StreamUse) (other : Nat) :
    (pool.step (.use index action)).2.HasOpen other ↔
      pool.HasOpen other ∧ (other, StreamUse.close) ≠ (index, action) := by
  unfold HasOpen
  cases hs : pool.streams[index]? with
  | none =>
    rw [step_missing hs]
    constructor
    · rintro ⟨s, hother, hopen⟩
      refine ⟨⟨s, hother, hopen⟩, ?_⟩
      rintro ⟨⟩
      rw [hs] at hother
      cases hother
    · exact And.left
  | some s =>
    rw [step_use hs]
    by_cases hsame : index = other
    · subst hsame
      have hlt := (List.getElem?_eq_some_iff.1 hs).1
      have hstream := (effect_make s pool.bench action).stream
      simp only [List.getElem?_set_self hlt, hs, Option.some_inj, exists_eq_left']
      rw [hstream, Ne, Ne, Prod.mk.injEq, eq_comm (a := action)]
      simp
    · simp [List.getElem?_set_ne hsame, Ne.symm hsame]

theorem timeout_runUses {timeout : Nat} (h : pool.bench.world.timeout = some timeout)
    (uses : List (Nat × StreamUse)) :
    (pool.runUses uses).bench.world.timeout =
      some ((timeouts (· < pool.streams.length) uses).getLastD timeout) := by
  induction uses generalizing pool timeout with
  | nil => exact h
  | cons use later ih =>
    obtain ⟨index, action⟩ := use
    have hstep := timeout_use pool index action
    rw [runUses_cons]
    unfold timeouts
    rw [List.filterMap_cons]
    cases hgiven : if index < pool.streams.length then action.timeout? else none with
    | none =>
      rw [hgiven, Option.none_or, h] at hstep
      rw [ih hstep, length_use]
      rfl
    | some ms =>
      rw [hgiven, Option.some_or] at hstep
      rw [ih hstep, length_use, List.getLastD_cons]
      rfl

theorem hasOpen_runUses (uses : List (Nat × StreamUse)) (index : Nat) :
    (pool.runUses uses).HasOpen index ↔ pool.HasOpen index ∧ (index, .close) ∉ uses := by
  induction uses generalizing pool with
  | nil => simp
  | cons use later ih =>
    rw [runUses_cons, ih, hasOpen_use, List.mem_cons, not_or, and_assoc]

theorem isOpen_runUses (uses : List (Nat × StreamUse)) :
    (pool.runUses uses).bench.world.isOpen = true ↔
      pool.bench.world.isOpen = true ∧ ∀ index, pool.HasOpen index → (index, .close) ∉ uses := by
  induction uses generalizing pool with
  | nil => simp
  | cons use later ih =>
    obtain ⟨index, action⟩ := use
    rw [runUses_cons, ih, isOpen_use, and_assoc]
    simp only [hasOpen_use, List.mem_cons, not_or]
    apply and_congr_right
    intro _
    constructor
    · rintro ⟨hfirst, hlater⟩ other hopen
      have hother : (other, StreamUse.close) ≠ (index, action) := by
        rintro ⟨⟩
        exact hfirst ⟨rfl, hopen⟩
      exact ⟨hother, hlater other ⟨hopen, hother⟩⟩
    · intro hall
      refine ⟨?_, fun other hother => (hall other hother.1).2⟩
      rintro ⟨rfl, hopen⟩
      exact (hall index hopen).1 rfl

section Opening

variable {port : String} {baud : UInt32} {responseTimeout openTimeout : Nat}

/-- An opening that succeeds hands out a stream and shows what it is. -/
theorem opened_of_step
    (h : pool.step (.openPort port baud responseTimeout openTimeout) = (.opened (.ok ()), opened)) :
    opened.streams = pool.streams ++ [⟨opened.bench.world.isOpen⟩] ∧
      opened.bench.world.timeout = some responseTimeout := by
  simp only [step, Transport.openPort, openPort] at h
  cases hrefusal : pool.bench.world.refusal with
  | some reason => simp [hrefusal, Outcome.fail] at h
  | none =>
    simp only [hrefusal, Prod.mk.injEq, true_and] at h
    subst h
    exact ⟨rfl, rfl⟩

theorem hasOpen_opened (hstreams : opened.streams = pool.streams ++ [⟨opened.bench.world.isOpen⟩])
    (index : Nat) :
    opened.HasOpen index ↔
      index < pool.streams.length ∧ pool.HasOpen index ∨
        index = pool.streams.length ∧ opened.bench.world.isOpen = true := by
  unfold HasOpen
  rw [hstreams]
  rcases Nat.lt_trichotomy index pool.streams.length with hlt | rfl | hgt
  · simp [List.getElem?_append_left hlt, hlt, Nat.ne_of_lt hlt]
  · simp
  · have hnone : (pool.streams ++ [(⟨opened.bench.world.isOpen⟩ : Stream)])[index]? = none := by
      rw [List.getElem?_eq_none_iff, List.length_append]
      exact hgt
    simp [hnone, Nat.not_lt_of_lt hgt, Nat.ne_of_gt hgt]

/-- What is shown once a stream has been handed out, and it or others have been used since. It is
what was done last on any of the streams, the older ones included. Of the latest one it is true if
none of the older ones has been given a timeout, or has been closed. -/
structure ShownSince (pool opened : Pool Stream Memory) (responseTimeout : Nat)
    (uses : List (Nat × StreamUse)) : Prop where
  timeout : (opened.runUses uses).bench.world.timeout =
    some ((timeouts (· ≤ pool.streams.length) uses).getLastD responseTimeout)
  isOpen : (opened.runUses uses).bench.world.isOpen = true ↔
    (opened.runUses uses).HasOpen pool.streams.length ∧
      ∀ older < pool.streams.length, pool.HasOpen older → (older, .close) ∉ uses
  timeout_of_latest :
    (∀ older < pool.streams.length, ∀ ms, (older, .setTimeout ms) ∉ uses) →
      (opened.runUses uses).bench.world.timeout =
        some ((timeouts (· = pool.streams.length) uses).getLastD responseTimeout)
  isOpen_of_latest :
    (∀ older < pool.streams.length, pool.HasOpen older → (older, .close) ∉ uses) →
      ((opened.runUses uses).bench.world.isOpen = true ↔
        (opened.runUses uses).HasOpen pool.streams.length)

theorem isOpen_runUses_opened
    (hstreams : opened.streams = pool.streams ++ [⟨opened.bench.world.isOpen⟩])
    (uses : List (Nat × StreamUse)) :
    (opened.runUses uses).bench.world.isOpen = true ↔
      (opened.runUses uses).HasOpen pool.streams.length ∧
        ∀ older < pool.streams.length, pool.HasOpen older → (older, .close) ∉ uses := by
  rw [isOpen_runUses, hasOpen_runUses, hasOpen_opened hstreams]
  constructor
  · rintro ⟨hopen, hall⟩
    refine ⟨⟨.inr ⟨rfl, hopen⟩, hall _ ?_⟩, fun older hlt holder => hall older ?_⟩
    · exact (hasOpen_opened hstreams _).2 (.inr ⟨rfl, hopen⟩)
    · exact (hasOpen_opened hstreams _).2 (.inl ⟨hlt, holder⟩)
  · rintro ⟨⟨⟨hlt, -⟩ | ⟨-, hopen⟩, hlatest⟩, holder⟩
    · exact absurd hlt (Nat.lt_irrefl _)
    · refine ⟨hopen, fun index hindex => ?_⟩
      rcases (hasOpen_opened hstreams index).1 hindex with ⟨hlt, hbefore⟩ | ⟨rfl, -⟩
      · exact holder index hlt hbefore
      · exact hlatest

/-- Whatever has been done before a stream is handed out, and whatever is done since with this
stream and those before it: the memory shows the timeout that any of them has been given last, and
shows the latest one open as long as it is and no older one has been closed. -/
theorem shows_latest_unless_older_used
    (h : pool.step (.openPort port baud responseTimeout openTimeout) = (.opened (.ok ()), opened))
    (uses : List (Nat × StreamUse)) : ShownSince pool opened responseTimeout uses := by
  obtain ⟨hstreams, htimeout⟩ := opened_of_step h
  have hshown : (opened.runUses uses).bench.world.timeout =
      some ((timeouts (· ≤ pool.streams.length) uses).getLastD responseTimeout) := by
    rw [timeout_runUses htimeout]
    simp only [hstreams, List.length_append, List.length_singleton, Nat.lt_succ_iff]
  have hopen := isOpen_runUses_opened hstreams uses
  refine ⟨hshown, hopen, ?_, ?_⟩
  · intro hnone
    have hsame : timeouts (· ≤ pool.streams.length) uses =
        timeouts (· = pool.streams.length) uses := by
      apply timeouts_congr
      intro index ms hmem
      constructor
      · intro hle
        exact Nat.le_antisymm hle (Nat.le_of_not_lt fun hlt => hnone index hlt ms hmem)
      · exact Nat.le_of_eq
    rw [hshown, hsame]
  · intro hnone
    rw [hopen]
    exact and_iff_left hnone

end Opening

def first : Pool Stream Memory :=
  (({ bench := { world := {} } } : Pool Stream Memory).step (.openPort "a" 9600 1000 500)).2

def second : Pool Stream Memory := (first.step (.openPort "b" 9600 2000 500)).2

/-- The older one may be written to, and the latest one be given a timeout. -/
theorem shows_latest_unless_older_used_second :
    first.step (.openPort "b" 9600 2000 500) = (.opened (.ok ()), second) ∧
      (second.runUses [(0, .write [65]), (1, .setTimeout 7)]).bench.world.timeout = some 7 ∧
      (second.runUses [(0, .write [65]), (1, .setTimeout 7)]).bench.world.isOpen = true := by
  have hopened : first.step (.openPort "b" 9600 2000 500) = (.opened (.ok ()), second) := rfl
  have hshown := shows_latest_unless_older_used hopened [(0, .write [65]), (1, .setTimeout 7)]
  have hone : first.streams.length = 1 := rfl
  refine ⟨hopened, hshown.timeout_of_latest ?_, (hshown.isOpen_of_latest ?_).2 ⟨⟨true⟩, rfl, rfl⟩⟩
  · intro older holder ms hmem
    simp only [List.mem_cons, Prod.mk.injEq, StreamUse.setTimeout.injEq, reduceCtorEq, and_false,
      false_or, List.not_mem_nil, or_false] at hmem
    omega
  · intro older _ _ hmem
    simp at hmem

/-- The older one is given a timeout, and that is shown although the latest one has been given none;
or the older one is closed, and none is shown open although the latest one is. -/
theorem older_stream_shown :
    (second.runUses [(0, .setTimeout 5)]).bench.world.timeout = some 5 ∧
      timeouts (· = 1) [(0, .setTimeout 5)] = [] ∧
      (second.runUses [(0, .close)]).bench.world.isOpen = false ∧
      (second.runUses [(0, .close)]).HasOpen 1 :=
  ⟨rfl, rfl, rfl, ⟨true⟩, rfl, rfl⟩

end Memory

end SerialScript
