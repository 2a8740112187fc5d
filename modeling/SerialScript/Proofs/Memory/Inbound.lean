import SerialScript.Proofs.Closing

namespace SerialScript

structure Pool (S W : Type) where
  streams : List S := []
  bench : Bench W

namespace Pool

inductive Call where
  | openPort (port : String) (baud : UInt32) (responseTimeout openTimeout : Nat)
  | use (index : Nat) (action : StreamUse)

inductive Answer where
  | opened (result : Outcome Unit)
  | written (result : Outcome Unit)
  | received (result : Outcome String)
  | done
  /-- There is no such stream, so nothing has been called. -/
  | missing

section Run

variable {S W : Type} [Transport S W]

def answer (s : S) (b : Bench W) : StreamUse → Answer
  | .write data => .written (Transport.write data s b).1
  | .readUntil text ms => .received (Transport.readUntil text ms s b).1
  | .setTimeout _ => .done
  | .close => .done

def step (pool : Pool S W) : Call → Answer × Pool S W
  | .openPort port baud responseTimeout openTimeout =>
    match Transport.openPort port baud responseTimeout openTimeout pool.bench with
    | (.ok stream, bench) => (.opened (.ok ()), ⟨pool.streams ++ [stream], bench⟩)
    | (.error stop, bench) => (.opened (.error stop), { pool with bench })
  | .use index action =>
    match pool.streams[index]? with
    | none => (.missing, pool)
    | some stream =>
      let (stream', bench) := action.make stream pool.bench
      (answer stream pool.bench action, ⟨pool.streams.set index stream', bench⟩)

theorem step_use {pool : Pool S W} {index : Nat} {s : S} (h : pool.streams[index]? = some s)
    (action : StreamUse) :
    pool.step (.use index action) =
      (answer s pool.bench action,
        ⟨pool.streams.set index (action.make s pool.bench).1, (action.make s pool.bench).2⟩) := by
  simp only [step, h]

theorem step_missing {pool : Pool S W} {index : Nat} (h : pool.streams[index]? = none)
    (action : StreamUse) : pool.step (.use index action) = (.missing, pool) := by
  simp only [step, h]

def run : List Call → Pool S W → List (Call × Answer) × Pool S W
  | [], pool => ([], pool)
  | call :: later, pool =>
    let (answer, pool) := pool.step call
    let (answered, pool) := run later pool
    ((call, answer) :: answered, pool)

end Run

def received? : Call × Answer → Option String
  | (_, .received (.ok text)) => some text
  | _ => none

def accepted? : Call × Answer → Option (List UInt8)
  | (.use _ (.write data), .written (.ok _)) => some data
  | _ => none

/-- What successful waits have handed over. -/
def received (answered : List (Call × Answer)) : List String := answered.filterMap received?

def accepted (answered : List (Call × Answer)) : List (List UInt8) := answered.filterMap accepted?

theorem received_append (answered answered' : List (Call × Answer)) :
    received (answered ++ answered') = received answered ++ received answered' :=
  List.filterMap_append

theorem accepted_append (answered answered' : List (Call × Answer)) :
    accepted (answered ++ answered') = accepted answered ++ accepted answered' :=
  List.filterMap_append

theorem received_single (x : Call × Answer) : received [x] = (received? x).toList := by
  cases h : received? x with
  | none => exact List.filterMap_cons_none h
  | some text => exact List.filterMap_cons_some h

theorem accepted_single (x : Call × Answer) : accepted [x] = (accepted? x).toList := by
  cases h : accepted? x with
  | none => exact List.filterMap_cons_none h
  | some data => exact List.filterMap_cons_some h

end Pool

namespace Memory

open Pool

variable {answered answered' : List (Call × Answer)} {m m' m'' : Memory}

/-- No text is lost, made up or moved between these two states. -/
structure Conserves (answered : List (Call × Answer)) (m m' : Memory) : Prop where
  replies : m'.replies = m.replies
  text : String.join (received answered) ++ m'.inbound =
    m.inbound ++ String.join ((accepted answered).flatMap m.repliesTo)

theorem repliesTo_congr (h : m'.replies = m.replies) : m'.repliesTo = m.repliesTo := by
  funext data
  unfold repliesTo
  rw [h]

namespace Conserves

theorem refl (m : Memory) : Conserves [] m m := ⟨rfl, by simp [received, accepted]⟩

theorem single {x : Call × Answer} (hreplies : m'.replies = m.replies)
    (htext : String.join (received? x).toList ++ m'.inbound =
      m.inbound ++ String.join ((accepted? x).toList.flatMap m.repliesTo)) :
    Conserves [x] m m' := by
  refine ⟨hreplies, ?_⟩
  rw [received_single, accepted_single]
  exact htext

/-- If neither text nor data has gone either way, the inbound text has only to stay as it is. -/
theorem of_silent {x : Call × Answer} (hreceived : received? x = none)
    (haccepted : accepted? x = none) (hreplies : m'.replies = m.replies)
    (hinbound : m'.inbound = m.inbound) : Conserves [x] m m' := by
  apply single
  · exact hreplies
  · simp [hreceived, haccepted, hinbound]

theorem trans (h : Conserves answered m m') (h' : Conserves answered' m' m'') :
    Conserves (answered ++ answered') m m'' := by
  refine ⟨h'.replies.trans h.replies, ?_⟩
  have hlater := h'.text
  rw [repliesTo_congr h.replies] at hlater
  rw [received_append, accepted_append, List.flatMap_append, String.join_append,
    String.join_append]
  calc
    String.join (received answered) ++ String.join (received answered') ++ m''.inbound
        = String.join (received answered) ++ m'.inbound ++
          String.join ((accepted answered').flatMap m.repliesTo) := by
      rw [String.append_assoc, hlater, String.append_assoc]
    _ = m.inbound ++ (String.join ((accepted answered).flatMap m.repliesTo) ++
          String.join ((accepted answered').flatMap m.repliesTo)) := by
      rw [h.text, String.append_assoc]

end Conserves

theorem conserves_write (index : Nat) (data : List UInt8) (s : Stream) (b : Bench Memory) :
    Conserves [(.use index (.write data), answer s b (.write data))] b.world
      ((StreamUse.write data).make s b).2.world := by
  simp only [answer, StreamUse.make, Transport.write, write]
  cases s.isOpen with
  | false => exact .of_silent rfl rfl rfl rfl
  | true =>
    apply Conserves.single
    · rfl
    · simp [received?, accepted?]

theorem conserves_readUntil (index : Nat) (text : String) (ms : Nat) (s : Stream)
    (b : Bench Memory) :
    Conserves [(.use index (.readUntil text ms), answer s b (.readUntil text ms))] b.world
      ((StreamUse.readUntil text ms).make s b).2.world := by
  simp only [answer, StreamUse.make, Transport.readUntil, readUntil]
  cases s.isOpen with
  | false => exact .of_silent rfl rfl rfl rfl
  | true =>
    cases hsearch : Text.takeThrough text.toList b.world.inbound.toList with
    | none =>
      apply Conserves.single
      · rfl
      · simp [received?, accepted?, Bench.wait]
    | some cut =>
      obtain ⟨found, rest⟩ := cut
      have hcut : String.ofList found ++ String.ofList rest = b.world.inbound := by
        rw [← String.ofList_append, Text.append_of_takeThrough hsearch, String.ofList_toList]
      apply Conserves.single
      · rfl
      · simp [received?, accepted?, hcut]

theorem conserves_close (index : Nat) (s : Stream) (b : Bench Memory) :
    Conserves [(.use index .close, answer s b .close)] b.world
      (StreamUse.close.make s b).2.world := by
  simp only [answer, StreamUse.make, Transport.close, close]
  cases s.isOpen with
  | false => exact .of_silent rfl rfl rfl rfl
  | true => exact .of_silent rfl rfl rfl rfl

theorem conserves_openPort (port : String) (baud : UInt32) (responseTimeout openTimeout : Nat)
    (pool : Pool Stream Memory) :
    Conserves [(.openPort port baud responseTimeout openTimeout,
        (pool.step (.openPort port baud responseTimeout openTimeout)).1)] pool.bench.world
      (pool.step (.openPort port baud responseTimeout openTimeout)).2.bench.world := by
  simp only [step, Transport.openPort, openPort]
  cases pool.bench.world.refusal with
  | none => exact .of_silent rfl rfl rfl rfl
  | some reason => exact .of_silent rfl rfl rfl rfl

/-- One call conserves text, on whichever stream it is made. -/
theorem conserves_step (pool : Pool Stream Memory) (call : Call) :
    Conserves [(call, (pool.step call).1)] pool.bench.world (pool.step call).2.bench.world := by
  cases call with
  | openPort port baud responseTimeout openTimeout =>
    exact conserves_openPort port baud responseTimeout openTimeout pool
  | use index action =>
    cases hstream : pool.streams[index]? with
    | none =>
      rw [step_missing hstream]
      apply Conserves.of_silent
      · rfl
      · cases action <;> rfl
      · rfl
      · rfl
    | some s =>
      rw [step_use hstream]
      cases action with
      | write data => exact conserves_write index data s pool.bench
      | readUntil text ms => exact conserves_readUntil index text ms s pool.bench
      | setTimeout ms => apply Conserves.of_silent <;> rfl
      | close => exact conserves_close index s pool.bench

theorem conserves_run (calls : List Call) (pool : Pool Stream Memory) :
    Conserves (pool.run calls).1 pool.bench.world (pool.run calls).2.bench.world := by
  induction calls generalizing pool with
  | nil => exact .refl _
  | cons call later ih => exact (conserves_step pool call).trans (ih (pool.step call).2)

/-- However many streams are used, and in whatever order: what has been handed over, and after it
what is still inbound, is what was inbound, and after it the replies to each write that was
accepted, as they were set up for exactly these bytes. -/
theorem inbound_conserved (pool : Pool Stream Memory) (calls : List Call) :
    String.join (received (pool.run calls).1) ++ (pool.run calls).2.bench.world.inbound =
      pool.bench.world.inbound ++
        String.join ((accepted (pool.run calls).1).flatMap fun data =>
          (pool.bench.world.replies.filter fun reply => reply.1 = data).map Prod.snd) := by
  have htext := (conserves_run calls pool).text
  have hreplies : (fun data => (pool.bench.world.replies.filter fun reply => reply.1 = data).map
      Prod.snd) = pool.bench.world.repliesTo := by
    funext data
    unfold repliesTo
    congr 1
    apply List.filter_congr
    intro reply _
    rw [beq_eq_decide]
  rw [hreplies]
  exact htext

/-- The second stream takes what the write on the first one was answered, but for what the first has
taken itself. -/
example :
    let memory : Memory :=
      { inbound := "é", replies := [([65], "OK>"), ([66], "no"), ([65], "x>")] }
    let pool : Pool Stream Memory := { streams := [⟨true⟩, ⟨true⟩], bench := { world := memory } }
    let calls : List Call :=
      [.use 0 (.write [65]), .use 0 (.readUntil "O" 5), .use 1 (.readUntil "?" 5), .use 0 .close,
        .use 0 (.readUntil "K" 5), .use 1 (.readUntil ">" 5)]
    received (pool.run calls).1 = ["éO", "", "K>"] ∧
      (pool.run calls).2.bench.world.inbound = "x>" := by
  decide +kernel

end Memory

end SerialScript
