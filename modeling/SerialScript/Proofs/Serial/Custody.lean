import Mathlib.Data.List.Induction
import SerialScript.Proofs.Serial.Timetable
import SerialScript.Proofs.Session.Invariant

/-!
Devices in custody. The calls of a session tell at any moment which device is out: one at most, and
none when another is asked for. Whatever is done with a session, and however it ends, every device
comes back, and no device comes back twice.
-/

namespace SerialScript.Serial

def Call.handedOut? : Call → Option Nat
  | .handedOut id => some id
  | _ => none

def Call.released? : Call → Option Nat
  | .released id => some id
  | _ => none

def handedOut (calls : List Call) : List Nat := calls.filterMap Call.handedOut?

def released (calls : List Call) : List Nat := calls.filterMap Call.released?

structure Custody where
  out : Option Nat := none
  count : Nat := 0

/-- Which device is out after one more call, if that call may be made. One is asked for and handed
out only while none is out, each gets the next number, and only the one that is out comes back. -/
def Custody.after (c : Custody) : Call → Option Custody
  | .asked _ _ _ _ => if c.out = none then some c else none
  | .handedOut id => if c.out = none ∧ id = c.count then some ⟨some id, id + 1⟩ else none
  | .released id => if c.out = some id then some { c with out := none } else none
  | .timeoutSet _ | .write _ _ | .flush | .read _ => some c

def custody (calls : List Call) : Option Custody := calls.foldlM Custody.after {}

section Calls

variable {calls : List Call} {c : Custody}

theorem handedOut_concat (calls : List Call) (call : Call) :
    handedOut (calls ++ [call]) = handedOut calls ++ call.handedOut?.toList := by
  rw [handedOut, List.filterMap_append]
  cases call <;> rfl

theorem released_concat (calls : List Call) (call : Call) :
    released (calls ++ [call]) = released calls ++ call.released?.toList := by
  rw [released, List.filterMap_append]
  cases call <;> rfl

theorem custody_concat (calls : List Call) (call : Call) :
    custody (calls ++ [call]) = (custody calls).bind fun c => c.after call := by
  simp only [custody, List.foldlM_append, List.foldlM_cons, List.foldlM_nil, bind_pure]
  rfl

structure Custody.Accounts (handedOut released : List Nat) (c : Custody) : Prop where
  numbered : handedOut = List.range c.count
  balance : handedOut = released ++ c.out.toList

theorem Custody.Accounts.after {handedOut released : List Nat} {c c' : Custody} {call : Call}
    (h : c.Accounts handedOut released) (hafter : c.after call = some c') :
    c'.Accounts (handedOut ++ call.handedOut?.toList) (released ++ call.released?.toList) := by
  obtain ⟨hnumbered, hbalance⟩ := h
  obtain ⟨out, count⟩ := c
  cases call with
  | asked port baud responseTimeout openTimeout =>
    simp only [Custody.after] at hafter
    split at hafter
    · cases hafter
      simp only [Call.handedOut?, Call.released?, Option.toList_none, List.append_nil]
      exact ⟨hnumbered, hbalance⟩
    · cases hafter
  | handedOut id =>
    simp only [Custody.after] at hafter
    split at hafter
    · rename_i hnext
      obtain ⟨rfl, rfl⟩ := hnext
      cases hafter
      simp only [Option.toList_none, List.append_nil] at hbalance
      simp only [Call.handedOut?, Call.released?, Option.toList_none, Option.toList_some,
        List.append_nil]
      exact ⟨by rw [hnumbered, List.range_succ], by rw [hbalance]; rfl⟩
    · cases hafter
  | released id =>
    simp only [Custody.after] at hafter
    split at hafter
    · rename_i hout
      cases hafter
      simp only [Call.handedOut?, Call.released?, Option.toList_none, Option.toList_some,
        List.append_nil]
      rw [hout] at hbalance
      exact ⟨hnumbered, hbalance.trans (List.append_nil _).symm⟩
    · cases hafter
  | _ =>
    cases hafter
    simp only [Call.handedOut?, Call.released?, Option.toList_none, List.append_nil]
    exact ⟨hnumbered, hbalance⟩

theorem accounts_of_custody (h : custody calls = some c) :
    c.Accounts (handedOut calls) (released calls) := by
  induction calls using List.reverseRecOn generalizing c with
  | nil =>
    cases h
    exact ⟨rfl, rfl⟩
  | append_singleton calls call ih =>
    rw [custody_concat, Option.bind_eq_some_iff] at h
    obtain ⟨c₀, hc₀, hafter⟩ := h
    rw [handedOut_concat, released_concat]
    exact (ih hc₀).after hafter

theorem exists_custody_of_prefix {earlier : List Call} (h : custody calls = some c)
    (hp : earlier <+: calls) : ∃ c', custody earlier = some c' := by
  obtain ⟨later, rfl⟩ := hp
  rw [custody, List.foldlM_append, Option.bind_eq_bind, Option.bind_eq_some_iff] at h
  obtain ⟨c', hc', _⟩ := h
  exact ⟨c', hc'⟩

end Calls

def callsOf (b : Bench World) : List Call := b.world.calls.toList.map Prod.snd

/-- The calls made so far may be made, and leave this device out. -/
def HasOut (out : Option Nat) (b : Bench World) : Prop :=
  custody (callsOf b) = some { out, count := b.world.handedOut }

theorem callsOf_record (b : Bench World) (call : Call) :
    callsOf (record b call) = callsOf b ++ [call] := by
  simp only [callsOf, record, Array.toList_push, List.map_append, List.map_cons, List.map_nil]

theorem custody_record {b : Bench World} {c : Custody} (h : custody (callsOf b) = some c)
    (call : Call) : custody (callsOf (record b call)) = c.after call := by
  rw [callsOf_record, custody_concat, h]
  rfl

/-- A call on the device that is out. -/
def Call.IsTraffic (call : Call) : Prop := ∀ c : Custody, c.after call = some c

theorem isTraffic_timeoutSet (ms : Nat) : (Call.timeoutSet ms).IsTraffic := fun _ => rfl

theorem isTraffic_write (timeout : Nat) (accepted : Option (List UInt8)) :
    (Call.write timeout accepted).IsTraffic := fun _ => rfl

theorem isTraffic_flush : Call.flush.IsTraffic := fun _ => rfl

theorem isTraffic_read (chunk : List UInt8) : (Call.read chunk).IsTraffic := fun _ => rfl

theorem HasOut.traffic {out : Option Nat} {b : Bench World} (h : HasOut out b) {call : Call}
    (hcall : call.IsTraffic) : HasOut out (record b call) :=
  (custody_record h call).trans (hcall _)

theorem HasOut.allTraffic {out : Option Nat} {b : Bench World} (h : HasOut out b)
    {calls : List Call} (hcalls : ∀ call ∈ calls, call.IsTraffic) :
    HasOut out (calls.foldl record b) := by
  induction calls generalizing b with
  | nil => exact h
  | cons call later ih =>
    obtain ⟨hcall, hlater⟩ := List.forall_mem_cons.1 hcalls
    exact ih (h.traffic hcall) hlater

theorem HasOut.afterRead {out : Option Nat} {b : Bench World} (h : HasOut out b)
    (ms elapsed : Nat) (chunk : List UInt8) : HasOut out (afterRead ms elapsed chunk b) := by
  have hset : HasOut out ((record b (.timeoutSet ms)).wait elapsed) :=
    h.traffic (isTraffic_timeoutSet ms)
  exact hset.traffic (isTraffic_read chunk)

def Stream.out (s : Stream) : Option Nat := s.device.map Device.id

theorem id_flush (d : Device) : d.flush.2.id = d.id := by
  unfold Device.flush
  split <;> rfl

theorem readUntil_hasOut {s : Stream} {b : Bench World} (h : HasOut s.out b) (text : String)
    (ms : Nat) : HasOut (readUntil text ms s b).2.1.out (readUntil text ms s b).2.2 := by
  -- Between the polls nothing but traffic on the device is recorded.
  have hfeed : (feed (b.clock + ms) s.name s.device b).All
      fun device b => HasOut (device.map Device.id) b := by
    apply (feeds_feed (b.clock + ms) s.name s.device b).all h
    · intro d b' hd
      rw [Option.map_some, (Device.onlyRead_setTimeout _ _).id]
      exact hd
    · intro d d₁ d' b' received elapsed hd _ hset hread
      have hid : d'.id = d.id := by
        have hset' := (Device.onlyRead_setTimeout (patience (b.clock + ms) b') d).id
        have hread' := (Device.onlyRead_read d₁).id
        rw [hset] at hset'
        rw [hread] at hread'
        exact hread'.trans hset'
      rw [Option.map_some, hid]
      exact HasOut.afterRead hd _ _ _
    · intro _ _ _ hd
      exact hd
  have hwait : ∀ outcome, readBytes (Text.toBytes text) ms s b = outcome →
      HasOut outcome.2.1.out outcome.2.2 := by
    intro outcome houtcome
    unfold readBytes at houtcome
    split at houtcome
    · rw [← houtcome]
      exact h
    · rw [← houtcome, await_eq_scan]
      exact hfeed.scan _ _ _
  exact hwait _ rfl

theorem writeAll_traffic (timeout : Nat) (data : List UInt8) (acceptances : List Acceptance) :
    ∀ call ∈ (writeAll timeout data acceptances).2.1, call.IsTraffic := by
  fun_induction writeAll timeout data acceptances with
  | case1 later => exact List.forall_mem_nil _
  | case2 data hdata => exact List.forall_mem_singleton.2 (isTraffic_write _ _)
  | case3 data later hdata => exact List.forall_mem_singleton.2 (isTraffic_write _ _)
  | case4 data f later hdata hkind result calls left hlater ih =>
    rw [hlater] at ih
    exact List.forall_mem_cons.2 ⟨isTraffic_write _ _, ih⟩
  | case5 data f later hdata hkind => exact List.forall_mem_singleton.2 (isTraffic_write _ _)
  | case6 data later hdata => exact List.forall_mem_singleton.2 (isTraffic_write _ _)
  | case7 data count later hdata call hcount result calls left hlater ih =>
    rw [hlater] at ih
    exact List.forall_mem_cons.2 ⟨isTraffic_write _ _, ih⟩

theorem write_hasOut {s : Stream} {b : Bench World} (h : HasOut s.out b) (data : List UInt8) :
    HasOut (write data s b).2.1.out (write data s b).2.2 := by
  unfold write setDeviceTimeout
  cases hd : s.device with
  | none => exact h
  | some d =>
    have hid := (Device.onlyRead_setTimeout s.writeTimeout d).id
    rw [Stream.out, hd, Option.map_some] at h
    simp only
    rcases hset : d.setTimeout s.writeTimeout with ⟨_ | reason, d₁⟩
    · rw [hset] at hid
      have htraffic := writeAll_traffic d₁.timeout data d₁.acceptances
      have hset' : HasOut (some d₁.id)
          ((record b (.timeoutSet s.writeTimeout)).report (traceBytes s.name "write" data)) := by
        rw [show d₁.id = d.id from hid]
        exact h.traffic (isTraffic_timeoutSet _)
      rcases hwrite : writeAll d₁.timeout data d₁.acceptances with ⟨_ | _, calls, acceptances⟩
      · rw [hwrite] at htraffic
        have hcalls := hset'.allTraffic htraffic
        simp only [hwrite]
        exact hcalls
      · rw [hwrite] at htraffic
        have hcalls := (hset'.allTraffic htraffic).traffic isTraffic_flush
        have hflush := id_flush { d₁ with acceptances }
        simp only [hwrite]
        rcases hf : Device.flush { d₁ with acceptances } with ⟨_ | f, d₂⟩ <;>
          rw [hf] at hflush <;> rw [← show d₂.id = d₁.id from hflush] at hcalls <;> exact hcalls
    · rw [hset] at hid
      rw [← show d₁.id = d.id from hid] at h
      exact h

theorem out_close (s : Stream) (b : Bench World) : (close s b).1.out = none := by
  unfold close
  cases hd : s.device with
  | none =>
    rw [Stream.out, hd]
    rfl
  | some d => rfl

theorem close_hasOut {s : Stream} {b : Bench World} (h : HasOut s.out b) :
    HasOut (close s b).1.out (close s b).2 := by
  rw [out_close]
  unfold close
  cases hd : s.device with
  | none =>
    rw [Stream.out, hd] at h
    exact h
  | some d =>
    rw [Stream.out, hd] at h
    have hreleased := custody_record h (.released d.id)
    rw [Option.map_some, Custody.after, if_pos rfl] at hreleased
    exact hreleased

theorem openPort_hasOut {b b' : Bench World} {result : Outcome Stream} {port : String}
    {baud : UInt32} {responseTimeout openTimeout : Nat} (h : HasOut none b)
    (hopen : openPort port baud responseTimeout openTimeout b = (result, b')) :
    HasOut (result.toOption.bind Stream.out) b' := by
  have hasked := custody_record h (.asked port baud responseTimeout openTimeout)
  rw [Custody.after, if_pos rfl] at hasked
  unfold openPort at hopen
  simp only at hopen
  split at hopen
  · cases hopen
    exact hasked
  · cases hopen
    exact hasked
  · rename_i device closed ports hports
    have hgiven : HasOut (some b.world.handedOut) (record
        { record b (.asked port baud responseTimeout openTimeout) with
          world := { (record b (.asked port baud responseTimeout openTimeout)).world with
            ports, handedOut := b.world.handedOut + 1 } } (.handedOut b.world.handedOut)) := by
      refine (custody_record hasked (.handedOut b.world.handedOut)).trans ?_
      rw [Custody.after, if_pos ⟨rfl, rfl⟩]
      rfl
    cases closed with
    | true =>
      cases hopen
      exact close_hasOut hgiven
    | false =>
      cases hopen
      exact hgiven

theorem invariant_hasOut :
    Invariant fun (_ : Nat) (stream : Option Stream) (b : Bench World) =>
      HasOut (stream.bind Stream.out) b where
  report _ h := h
  wait _ h := h
  retime _ h := h
  setTimeout _ h := h
  write data h := write_hasOut h data
  readUntil text ms h := readUntil_hasOut h text ms
  close h := close_hasOut h
  giveUp h := by
    have hgone := close_hasOut (close_hasOut h)
    rw [out_close] at hgone
    exact hgone
  refused _ _ h hopen := openPort_hasOut h hopen
  opened _ _ h hopen _ := openPort_hasOut h hopen
  openedClosed _ _ h hopen _ := by
    have hgone := close_hasOut (openPort_hasOut h hopen)
    rw [out_close] at hgone
    exact hgone

def fresh (ports : List Port) : Session Stream World := { bench := { world := { ports } } }

theorem operateAll_hasOut (ports : List Port) (ops : List Operation) :
    HasOut (((fresh ports).operateAll ops).stream.bind Stream.out)
      ((fresh ports).operateAll ops).bench := by
  refine invariant_hasOut.operateAll ?_ ?_
  · intro _ _ stream b h
    have hgone := close_hasOut h
    rw [out_close] at hgone
    exact hgone
  · exact rfl

/-- No device of a session is leaked, shared or released twice. -/
structure Accounted (s : Session Stream World) : Prop where
  distinct : (handedOut (callsOf s.bench)).Nodup
  /-- At any moment the devices handed out are those that have come back and at most one more. -/
  oneOut : ∀ earlier, earlier <+: callsOf s.bench →
    ∃ out : Option Nat, handedOut earlier = released earlier ++ out.toList
  noneOut : ∀ earlier port baud responseTimeout openTimeout,
    earlier ++ [.asked port baud responseTimeout openTimeout] <+: callsOf s.bench →
    handedOut earlier = released earlier
  balance : (released (callsOf s.bench)).length + s.isConnected.toNat =
    (handedOut (callsOf s.bench)).length

theorem accounted_of_hasOut {s : Session Stream World}
    (h : HasOut (s.stream.bind Stream.out) s.bench) : Accounted s := by
  obtain ⟨hnumbered, hbalance⟩ := accounts_of_custody h
  constructor
  · rw [hnumbered]
    exact List.nodup_range
  · intro earlier hprefix
    obtain ⟨c, hc⟩ := exists_custody_of_prefix h hprefix
    exact ⟨c.out, (accounts_of_custody hc).balance⟩
  · intro earlier port baud responseTimeout openTimeout hprefix
    obtain ⟨c', hc'⟩ := exists_custody_of_prefix h hprefix
    rw [custody_concat, Option.bind_eq_some_iff] at hc'
    obtain ⟨c, hc, hasked⟩ := hc'
    -- Had a device been out, it could not have been asked for another.
    have hnone : c.out = none := by
      by_contra hout
      rw [Custody.after, if_neg hout] at hasked
      cases hasked
    have hearlier := (accounts_of_custody hc).balance
    rw [hnone] at hearlier
    exact hearlier.trans (List.append_nil _)
  · rw [hbalance, List.length_append]
    congr 1
    unfold Session.isConnected
    cases s.stream with
    | none => rfl
    | some stream =>
      obtain ⟨name, _ | d, writeTimeout, pending⟩ := stream <;> rfl

theorem stream_of_exits (ports : List Port) (ops : List Operation) {exits : List Operation}
    (hsome : exits ≠ []) (hexits : ∀ exit ∈ exits, exit = .shutdown ∨ exit = .drop) :
    ((fresh ports).operateAll (ops ++ exits)).stream = none := by
  cases exits using List.reverseRecOn with
  | nil => exact absurd rfl hsome
  | append_singleton earlier last =>
    have hlast := hexits last (List.mem_append_right _ (List.mem_singleton_self last))
    have h := operateAll_hasOut ports (ops ++ earlier)
    rw [Session.operateAll, ← List.append_assoc, List.foldl_append]
    rcases hlast with rfl | rfl
    · exact (invariant_hasOut.shutdown h).2
    · exact Session.stream_drop _

/-- Whatever has been done with a session, its devices are accounted for. To shut it down or to drop
it, in any order and any number of times, gives every device back. -/
theorem devices_accounted (ports : List Port) (ops exits : List Operation) (hsome : exits ≠ [])
    (hexits : ∀ exit ∈ exits, exit = .shutdown ∨ exit = .drop) :
    Accounted ((fresh ports).operateAll ops) ∧
      Accounted ((fresh ports).operateAll (ops ++ exits)) ∧
      released (callsOf ((fresh ports).operateAll (ops ++ exits)).bench) =
        handedOut (callsOf ((fresh ports).operateAll (ops ++ exits)).bench) := by
  have hgone := operateAll_hasOut ports (ops ++ exits)
  refine ⟨accounted_of_hasOut (operateAll_hasOut ports ops), accounted_of_hasOut hgone, ?_⟩
  rw [stream_of_exits ports ops hsome hexits] at hgone
  have hbalance := (accounts_of_custody hgone).balance
  exact (hbalance.trans (List.append_nil _)).symm

def mixedPorts : List Port :=
  [.refusing "busy", .ready { id := 0, timeout := 0 } true, .ready { id := 0, timeout := 0 } false,
    .ready { id := 0, settings := [some "gone"], timeout := 0 } false]

def reopening : List Operation :=
  [.connect "a" 9600, .connect "a" 9600, .connect "b" 9600, .perform .cmd ["AT"],
    .connect "c" 9600, .perform .cmd ["AT"]]

theorem devices_accounted_of_reopening :
    [Operation.drop, .shutdown, .drop] ≠ [] ∧
      (∀ exit ∈ [Operation.drop, .shutdown, .drop], exit = .shutdown ∨ exit = .drop) ∧
      Accounted ((fresh mixedPorts).operateAll reopening) ∧
      released (callsOf ((fresh mixedPorts).operateAll
        (reopening ++ [.drop, .shutdown, .drop])).bench) = [0, 1, 2] := by
  have hsome : [Operation.drop, .shutdown, .drop] ≠ [] := List.cons_ne_nil _ _
  have hexits : ∀ exit ∈ [Operation.drop, .shutdown, .drop], exit = .shutdown ∨ exit = .drop := by
    simp
  obtain ⟨hops, -, hback⟩ := devices_accounted mixedPorts reopening _ hsome hexits
  refine ⟨hsome, hexits, hops, hback.trans ?_⟩
  decide +kernel

end SerialScript.Serial
