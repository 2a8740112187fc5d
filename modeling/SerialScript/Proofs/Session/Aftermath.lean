import SerialScript.Proofs.Serial.Custody
import SerialScript.Proofs.Session.Failing
import SerialScript.Proofs.Text.Occurrence

namespace SerialScript

/-- What can be asked of a transport, but for whether a stream is open. -/
inductive Request (S : Type) where
  | openPort (port : String) (baud : UInt32) (responseTimeout openTimeout : Nat)
  | close (stream : S)
  | setTimeout (ms : Nat) (stream : S)
  | write (data : List UInt8) (stream : S)
  | readUntil (text : String) (ms : Nat) (stream : S)
  | discard (stream : S)

def Request.closing? {S : Type} : Request S → Option S
  | .close stream => some stream
  | _ => none

structure Watched (S : Type) where
  stream : S

structure Watch (S W : Type) where
  world : W
  requests : List (Request S) := []

namespace Watch

variable {S W : Type}

def inside (b : Bench (Watch S W)) : Bench W := { b with world := b.world.world }

/-- What has become of a bench by a request. -/
def after (b : Bench (Watch S W)) (request : Request S) (b' : Bench W) : Bench (Watch S W) :=
  { b' with world := ⟨b'.world, b.world.requests ++ [request]⟩ }

/-- Any transport, with all that is asked of it kept in order. -/
instance [Transport S W] : Transport (Watched S) (Watch S W) where
  openPort port baud responseTimeout openTimeout b :=
    let (result, b') := Transport.openPort port baud responseTimeout openTimeout (inside b)
    (result.map Watched.mk, after b (.openPort port baud responseTimeout openTimeout) b')
  isOpen s := Transport.isOpen s.stream
  close s b :=
    let (stream, b') := Transport.close s.stream (inside b)
    (⟨stream⟩, after b (.close s.stream) b')
  setTimeout ms s b :=
    let (stream, b') := Transport.setTimeout ms s.stream (inside b)
    (⟨stream⟩, after b (.setTimeout ms s.stream) b')
  write data s b :=
    let (result, stream, b') := Transport.write data s.stream (inside b)
    (result, ⟨stream⟩, after b (.write data s.stream) b')
  readUntil text ms s b :=
    let (result, stream, b') := Transport.readUntil text ms s.stream (inside b)
    (result, ⟨stream⟩, after b (.readUntil text ms s.stream) b')
  discard s b := after b (.discard s.stream) (Transport.discard s.stream (inside b))

end Watch

/-- To talk to an open stream leaves it open, whether or not it succeeds. -/
structure KeepsOpen (S : Type) {W : Type} [Transport S W] : Prop where
  write : ∀ (data : List UInt8) (stream : S) (b : Bench W), Transport.isOpen stream = true →
    Transport.isOpen (Transport.write data stream b).2.1 = true
  readUntil : ∀ (text : String) (ms : Nat) (stream : S) (b : Bench W),
    Transport.isOpen stream = true →
    Transport.isOpen (Transport.readUntil text ms stream b).2.1 = true

namespace Memory

theorem readUntil_nothing {pattern : String} {ms : Nat} {stream stream' : Stream}
    {b b' : Bench Memory} {result : Outcome String} (hopen : stream.isOpen = true)
    (h : readUntil pattern ms stream b = (result, stream', b'))
    (hnothing : ∀ received, result = .ok received → received = "") :
    stream' = stream ∧ b' = if pattern = "" then b else b.wait ms := by
  unfold readUntil at h
  rw [if_pos hopen] at h
  cases hsearch : Text.takeThrough pattern.toList b.world.inbound.toList with
  | none =>
    have hpattern : pattern ≠ "" := by
      rintro rfl
      simp at hsearch
    rw [hsearch] at h
    cases h
    exact ⟨rfl, (if_neg hpattern).symm⟩
  | some cut =>
    obtain ⟨found, rest⟩ := cut
    rw [hsearch] at h
    cases h
    have hfound : found = [] := by simpa using hnothing _ rfl
    obtain ⟨happend, hend⟩ := Text.takeThrough_eq_some_iff.1 hsearch
    rw [hfound] at happend hend
    -- What was found ends with the pattern, so the pattern is empty and nothing was taken.
    have hpattern : pattern = "" := by
      have hnil : pattern.toList = [] := List.suffix_nil.1 hend.isSuffix
      simpa using hnil
    rw [List.nil_append] at happend
    refine ⟨rfl, ?_⟩
    rw [if_pos hpattern, happend, String.ofList_toList]

end Memory

namespace Serial

theorem released_record (b : Bench World) (call : Call) :
    released (callsOf (record b call)) =
      released (callsOf b) ++ call.released?.toList := by
  rw [callsOf_record, released_concat]

theorem released_close (stream : Stream) (b : Bench World) :
    released (callsOf (close stream b).2) = released (callsOf b) ++ stream.out.toList := by
  unfold close Stream.out
  cases stream.device with
  | none => simp
  | some d => exact released_record b (.released d.id)

theorem released_openPort {port : String} {baud : UInt32} {responseTimeout openTimeout : Nat}
    {b b' : Bench World} {result : Outcome Stream}
    (h : openPort port baud responseTimeout openTimeout b = (result, b'))
    (hclosed : ∀ stream, result = .ok stream → stream.isOpen = false) :
    ∃ rest, (rest = [] ∨ rest = [b.world.handedOut]) ∧
      released (callsOf b') = released (callsOf b) ++ rest := by
  have hasked : released (callsOf
      (record b (.asked port baud responseTimeout openTimeout))) =
      released (callsOf b) := by simp [released_record, Call.released?]
  unfold openPort at h
  simp only at h
  split at h
  · cases h
    exact ⟨[], .inl rfl, hasked.trans (List.append_nil _).symm⟩
  · cases h
    exact ⟨[], .inl rfl, hasked.trans (List.append_nil _).symm⟩
  · rename_i device closed ports hports
    cases closed with
    | true =>
      cases h
      refine ⟨[b.world.handedOut], .inr rfl, ?_⟩
      rw [released_close, released_record]
      simp only [Call.released?, Option.toList_none, List.append_nil]
      exact congrArg (· ++ [b.world.handedOut]) hasked
    | false =>
      cases h
      cases hclosed _ rfl

theorem isOpen_write (data : List UInt8) {stream : Stream} (b : Bench World)
    (hopen : stream.isOpen = true) : (write data stream b).2.1.isOpen = true := by
  unfold write
  cases hd : stream.device with
  | none => simp [Stream.isOpen, hd] at hopen
  | some d =>
    simp only
    rcases setDeviceTimeout stream.writeTimeout d b with ⟨stop | _, d₁, b₁⟩
    · rfl
    · simp only
      split
      · rfl
      · split <;> rfl

theorem isOpen_readUntil (text : String) (ms : Nat) {stream : Stream} (b : Bench World)
    (hopen : stream.isOpen = true) : (readUntil text ms stream b).2.1.isOpen = true := by
  have hfeed : (feed (b.clock + ms) stream.name stream.device b).All
      fun device _ => device.isSome = true := by
    apply (feeds_feed (b.clock + ms) stream.name stream.device b).all hopen
    · exact fun _ _ _ => rfl
    · exact fun _ _ _ _ _ _ _ _ _ _ => rfl
    · exact fun _ _ _ hsome => hsome
  have hread : (readBytes (Text.toBytes text) ms stream b).2.1.isOpen = true := by
    unfold readBytes
    split
    · exact hopen
    · rw [await_eq_scan]
      exact hfeed.scan _ _ _
  exact hread

theorem keepsOpen : KeepsOpen Stream where
  write data _ b hopen := isOpen_write data b hopen
  readUntil text ms _ b hopen := isOpen_readUntil text ms b hopen

end Serial

namespace Session

variable {k : Keyword} {arguments : List String}

section Any

variable {S W : Type} [Transport S W] {s s' : Session S W}

structure Aftermath (s : Session S W) (k : Keyword) (arguments : List String)
    (s' : Session S W) : Prop where
  refused : s.Refuses k arguments → s' = s
  unopened : ¬s.Refuses k arguments → k = .connect →
    s'.eol = s.eol ∧ s'.responseTimeout = s.responseTimeout ∧ s'.stream = none
  unserved : ¬s.Refuses k arguments → k ≠ .connect →
    (k = .cmd ∨ k = .eol ∨ k = .res) ∧ s'.eol = s.eol ∧ s'.responseTimeout = s.responseTimeout

theorem Fails.aftermath (h : s.Fails k arguments s') : s.Aftermath k arguments s' := by
  cases h with
  | refused hrefused =>
    exact ⟨fun _ => rfl, fun h => absurd hrefused h, fun h => absurd hrefused h⟩
  | unopened hd _ _ =>
    have hk : Keyword.connect = k := Directive.keyword_ofArguments hd
    exact ⟨fun h => absurd h (not_refuses hd (.inl hk.symm)), fun _ _ => ⟨rfl, rfl, rfl⟩,
      fun _ hne => absurd hk.symm hne⟩
  | unwritten hd hk _ hopen _ =>
    refine ⟨fun h => absurd h (not_refuses hd (.inr hopen)), ?_, ?_⟩
    · intro _ hconnect
      rw [hconnect] at hk
      simp at hk
    · exact fun _ _ => ⟨hk.imp_right .inl, rfl, rfl⟩
  | unread hd _ hopen _ _ =>
    have hk : Keyword.res = k := Directive.keyword_ofArguments hd
    refine ⟨fun h => absurd h (not_refuses hd (.inr hopen)), ?_, ?_⟩
    · intro _ hconnect
      rw [hconnect] at hk
      cases hk
    · exact fun _ _ => ⟨.inr (.inr hk.symm), rfl, rfl⟩

theorem Fails.isConnected (h : s.Fails k arguments s') (hkeeps : KeepsOpen S)
    (hnot : ¬s.Refuses k arguments) (hk : k ≠ .connect) : s'.isConnected = s.isConnected := by
  cases h with
  | refused hrefused => exact absurd hrefused hnot
  | unopened hd => exact absurd (Directive.keyword_ofArguments hd).symm hk
  | @unwritten d data stream stream' b stop _ _ hstream hconnected hwrite =>
    have hopen := hkeeps.write data stream s.bench (isOpen_of_isConnected hstream hconnected)
    rw [hwrite] at hopen
    exact hopen.trans hconnected.symm
  | @unread pattern stream stream' b result _ hstream hconnected hread _ =>
    have hopen := hkeeps.readUntil pattern s.responseTimeout stream s.bench
      (isOpen_of_isConnected hstream hconnected)
    rw [hread] at hopen
    exact hopen.trans hconnected.symm

end Any

section Watch

variable {S W : Type} [Transport S W] {s s' : Session (Watched S) (Watch S W)}

theorem requests_letGo (s : Session (Watched S) (Watch S W)) :
    ∃ requests, s.letGo.world.requests = s.bench.world.requests ++ requests ∧
      requests.filterMap Request.closing? = s.stream.toList.map Watched.stream := by
  unfold letGo
  cases s.stream with
  | none => exact ⟨[], (List.append_nil _).symm, rfl⟩
  | some held =>
    refine ⟨[.close held.stream, .discard (Transport.close held.stream (Watch.inside s.bench)).1],
      ?_, rfl⟩
    simp [Transport.close, Transport.discard, Watch.after]

theorem requests_of_unopened {port : String} {baud : UInt32} {responseTimeout : Nat}
    {b b' : Bench (Watch S W)} (h : Unopened (S := Watched S) port baud responseTimeout b b') :
    ∃ requests, b'.world.requests = b.world.requests ++ requests ∧
      requests.filterMap Request.closing? = [] := by
  cases h with
  | refused hopen =>
    refine ⟨[.openPort port baud responseTimeout openTimeout], ?_, rfl⟩
    have hb := congrArg (fun o => o.2.world.requests) hopen
    exact hb.symm
  | @closed b' stream hopen _ =>
    refine ⟨[.openPort port baud responseTimeout openTimeout, .discard stream.stream], ?_, rfl⟩
    have hb : b.world.requests ++ [.openPort port baud responseTimeout openTimeout] =
        b'.world.requests := congrArg (fun o => o.2.world.requests) hopen
    simp [Transport.discard, Watch.after, ← hb]

/-- A `CONNECT` that fails has closed the stream there was, once, and no other. -/
theorem Fails.requests (h : s.Fails .connect arguments s')
    (hnot : ¬s.Refuses .connect arguments) :
    ∃ requests, s'.bench.world.requests = s.bench.world.requests ++ requests ∧
      requests.filterMap Request.closing? = s.stream.toList.map Watched.stream := by
  obtain ⟨port, baud, b, b', hworld, hunopened, rfl⟩ := h.of_connect hnot
  obtain ⟨before, hbefore, hclosing⟩ := requests_letGo { s with bench := b }
  obtain ⟨later, hlater, hnone⟩ := requests_of_unopened hunopened
  refine ⟨before ++ later, ?_, ?_⟩
  · rw [hlater, hbefore, hworld, List.append_assoc]
  · rw [List.filterMap_append, hclosing, hnone, List.append_nil]

end Watch

section Memory

variable {s s' : Session Memory.Stream Memory}

theorem closes_letGo (s : Session Memory.Stream Memory) :
    s.letGo.world.closes = s.bench.world.closes + s.isConnected.toNat := by
  unfold letGo isConnected
  cases s.stream with
  | none => rfl
  | some held =>
    cases hopen : held.isOpen <;>
      simp [Transport.close, Transport.discard, Transport.isOpen, Memory.close, hopen]

theorem closes_of_unopened {port : String} {baud : UInt32} {responseTimeout : Nat}
    {b b' : Bench Memory}
    (h : Unopened (S := Memory.Stream) port baud responseTimeout b b') :
    b'.world.closes = b.world.closes := by
  have hopened : ∀ result b', Memory.openPort port baud responseTimeout openTimeout b =
      (result, b') → b'.world.closes = b.world.closes := by
    intro result b' hopen
    unfold Memory.openPort at hopen
    split at hopen <;> cases hopen <;> rfl
  cases h with
  | refused hopen => exact hopened _ _ hopen
  | closed hopen _ => exact hopened _ _ hopen

theorem Fails.closes (h : s.Fails .connect arguments s') (hnot : ¬s.Refuses .connect arguments) :
    s'.bench.world.closes = s.bench.world.closes + s.isConnected.toNat := by
  obtain ⟨port, baud, b, b', hworld, hunopened, rfl⟩ := h.of_connect hnot
  have hclosed := closes_letGo { s with bench := b }
  rw [closes_of_unopened hunopened, hclosed, hworld]
  rfl

/-- On a stream in memory a `RES` fails because what it waits for is not there, and then it only
waits. To wait for nothing takes no time, and fails as well. -/
theorem Fails.only_waits (h : s.Fails k arguments s') (hnot : ¬s.Refuses k arguments)
    (hk : k ≠ .connect) :
    k = .res ∧ s' = if Directive.phrase arguments = "" then s
      else { s with bench := s.bench.wait s.responseTimeout } := by
  cases h with
  | refused hrefused => exact absurd hrefused hnot
  | unopened hd => exact absurd (Directive.keyword_ofArguments hd).symm hk
  | @unwritten d data stream stream' b stop _ _ hstream hconnected hwrite =>
    -- A stream in memory that is open takes every write.
    have hopen : stream.isOpen = true := isOpen_of_isConnected hstream hconnected
    simp only [Transport.write, Memory.write, hopen, if_true] at hwrite
    cases hwrite
  | @unread pattern stream stream' b result hd hstream hconnected hread hnothing =>
    have hres : Keyword.res = k := Directive.keyword_ofArguments hd
    subst hres
    obtain ⟨first, -, hphrase⟩ := Directive.withFirst_eq_ok hd
    cases hphrase
    have hopen : stream.isOpen = true := isOpen_of_isConnected hstream hconnected
    obtain ⟨hsame, hb⟩ := Memory.readUntil_nothing hopen hread hnothing
    refine ⟨rfl, ?_⟩
    rw [hsame, hb, ← hstream]
    split <;> rfl

end Memory

section Serial

open Serial (callsOf released released_close released_openPort)

variable {s s' : Session Serial.Stream Serial.World}

theorem released_letGo (s : Session Serial.Stream Serial.World) :
    released (callsOf s.letGo) =
      released (callsOf s.bench) ++ (s.stream.bind Serial.Stream.out).toList := by
  unfold letGo
  cases s.stream with
  | none => exact (List.append_nil _).symm
  | some held =>
    have hclosed := released_close held s.bench
    have hgone := released_close (Serial.close held s.bench).1 (Serial.close held s.bench).2
    rw [Serial.out_close, Option.toList_none, List.append_nil] at hgone
    exact hgone.trans hclosed

theorem released_of_unopened {port : String} {baud : UInt32} {responseTimeout : Nat}
    {b b' : Bench Serial.World}
    (h : Unopened (S := Serial.Stream) port baud responseTimeout b b') :
    ∃ rest, (rest = [] ∨ rest = [b.world.handedOut]) ∧
      released (callsOf b') = released (callsOf b) ++ rest := by
  cases h with
  | refused hopen =>
    apply released_openPort hopen
    intro stream hstream
    cases hstream
  | @closed b' stream hopen hclosed =>
    obtain ⟨rest, hrest, hreleased⟩ := released_openPort hopen fun stream' h => by
      cases h
      exact hclosed
    have hnone : stream.device = none := by
      simpa [Transport.isOpen, Serial.Stream.isOpen] using hclosed
    have hgone := released_close stream b'
    rw [Serial.Stream.out, hnone, Option.map_none, Option.toList_none, List.append_nil] at hgone
    exact ⟨rest, hrest, hgone.trans hreleased⟩

theorem handedOut_letGo (s : Session Serial.Stream Serial.World) :
    s.letGo.world.handedOut = s.bench.world.handedOut := by
  have hclose : ∀ (stream : Serial.Stream) (b : Bench Serial.World),
      (Serial.close stream b).2.world.handedOut = b.world.handedOut := by
    intro stream b
    unfold Serial.close
    cases stream.device <;> rfl
  unfold letGo
  cases s.stream with
  | none => rfl
  | some held => exact (hclose _ _).trans (hclose held s.bench)

/-- The device there was has come back, once; besides it only one that came with its port closed. -/
theorem Fails.released (h : s.Fails .connect arguments s')
    (hnot : ¬s.Refuses .connect arguments) :
    ∃ rest, (rest = [] ∨ rest = [s.bench.world.handedOut]) ∧
      Serial.released (callsOf s'.bench) =
        Serial.released (callsOf s.bench) ++ (s.stream.bind Serial.Stream.out).toList ++ rest := by
  obtain ⟨port, baud, b, b', hworld, hunopened, rfl⟩ := h.of_connect hnot
  have hcalls : callsOf b = callsOf s.bench := by
    unfold callsOf
    rw [hworld]
  have hgone := released_letGo { s with bench := b }
  obtain ⟨rest, hrest, hreleased⟩ := released_of_unopened hunopened
  rw [handedOut_letGo, hworld] at hrest
  refine ⟨rest, hrest, ?_⟩
  rw [hreleased, hgone, hcalls]

end Serial

/-- What a directive that fails leaves behind, on any transport; what it has asked of the transport;
and what has become of the stream, in memory and on serial ports. `KeepsOpen` is asked only of
transports other than these two. A wait for the empty phrase fails without time passing, since the
empty text is found at once and is taken for a wait in vain. -/
theorem aftermath_of_failure :
    (∀ {S W : Type} [Transport S W] {s s' : Session S W} {k : Keyword} {arguments : List String}
      {stop : Stop}, s.perform k arguments = (.error stop, s') →
      s.Aftermath k arguments s' ∧ (KeepsOpen S → ¬s.Refuses k arguments → k ≠ .connect →
        s'.isConnected = s.isConnected)) ∧
    (∀ {S W : Type} [Transport S W] {s s' : Session (Watched S) (Watch S W)} {k : Keyword}
      {arguments : List String} {stop : Stop}, s.perform k arguments = (.error stop, s') →
      (s.Refuses k arguments → s'.bench.world.requests = s.bench.world.requests) ∧
      (¬s.Refuses k arguments → k = .connect → ∃ requests,
        s'.bench.world.requests = s.bench.world.requests ++ requests ∧
        requests.filterMap Request.closing? = s.stream.toList.map Watched.stream)) ∧
    (∀ {s s' : Session Memory.Stream Memory} {k : Keyword} {arguments : List String} {stop : Stop},
      s.perform k arguments = (.error stop, s') → ¬s.Refuses k arguments →
      (k = .connect → s'.bench.world.closes = s.bench.world.closes + s.isConnected.toNat) ∧
      (k ≠ .connect → k = .res ∧ s' = if Directive.phrase arguments = "" then s
        else { s with bench := s.bench.wait s.responseTimeout })) ∧
    (∀ {s s' : Session Serial.Stream Serial.World} {k : Keyword} {arguments : List String}
      {stop : Stop}, s.perform k arguments = (.error stop, s') → ¬s.Refuses k arguments →
      (k = .connect → ∃ rest, (rest = [] ∨ rest = [s.bench.world.handedOut]) ∧
        Serial.released (Serial.callsOf s'.bench) = Serial.released (Serial.callsOf s.bench) ++
          (s.stream.bind Serial.Stream.out).toList ++ rest) ∧
      (k ≠ .connect → s'.isConnected = s.isConnected)) := by
  refine ⟨?_, ?_, ?_, ?_⟩
  · intro S W _ s s' k arguments stop h
    exact ⟨(perform_error h).aftermath, (perform_error h).isConnected⟩
  · intro S W _ s s' k arguments stop h
    constructor
    · intro hrefused
      rw [(perform_error h).aftermath.refused hrefused]
    · rintro hnot rfl
      exact (perform_error h).requests hnot
  · intro s s' k arguments stop h hnot
    constructor
    · rintro rfl
      exact (perform_error h).closes hnot
    · exact (perform_error h).only_waits hnot
  · intro s s' k arguments stop h hnot
    constructor
    · rintro rfl
      exact (perform_error h).released hnot
    · exact (perform_error h).isConnected Serial.keepsOpen hnot

def busy : Session Memory.Stream Memory :=
  { stream := some ⟨true⟩, bench := { world := { isOpen := true, refusal := some "busy" } } }

def busyWatched : Session (Watched Memory.Stream) (Watch Memory.Stream Memory) :=
  { stream := some ⟨⟨true⟩⟩,
    bench := { world := { world := { isOpen := true, refusal := some "busy" } } } }

def gone : Session Serial.Stream Serial.World :=
  { stream := some
      { name := "p", device := some { id := 0, settings := [some "gone"], timeout := 0 },
        writeTimeout := 0 }
    bench := { world := { handedOut := 1 } } }

theorem aftermath_of_failure_of_busy :
    (busy.perform .delay ["soon"]).2 = busy ∧
      (busy.perform .res ["OK"]).2 = { busy with bench := busy.bench.wait 1000 } ∧
      (busy.perform .connect ["p", "9600"]).2.bench.world.closes = 1 ∧
      (∃ requests,
        (busyWatched.perform .connect ["p", "9600"]).2.bench.world.requests = requests ∧
          requests.filterMap Request.closing? = [⟨true⟩]) ∧
      (gone.perform .eol []).2.isConnected = true := by
  obtain ⟨hany, hwatched, hmemory, hserial⟩ := aftermath_of_failure
  have hdelay : (busy.perform .delay ["soon"]).1 =
      .fail (.notACount "DELAY" "time value" "soon") := by decide +kernel
  have hres : (busy.perform .res ["OK"]).1 = .fail (.noResponse 1000 "OK") := by decide +kernel
  have hconnect : (busy.perform .connect ["p", "9600"]).1 =
      .fail (.during .connecting (.reported "busy")) := by decide +kernel
  have hconnect' : (busyWatched.perform .connect ["p", "9600"]).1 =
      .fail (.during .connecting (.reported "busy")) := by decide +kernel
  have heol : (gone.perform .eol []).1 = .fail (.during .sendingEol (.reported "gone")) := by
    decide +kernel
  have hvalid : Directive.ofArguments .connect ["p", "9600"] = .ok (.connect "p" 9600) := rfl
  refine ⟨?_, ?_, ?_, ?_, ?_⟩
  · exact (hany (Prod.ext hdelay rfl)).1.refused (.inl ⟨_, rfl⟩)
  · have hnot : ¬busy.Refuses .res ["OK"] := not_refuses (d := .res "OK") rfl (.inr rfl)
    obtain ⟨-, hwaits⟩ := (hmemory (Prod.ext hres rfl) hnot).2 (by decide)
    have hsome : Directive.phrase ["OK"] ≠ "" := by decide
    exact hwaits.trans (if_neg hsome)
  · exact (hmemory (Prod.ext hconnect rfl) (not_refuses hvalid (.inl rfl))).1 rfl
  · exact (hwatched (Prod.ext hconnect' rfl)).2 (not_refuses hvalid (.inl rfl)) rfl
  · have hnot : ¬gone.Refuses .eol [] := not_refuses (d := .eol) rfl (.inr rfl)
    exact (hserial (Prod.ext heol rfl) hnot).2 (by decide)

end Session

end SerialScript
