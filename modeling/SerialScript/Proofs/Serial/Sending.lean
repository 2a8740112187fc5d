import SerialScript.Proofs.Closing
import SerialScript.Proofs.Serial.Custody

namespace SerialScript.Serial

/-- The bytes that a call has brought over to its device. -/
def Call.accepted : Call → List UInt8
  | .write _ (some bytes) => bytes
  | _ => []

def accepted (calls : List Call) : List UInt8 := calls.flatMap Call.accepted

def Call.Offers (timeout : Nat) (call : Call) : Prop := ∃ taken, call = .write timeout taken

theorem offers_write (timeout : Nat) (taken : Option (List UInt8)) :
    (Call.write timeout taken).Offers timeout := ⟨taken, rfl⟩

theorem writeAll_offers (timeout : Nat) (data : List UInt8) (acceptances : List Acceptance) :
    ∀ call ∈ (writeAll timeout data acceptances).2.1, call.Offers timeout := by
  fun_induction writeAll timeout data acceptances with
  | case1 later => exact List.forall_mem_nil _
  | case2 data hdata => exact List.forall_mem_singleton.2 (offers_write _ _)
  | case3 data later hdata => exact List.forall_mem_singleton.2 (offers_write _ _)
  | case4 data f later hdata hkind result calls left hlater ih =>
    rw [hlater] at ih
    exact List.forall_mem_cons.2 ⟨offers_write _ _, ih⟩
  | case5 data f later hdata hkind => exact List.forall_mem_singleton.2 (offers_write _ _)
  | case6 data later hdata => exact List.forall_mem_singleton.2 (offers_write _ _)
  | case7 data count later hdata call hcount result calls left hlater ih =>
    rw [hlater] at ih
    exact List.forall_mem_cons.2 ⟨offers_write _ _, ih⟩

/-- What is accepted and what is not are the data, and nothing is left exactly if all went well. -/
theorem writeAll_accepted (timeout : Nat) (data : List UInt8) (acceptances : List Acceptance) :
    ∃ rest, data = accepted (writeAll timeout data acceptances).2.1 ++ rest ∧
      ((writeAll timeout data acceptances).1 = .ok () ↔ rest = []) := by
  fun_induction writeAll timeout data acceptances with
  | case1 later => exact ⟨[], rfl, iff_of_true rfl rfl⟩
  | case2 data hdata => exact ⟨[], by simp [accepted, Call.accepted], iff_of_true rfl rfl⟩
  | case3 data later hdata => exact ⟨[], by simp [accepted, Call.accepted], iff_of_true rfl rfl⟩
  | case4 data f later hdata hkind result calls left hlater ih =>
    rw [hlater] at ih
    exact ih
  | case5 data f later hdata hkind => exact ⟨data, rfl, iff_of_false (by simp) hdata⟩
  | case6 data later hdata => exact ⟨data, rfl, iff_of_false (by simp) hdata⟩
  | case7 data count later hdata call hcount result calls left hlater ih =>
    rw [hlater] at ih
    obtain ⟨rest, hrest, hresult⟩ := ih
    refine ⟨rest, ?_, hresult⟩
    calc data = data.take count ++ data.drop count := (List.take_append_drop count data).symm
      _ = data.take count ++ (accepted calls ++ rest) := congrArg _ hrest
      _ = accepted (call :: calls) ++ rest := (List.append_assoc _ _ _).symm

theorem callsOf_recordAll (b : Bench World) (calls : List Call) :
    callsOf (calls.foldl record b) = callsOf b ++ calls := by
  induction calls generalizing b with
  | nil => simp
  | cons call later ih => simp [ih, callsOf_record]

/-- All that a write can come to, stage by stage, with the calls that it has made. -/
inductive Sends (s : Stream) (d : Device) (data : List UInt8) : Outcome Unit → List Call → Prop where
  | refused {reason} : (d.setTimeout s.writeTimeout).1 = some reason →
      Sends s d data (.fail (.reported reason)) []
  | brokenOff {cause offers rest} : (d.setTimeout s.writeTimeout).1 = none →
      (∀ call ∈ offers, call.Offers s.writeTimeout) → data = accepted offers ++ rest →
      Sends s d data (.fail (.during (.writingTo s.name) cause))
        (.timeoutSet s.writeTimeout :: offers)
  | unflushed {f offers} : (d.setTimeout s.writeTimeout).1 = none →
      (∀ call ∈ offers, call.Offers s.writeTimeout) → data = accepted offers →
      d.flush.1 = some f →
      Sends s d data (.fail (.reported f.message))
        (.timeoutSet s.writeTimeout :: offers ++ [.flush])
  | sent {offers} : (d.setTimeout s.writeTimeout).1 = none →
      (∀ call ∈ offers, call.Offers s.writeTimeout) → data = accepted offers →
      d.flush.1 = none →
      Sends s d data (.ok ()) (.timeoutSet s.writeTimeout :: offers ++ [.flush])

/-- The next flush is answered as the script of the device has it, whatever else has changed. -/
theorem flush_answer {d d' : Device} (h : d'.flushes = d.flushes) : d.flush.1 = d'.flush.1 := by
  unfold Device.flush
  rw [h]
  cases d.flushes <;> rfl

theorem write_sends (data : List UInt8) {s : Stream} {d : Device} (b : Bench World)
    (hd : s.device = some d) :
    ∃ d' calls, (write data s b).2.1 = { s with device := some d' } ∧
      callsOf (write data s b).2.2 = callsOf b ++ calls ∧
      Sends s d data (write data s b).1 calls := by
  unfold write setDeviceTimeout
  simp only [hd]
  rcases hset : d.setTimeout s.writeTimeout with ⟨_ | reason, d₁⟩
  · have hset₁ : (d.setTimeout s.writeTimeout).1 = none := congrArg Prod.fst hset
    have hd₁ := setTimeout_none hset
    have htimeout : d₁.timeout = s.writeTimeout := by rw [hd₁]
    have hflushes : d₁.flushes = d.flushes := by rw [hd₁]
    have hoffers := writeAll_offers d₁.timeout data d₁.acceptances
    obtain ⟨rest, hdata, hresult⟩ := writeAll_accepted d₁.timeout data d₁.acceptances
    rcases hall : writeAll d₁.timeout data d₁.acceptances with ⟨result, offers, acceptances⟩
    rw [hall] at hoffers hdata hresult
    rw [htimeout] at hoffers
    -- The timeout is set now; what follows is one call for each offer, and then the flush.
    let b₁ := (record b (.timeoutSet s.writeTimeout)).report (traceBytes s.name "write" data)
    have hcalls : callsOf (offers.foldl record b₁) =
        callsOf b ++ .timeoutSet s.writeTimeout :: offers := by
      have htold : callsOf b₁ = callsOf b ++ [.timeoutSet s.writeTimeout] := callsOf_record b _
      rw [callsOf_recordAll, htold, List.append_assoc, List.singleton_append]
    simp only [hall]
    cases result with
    | error cause => exact ⟨_, _, rfl, hcalls, .brokenOff hset₁ hoffers hdata⟩
    | ok _ =>
      have hwhole : data = accepted offers := by simpa [hresult.1 rfl] using hdata
      have hflushed : callsOf (record (offers.foldl record b₁) .flush) =
          callsOf b ++ (.timeoutSet s.writeTimeout :: offers ++ [.flush]) := by
        rw [callsOf_record, hcalls, List.append_assoc]
      have hanswer : d.flush.1 = (Device.flush { d₁ with acceptances }).1 := flush_answer hflushes
      rcases hflush : Device.flush { d₁ with acceptances } with ⟨_ | f, d₂⟩
      · rw [hflush] at hanswer
        exact ⟨_, _, rfl, hflushed, .sent hset₁ hoffers hwhole hanswer⟩
      · rw [hflush] at hanswer
        exact ⟨_, _, rfl, hflushed, .unflushed hset₁ hoffers hwhole hanswer⟩
  · exact ⟨_, [], rfl, (List.append_nil _).symm, .refused (congrArg Prod.fst hset)⟩

theorem writeTimeout_scan (cut : Cut) (pattern : List UInt8) (s : Stream) (f : Feed) :
    (f.scan cut pattern s).2.1.writeTimeout = s.writeTimeout := by
  induction f generalizing s with
  | timeUp device b =>
    simp only [Feed.scan]
    cases cut s.pending <;> rfl
  | failed cause device b => rfl
  | arrival chunk device b later ih =>
    simp only [Feed.scan]
    cases Text.takeThrough pattern (s.pending ++ chunk) with
    | some taken => rfl
    | none =>
      cases cut (s.pending ++ chunk) with
      | none => rfl
      | some kept => exact ih _

theorem writeTimeout_readUntil (text : String) (ms : Nat) (s : Stream) (b : Bench World) :
    (readUntil text ms s b).2.1.writeTimeout = s.writeTimeout := by
  simp only [readUntil, readBytes]
  cases Text.takeThrough (Text.toBytes text) s.pending with
  | some taken => rfl
  | none =>
    simp only [await_eq_scan]
    exact writeTimeout_scan _ _ s _

/-- No call changes the timeout that a stream has for its writes. -/
theorem writeTimeout_make (s : Stream) (b : Bench World) (use : StreamUse) :
    (use.make s b).1.writeTimeout = s.writeTimeout := by
  cases use with
  | write data =>
    simp only [StreamUse.make, Transport.write]
    cases hd : s.device with
    | none => simp [(givenUp_of_device hd).write]
    | some d =>
      obtain ⟨d', calls, hs, -⟩ := write_sends data b hd
      simp [hs]
  | readUntil text ms => exact writeTimeout_readUntil text ms s b
  | setTimeout ms => rfl
  | close =>
    simp only [StreamUse.make, Transport.close, close]
    cases s.device <;> rfl

theorem writeTimeout_useAll (s : Stream) (b : Bench World) (uses : List StreamUse) :
    (useAll s b uses).1.writeTimeout = s.writeTimeout := by
  have hmake : ∀ (s' : Stream) (b' : Bench World) (use : StreamUse),
      s'.writeTimeout = s.writeTimeout → (use.make s' b').1.writeTimeout = s.writeTimeout := by
    intro s' b' use h
    exact (writeTimeout_make s' b' use).trans h
  exact useAll_induction (P := fun s' : Stream => s'.writeTimeout = s.writeTimeout) hmake rfl uses

section Sends

variable {s : Stream} {d : Device} {data : List UInt8} {result : Outcome Unit} {calls : List Call}

theorem accepted_whole (timeout : Nat) (offers : List Call) :
    accepted (.timeoutSet timeout :: offers ++ [.flush]) = accepted offers := by
  simp [accepted, Call.accepted]

theorem flush_notMem_of_offers {timeout : Nat} {offers : List Call}
    (h : ∀ call ∈ offers, call.Offers timeout) : Call.flush ∉ offers := by
  intro hmem
  obtain ⟨taken, htaken⟩ := h _ hmem
  cases htaken

theorem Sends.succeeded (h : Sends s d data result calls) (hresult : result = .ok ()) :
    accepted calls = data ∧ calls.count .flush = 1 := by
  cases h with
  | refused => cases hresult
  | brokenOff => cases hresult
  | unflushed => cases hresult
  | @sent offers _ hoffers hdata _ =>
    constructor
    · exact (accepted_whole _ offers).trans hdata.symm
    · simp [List.count_eq_zero.2 (flush_notMem_of_offers hoffers)]

theorem Sends.accepted_prefix (h : Sends s d data result calls) : accepted calls <+: data := by
  cases h with
  | refused => exact List.nil_prefix
  | brokenOff _ _ hdata => exact ⟨_, hdata.symm⟩
  | @unflushed _ offers _ _ hdata _ => exact ⟨[], by rw [accepted_whole, List.append_nil, hdata]⟩
  | @sent offers _ _ hdata _ => exact ⟨[], by rw [accepted_whole, List.append_nil, hdata]⟩

theorem Sends.of_flush (h : Sends s d data result calls) {f : Failure} (hf : d.flush.1 = some f)
    (hmem : Call.flush ∈ calls) : result = .fail (.reported f.message) ∧ accepted calls = data := by
  cases h with
  | refused => cases hmem
  | brokenOff _ hoffers =>
    have hnot := flush_notMem_of_offers hoffers
    simp [hnot] at hmem
  | @unflushed f' offers _ _ hdata hanswer =>
    cases hf.symm.trans hanswer
    exact ⟨rfl, (accepted_whole _ offers).trans hdata.symm⟩
  | sent _ _ _ hanswer => cases hf.symm.trans hanswer

theorem Sends.of_setTimeout (h : Sends s d data result calls) {reason : String}
    (hreason : (d.setTimeout s.writeTimeout).1 = some reason) :
    result = .fail (.reported reason) ∧ accepted calls = [] := by
  cases h with
  | refused hanswer =>
    cases hreason.symm.trans hanswer
    exact ⟨rfl, rfl⟩
  | brokenOff hanswer => cases hreason.symm.trans hanswer
  | unflushed hanswer => cases hreason.symm.trans hanswer
  | sent hanswer => cases hreason.symm.trans hanswer

theorem Sends.timeout (h : Sends s d data result calls) {timeout : Nat}
    {taken : Option (List UInt8)} (hmem : Call.write timeout taken ∈ calls) :
    timeout = s.writeTimeout := by
  have hoffer : ∀ call : Call, call.Offers s.writeTimeout → call = .write timeout taken →
      timeout = s.writeTimeout := by
    rintro call ⟨taken', rfl⟩ heq
    cases heq
    rfl
  cases h with
  | refused => cases hmem
  | brokenOff _ hoffers => exact hoffer _ (hoffers _ (by simpa using hmem)) rfl
  | unflushed _ hoffers => exact hoffer _ (hoffers _ (by simpa using hmem)) rfl
  | sent _ hoffers => exact hoffer _ (hoffers _ (by simpa using hmem)) rfl

end Sends

/-- After any use of a stream that leaves it open, a write that succeeds has brought exactly the data
over and flushed once. One that fails has brought a first part over: all of it if the flush failed,
nothing if the timeout could not be set. What is pending stays, and no data is ever offered under
another timeout than the one that the stream was opened with for its writes. -/
theorem write_brings_over (s₀ : Stream) (b₀ : Bench World) (uses : List StreamUse) (d : Device)
    (hopen : (useAll s₀ b₀ uses).1.device = some d) (data : List UInt8) :
    let s := (useAll s₀ b₀ uses).1
    let b := (useAll s₀ b₀ uses).2
    let outcome := write data s b
    ∃ calls, callsOf outcome.2.2 = callsOf b ++ calls ∧
      outcome.2.1.pending = s.pending ∧
      (outcome.1 = .ok () → accepted calls = data ∧ calls.count .flush = 1) ∧
      (outcome.1 ≠ .ok () → accepted calls <+: data) ∧
      (∀ f, d.flush.1 = some f → Call.flush ∈ calls →
        outcome.1 = .fail (.reported f.message) ∧ accepted calls = data) ∧
      (∀ reason, (d.setTimeout s.writeTimeout).1 = some reason →
        outcome.1 = .fail (.reported reason) ∧ accepted calls = []) ∧
      ∀ timeout taken, Call.write timeout taken ∈ calls → timeout = s₀.writeTimeout := by
  intro s b outcome
  have hsame : s.writeTimeout = s₀.writeTimeout := writeTimeout_useAll s₀ b₀ uses
  obtain ⟨d', calls, hs, hcalls, hsends⟩ := write_sends data b hopen
  refine ⟨calls, hcalls, ?_, hsends.succeeded, fun _ => hsends.accepted_prefix, ?_, ?_, ?_⟩
  · simp [outcome, s, hs]
  · intro f hf hmem
    exact hsends.of_flush hf hmem
  · intro reason hreason
    exact hsends.of_setTimeout hreason
  · intro timeout taken hmem
    exact (hsends.timeout hmem).trans hsame

def grudging : Device where
  id := 0
  acceptances := [.failing { kind := .interrupted, message := "again" }, .atMost 2]
  timeout := 1000

def waitedInVain : Stream × Bench World :=
  useAll { name := "p", device := some grudging, writeTimeout := 1000 } { world := {} }
    [.readUntil "OK" 50]

theorem write_brings_over_of_grudging :
    (∃ d, waitedInVain.1.device = some d) ∧
      (write [0x41, 0x54, 0x0D] waitedInVain.1 waitedInVain.2).1 = .ok () ∧
      ∃ calls, callsOf (write [0x41, 0x54, 0x0D] waitedInVain.1 waitedInVain.2).2.2 =
          callsOf waitedInVain.2 ++ calls ∧
        accepted calls = [0x41, 0x54, 0x0D] ∧ calls.count .flush = 1 ∧
        ∀ timeout taken, Call.write timeout taken ∈ calls → timeout = 1000 := by
  have hopen : waitedInVain.1.isOpen = true := by decide +kernel
  obtain ⟨d, hd⟩ := Option.isSome_iff_exists.1 hopen
  have hok : (write [0x41, 0x54, 0x0D] waitedInVain.1 waitedInVain.2).1 = .ok () := by
    decide +kernel
  obtain ⟨calls, hcalls, -, hdone, -, -, -, htimeout⟩ :=
    write_brings_over { name := "p", device := some grudging, writeTimeout := 1000 }
      { world := {} } [.readUntil "OK" 50] d hd [0x41, 0x54, 0x0D]
  obtain ⟨haccepted, hflush⟩ := hdone hok
  exact ⟨⟨d, hd⟩, hok, calls, hcalls, haccepted, hflush, htimeout⟩

end SerialScript.Serial
