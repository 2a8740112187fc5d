import SerialScript.Proofs.Serial.Conservation

namespace SerialScript.Serial

open Backlog (capacity)

inductive Use where
  | write (data : List UInt8)
  | setTimeout (ms : Nat)
  | readUntil (text : String) (ms : Nat)

structure Match where
  found : List UInt8
  left : List UInt8
  deriving DecidableEq

/-- The match that a wait for a text has come to. A wait for the empty text matches nothing. -/
def matchOf (text : String) : Outcome Found × Stream × Bench World → Option Match
  | (.ok (some found), s, _) => if text = "" then none else some { found, left := s.pending }
  | _ => none

def Use.perform (s : Stream) (b : Bench World) : Use → Option Match × Stream × Bench World
  | .write data => (none, (Serial.write data s b).2)
  | .setTimeout ms => (none, Serial.setTimeout ms s b)
  | .readUntil text ms =>
    (matchOf text (readBytes (Text.toBytes text) ms s b), (Serial.readUntil text ms s b).2)

theorem perform_of_match {text : String} {ms : Nat} {found : List UInt8} {s s' : Stream}
    {b b' : Bench World} (htext : text ≠ "")
    (h : readBytes (Text.toBytes text) ms s b = (.ok (some found), s', b')) :
    (Use.readUntil text ms).perform s b = (some { found, left := s'.pending }, s', b') := by
  simp only [Use.perform, readUntil, h, matchOf]
  rw [if_neg htext]

theorem perform_of_failed {text : String} {ms : Nat} {cause : Fault} {s s' : Stream}
    {b b' : Bench World} (h : readBytes (Text.toBytes text) ms s b = (.fail cause, s', b')) :
    (Use.readUntil text ms).perform s b = (none, s', b') := by
  simp only [Use.perform, readUntil, h]
  rfl

/-- Makes calls one after another, whether or not they fail, and tells the matches in order. -/
def performAll (s : Stream) (b : Bench World) : List Use → List Match × Stream × Bench World
  | [] => ([], s, b)
  | use :: later =>
    let (found, s, b) := use.perform s b
    let (matches', s, b) := performAll s b later
    (found.toList ++ matches', s, b)

def Use.Short : Use → Prop
  | .readUntil text _ => (Text.toBytes text).length ≤ 10001
  | _ => True

instance : DecidablePred Use.Short
  | .readUntil text _ => inferInstanceAs (Decidable ((Text.toBytes text).length ≤ 10001))
  | .write _ => inferInstanceAs (Decidable True)
  | .setTimeout _ => inferInstanceAs (Decidable True)

structure Stretch extends Match where
  dropped : List UInt8

def Stretch.bytes (x : Stretch) : List UInt8 := x.dropped ++ x.found

/-- The books of a stream whose device had all these bytes to deliver: the stretches up to the last
match, and what was dropped after it. -/
structure Balanced (all : List UInt8) (stretches : List Stretch) (dropped : List UInt8)
    (s : Stream) : Prop where
  inOrder : ∃ d, s.device = some d ∧
    all = stretches.flatMap Stretch.bytes ++ (dropped ++ (s.pending ++ d.undelivered))
  atMost : s.pending.length ≤ 10000
  atLeast : min (dropped.length + s.pending.length) 5000 ≤ s.pending.length
  dropsLate : dropped.length + s.pending.length ≤ 10000 → dropped = []
  foundLate : ∀ x ∈ stretches,
    x.dropped.length + x.found.length + x.left.length ≤ 10000 → x.dropped = []

theorem balanced_start (name : String) (d : Device) (writeTimeout : Nat) :
    Balanced d.undelivered [] [] { name, device := some d, writeTimeout } where
  inOrder := ⟨d, rfl, rfl⟩
  atMost := Nat.zero_le _
  atLeast := Nat.le_refl _
  dropsLate _ := rfl
  foundLate x hx := by cases hx

variable {all dropped : List UInt8} {stretches : List Stretch} {s : Stream}

theorem Balanced.write (h : Balanced all stretches dropped s) (data : List UInt8)
    (b : Bench World) : Balanced all stretches dropped (write data s b).2.1 := by
  obtain ⟨d, hd, hall⟩ := h.inOrder
  obtain ⟨d', hs, hsame⟩ := write_undelivered data b hd
  rw [← hsame] at hall
  rw [hs]
  exact ⟨⟨d', rfl, hall⟩, h.atMost, h.atLeast, h.dropsLate, h.foundLate⟩

theorem Balanced.of_nothing {pattern more : List UInt8} {d : Device} {s' : Stream}
    {b' : Bench World} {result : Outcome Found} (h : Balanced all stretches dropped s)
    (hall : all = stretches.flatMap Stretch.bytes ++ (dropped ++ (s.pending ++ d.undelivered)))
    (hresult : foundBytes result = [])
    (hkeeps : Keeps more s.pending d.undelivered (result, s', b'))
    (htrails : Trails pattern more s'.pending) (hroom : s'.pending.length ≤ capacity) :
    Balanced all stretches (dropped ++ more) s' := by
  obtain ⟨d', heard, hd', hcoming, hmore⟩ := hkeeps
  rw [hresult, List.nil_append] at hmore
  have hlen := congrArg List.length hmore
  have hhalf := Backlog.half_le_keepCount pattern
  have hleast := h.atLeast
  have hlate := h.dropsLate
  have henough := htrails.enough
  simp only [List.length_append] at hlen
  unfold capacity at hhalf hroom henough
  refine ⟨⟨d', hd', ?_⟩, hroom, ?_, ?_, h.foundLate⟩
  · rw [hall, hcoming, ← List.append_assoc s.pending, hmore]
    simp only [List.append_assoc]
  · rw [List.length_append]
    rcases henough with rfl | ⟨_, hkept⟩
    · rw [List.length_nil] at *
      omega
    · omega
  · rw [List.length_append]
    intro hfew
    rcases henough with rfl | ⟨hover, _⟩
    · rw [List.length_nil] at *
      rw [hlate (by omega), List.append_nil]
    · omega

theorem Balanced.of_match {more found : List UInt8} {d : Device} {s' : Stream}
    {b' : Bench World} (h : Balanced all stretches dropped s)
    (hall : all = stretches.flatMap Stretch.bytes ++ (dropped ++ (s.pending ++ d.undelivered)))
    (hkeeps : Keeps more s.pending d.undelivered (.ok (some found), s', b'))
    (hsettles : more = [] ∨ capacity < more.length + found.length)
    (hroom : s'.pending.length ≤ capacity) :
    Balanced all
      (stretches ++ [{ found, left := s'.pending, dropped := dropped ++ more }]) [] s' := by
  obtain ⟨d', heard, hd', hcoming, hmore⟩ := hkeeps
  simp only [foundBytes] at hmore
  have hlen := congrArg List.length hmore
  have hlate := h.dropsLate
  simp only [List.length_append] at hlen
  unfold capacity at hroom hsettles
  refine ⟨⟨d', hd', ?_⟩, hroom, by rw [List.length_nil]; omega, fun _ => rfl, fun x hx => ?_⟩
  · rw [hall, hcoming, ← List.append_assoc s.pending, hmore]
    simp only [List.flatMap_append, List.flatMap_cons, List.flatMap_nil, Stretch.bytes,
      List.append_assoc, List.nil_append]
  · rcases List.mem_append.1 hx with hx | hx
    · exact h.foundLate x hx
    · rw [List.mem_singleton.1 hx]
      simp only [List.length_append]
      intro hfew
      rcases hsettles with rfl | hover
      · rw [List.length_nil] at *
        rw [hlate (by omega), List.append_nil]
      · omega

theorem readBytes_empty (ms : Nat) (s : Stream) (b : Bench World) :
    readBytes (Text.toBytes "") ms s b = (.ok (some []), s, b) := by
  have hempty : Text.toBytes "" = [] := rfl
  unfold readBytes
  rw [hempty, Text.takeThrough_nil]

theorem Balanced.readUntil (h : Balanced all stretches dropped s) (text : String) (ms : Nat)
    (b : Bench World) (hshort : (Text.toBytes text).length ≤ 10001) :
    ∃ more dropped',
      more.map Stretch.toMatch = (matchOf text (readBytes (Text.toBytes text) ms s b)).toList ∧
      Balanced all (stretches ++ more) dropped' (readBytes (Text.toBytes text) ms s b).2.1 := by
  by_cases hempty : text = ""
  · subst hempty
    rw [readBytes_empty]
    refine ⟨[], dropped, rfl, ?_⟩
    rwa [List.append_nil]
  obtain ⟨d, hd, hall⟩ := h.inOrder
  obtain ⟨more, hkeeps, hsettles⟩ := readBytes_keeps ms b hd hshort
  have hroom := (readBytes_bounded ms b hd hshort h.atMost).pending
  generalize readBytes (Text.toBytes text) ms s b = outcome at hkeeps hsettles hroom ⊢
  obtain ⟨_ | _ | found, s', b'⟩ := outcome
  · refine ⟨[], dropped ++ more, rfl, ?_⟩
    rw [List.append_nil]
    exact h.of_nothing hall rfl hkeeps hsettles hroom
  · refine ⟨[], dropped ++ more, rfl, ?_⟩
    rw [List.append_nil]
    exact h.of_nothing hall rfl hkeeps hsettles hroom
  · refine ⟨[{ found, left := s'.pending, dropped := dropped ++ more }], [], ?_,
      h.of_match hall hkeeps hsettles hroom⟩
    rw [matchOf, if_neg hempty]
    rfl

theorem Balanced.perform (h : Balanced all stretches dropped s) (b : Bench World) (use : Use)
    (hshort : use.Short) :
    ∃ more dropped', more.map Stretch.toMatch = (use.perform s b).1.toList ∧
      Balanced all (stretches ++ more) dropped' (use.perform s b).2.1 := by
  cases use with
  | write data =>
    refine ⟨[], dropped, rfl, ?_⟩
    rw [List.append_nil]
    exact h.write data b
  | setTimeout ms =>
    refine ⟨[], dropped, rfl, ?_⟩
    rwa [List.append_nil]
  | readUntil text ms => exact h.readUntil text ms b hshort

theorem Balanced.performAll (h : Balanced all stretches dropped s) (b : Bench World)
    (uses : List Use) (hshort : ∀ use ∈ uses, use.Short) :
    ∃ more dropped', more.map Stretch.toMatch = (performAll s b uses).1 ∧
      Balanced all (stretches ++ more) dropped' (performAll s b uses).2.1 := by
  induction uses generalizing s b stretches dropped with
  | nil =>
    refine ⟨[], dropped, rfl, ?_⟩
    rwa [List.append_nil]
  | cons use later ih =>
    obtain ⟨more, dropped₁, hmore, h₁⟩ := h.perform b use (hshort _ List.mem_cons_self)
    obtain ⟨rest, dropped₂, hrest, h₂⟩ :=
      ih h₁ (use.perform s b).2.2 fun x hx => hshort x (List.mem_cons_of_mem _ hx)
    refine ⟨more ++ rest, dropped₂, ?_, ?_⟩
    · rw [List.map_append, hmore, hrest]
      rfl
    · rwa [← List.append_assoc]

/-- Whatever is done with a stream from its opening on, its books balance, and their stretches end
with its matches. -/
theorem books_balance (name : String) (d : Device) (writeTimeout : Nat) (b : Bench World)
    (uses : List Use) (hshort : ∀ use ∈ uses, use.Short) :
    ∃ stretches dropped,
      stretches.map Stretch.toMatch =
        (performAll { name, device := some d, writeTimeout } b uses).1 ∧
      Balanced d.undelivered stretches dropped
        (performAll { name, device := some d, writeTimeout } b uses).2.1 := by
  obtain ⟨stretches, dropped, hmatches, h⟩ :=
    (balanced_start name d writeTimeout).performAll b uses hshort
  exact ⟨stretches, dropped, hmatches, h⟩

def glitch : Failure := { kind := .brokenPipe, message := "broken pipe" }

def bursts (first second later : List UInt8) : Device where
  id := 0
  readings := [{ content := .ok first }, { content := .error glitch }, { content := .ok second },
    { content := .error glitch }, { content := .ok later }]
  timeout := 1000

theorem undelivered_bursts (first second later : List UInt8) :
    (bursts first second later).undelivered = first ++ (second ++ later) := by
  simp only [bursts, Device.undelivered, Reading.bytes, List.flatMap_cons, List.flatMap_nil,
    List.nil_append, List.append_nil]

def opened (d : Device) : Stream := { name := "p", device := some d, writeTimeout := 1000 }

/-- A mark and 2000 bytes in two bursts, then 9500 bytes and another mark. -/
def overfull : Device :=
  bursts (0x41 :: List.replicate 1000 0x78) (List.replicate 1000 0x78)
    (List.replicate 9500 0x79 ++ [0x7A])

def burstUses : List Use :=
  [.readUntil "!" 100, .readUntil "!" 100, .readUntil "A" 100, .readUntil "z" 100]

theorem books_balance_of_overfull :
    (∀ use ∈ burstUses, use.Short) ∧
      ∃ stretches dropped,
        stretches.map Stretch.toMatch =
          (performAll (opened overfull) { world := {} } burstUses).1 ∧
        Balanced overfull.undelivered stretches dropped
          (performAll (opened overfull) { world := {} } burstUses).2.1 := by
  have hshort : ∀ use ∈ burstUses, use.Short := by decide
  unfold opened
  exact ⟨hshort, books_balance "p" overfull 1000 { world := {} } burstUses hshort⟩

theorem readBytes_of_pending {pattern found rest : List UInt8} {s : Stream} (ms : Nat)
    (b : Bench World) (h : Text.takeThrough pattern s.pending = some (found, rest)) :
    readBytes pattern ms s b = (.ok (some found), { s with pending := rest }, b) := by
  unfold readBytes
  rw [h]

section Interrupted

variable {d : Device} {first : List UInt8} {f : Failure} {later : List Reading}

theorem setTimeout_of_nil (h : d.settings = []) (ms : Nat) :
    d.setTimeout ms = (none, { d with timeout := ms }) := by
  simp only [Device.setTimeout, h]

theorem read_of_ready (hheld : d.held = [])
    (hreadings : d.readings = { content := .ok first } :: later)
    (hsize : first.length ≤ Device.readSize) :
    d.read = (.bytes first, 0, { d with readings := later, held := [] }) := by
  simp only [Device.read, hheld, hreadings, Nat.not_lt_zero, if_false,
    List.take_of_length_le hsize, List.drop_eq_nil_of_le hsize]

theorem read_of_failing (hheld : d.held = [])
    (hreadings : d.readings = { content := .error f } :: later) :
    d.read = (.failure f, 0, { d with readings := later }) := by
  simp only [Device.read, hheld, hreadings, Nat.not_lt_zero, if_false]

/-- A wait that hears one reading and then a failure. -/
theorem readBytes_interrupted {pattern : List UInt8} {ms : Nat} {s : Stream} (b : Bench World)
    (hd : s.device = some d) (hheld : d.held = []) (hsettings : d.settings = [])
    (hreadings : d.readings = { content := .ok first } :: { content := .error f } :: later)
    (hkind : f.kind ≠ .timedOut) (hms : 0 < ms) (hfirst : first ≠ [])
    (hsize : first.length ≤ Device.readSize) (hroom : (s.pending ++ first).length ≤ capacity)
    (hnone : Text.takeThrough pattern (s.pending ++ first) = none) :
    ∃ cause d' b', readBytes pattern ms s b =
        (.fail cause, { s with device := some d', pending := s.pending ++ first }, b') ∧
      d'.held = [] ∧ d'.settings = [] ∧ d'.readings = later := by
  have hlater : b.clock < b.clock + ms := Nat.lt_add_of_pos_right hms
  obtain ⟨d₁, b₁, hpoll, hclock, hheld₁, hsettings₁, hreadings₁⟩ : ∃ d₁ b₁,
      poll (b.clock + ms) s.name (some d) b = .arrived first d₁ b₁ ∧ b₁.clock = b.clock ∧
      d₁.held = [] ∧ d₁.settings = [] ∧ d₁.readings = { content := .error f } :: later :=
    ⟨_, _, poll_of_arrived s.name hlater (setTimeout_of_nil hsettings _)
      (read_of_ready hheld hreadings hsize) hfirst, rfl, rfl, hsettings, rfl⟩
  have hlater₁ : b₁.clock < b.clock + ms := by
    rw [hclock]
    exact hlater
  obtain ⟨cause, d₂, b₂, hfail, hleft⟩ : ∃ cause d₂ b₂,
      poll (b.clock + ms) s.name (some d₁) b₁ = .failed cause (some d₂) b₂ ∧
      d₂.held = [] ∧ d₂.settings = [] ∧ d₂.readings = later :=
    ⟨_, _, _, poll_of_broken s.name hlater₁ (setTimeout_of_nil hsettings₁ _)
      (read_of_failing hheld₁ hreadings₁) hkind, hheld₁, hsettings₁, rfl⟩
  have hold : Text.takeThrough pattern s.pending = none := by
    rw [Text.takeThrough_eq_none_iff] at hnone ⊢
    exact fun hin => hnone (hin.trans (List.prefix_append _ _).isInfix)
  refine ⟨cause, d₂, b₂, ?_, hleft⟩
  unfold readBytes
  rw [hold]
  simp only [await_eq_scan, hd]
  rw [feed_of_arrived hpoll, feed_of_failed hfail, Feed.scan, hnone]
  simp only [Backlog.trim_of_length_le hroom]
  rfl

end Interrupted

theorem SameBut.of_found {dropped bytes : List UInt8}
    {real reference : Outcome Found × Stream × Bench World}
    (h : SameBut dropped real reference) (hfound : reference.1 = .ok (some bytes)) :
    ∃ kept, real = (.ok (some kept), reference.2) := by
  cases h with
  | found => exact ⟨_, rfl⟩
  | timeUp => cases hfound
  | failed => cases hfound

/-- A wait for what comes last takes everything, but it never takes more at once than can be
pending and one read. -/
theorem readBytes_prompt_last {pattern all : List UInt8} {ms : Nat} {s : Stream} {d : Device}
    (b : Bench World) (hd : s.device = some d) (hprompt : d.Prompt) (hms : 0 < ms)
    (hshort : pattern.length ≤ capacity + 1) (hroom : s.pending.length ≤ capacity)
    (hlast : Text.takeThrough pattern (s.pending ++ d.undelivered) = some (all, [])) :
    ∃ found s' b' d', readBytes pattern ms s b = (.ok (some found), s', b') ∧
      s'.device = some d' ∧ s'.pending = [] ∧ d'.undelivered = [] ∧
      found.length ≤ capacity + Device.readSize := by
  obtain ⟨dropped, hsame, _⟩ := readBytes_settles ms s b (Nat.le_succ_of_le hshort)
  have hserved : Served b.clock (b.clock + ms) pattern (s.pending ++ d.undelivered) s
      (readBytesWith some pattern ms s b) :=
    readBytesWith_prompt b hd hprompt hms fun _ _ => rfl
  have hbounded := readBytes_bounded ms b hd hshort hroom
  generalize readBytesWith some pattern ms s b = reference at hsame hserved
  cases hserved with
  | missing hmissing => cases hlast.symm.trans hmissing
  | @found bytes pending d' b' hfound _ _ =>
    obtain ⟨_, hrest⟩ := Prod.mk.inj (Option.some.inj (hlast.symm.trans hfound))
    obtain ⟨hpending, hundelivered⟩ := List.append_eq_nil_iff.1 hrest.symm
    obtain ⟨found, hreal⟩ := hsame.of_found rfl
    rw [hreal] at hbounded
    refine ⟨found, _, b', d', hreal, rfl, hpending, hundelivered, ?_⟩
    exact Nat.le_trans (Nat.le_add_right _ _) hbounded.inAll

theorem prompt_of_ready {d : Device} {bytes : List UInt8} (hheld : d.held = [])
    (hsettings : d.settings = []) (hreadings : d.readings = [{ content := .ok bytes }]) :
    d.Prompt ∧ d.undelivered = bytes := by
  refine ⟨⟨?_, ?_⟩, ?_⟩
  · intro r hr
    rw [hreadings, List.mem_singleton] at hr
    rw [hr]
    exact ⟨rfl, bytes, rfl⟩
  · intro x hx
    rw [hsettings] at hx
    cases hx
  · rw [Device.undelivered, hheld, hreadings]
    exact List.append_nil bytes

section Bursts

variable (name : String) (writeTimeout : Nat) {xs ys : List UInt8} (zs : List UInt8)

/-- Two waits in vain hear a burst each. -/
theorem perform_bursts (b : Bench World) (hxs : xs.length + 1 ≤ Device.readSize)
    (hys : ys.length ≤ Device.readSize) (hne : ys ≠ []) (hquiet : 0x21 ∉ 0x41 :: xs ++ ys) :
    ∃ d₁ b₁ d₂ b₂,
      (Use.readUntil "!" 100).perform
          ⟨name, some (bursts (0x41 :: xs) ys (zs ++ [0x7A])), writeTimeout, []⟩ b =
        (none, ⟨name, some d₁, writeTimeout, 0x41 :: xs⟩, b₁) ∧
      (Use.readUntil "!" 100).perform ⟨name, some d₁, writeTimeout, 0x41 :: xs⟩ b₁ =
        (none, ⟨name, some d₂, writeTimeout, 0x41 :: xs ++ ys⟩, b₂) ∧
      d₂.Prompt ∧ d₂.undelivered = zs ++ [0x7A] := by
  have hmark : (0x21 : UInt8) ∉ 0x41 :: xs := fun hin => hquiet (List.mem_append_left _ hin)
  have hroom : (0x41 :: xs ++ ys).length ≤ capacity := by
    have hread : 2 * Device.readSize ≤ capacity := by decide
    rw [List.length_append, List.length_cons]
    omega
  have hroom₁ : (0x41 :: xs).length ≤ capacity :=
    Nat.le_trans (List.prefix_append _ ys).length_le hroom
  obtain ⟨_, d₁, b₁, hfirst, hheld₁, hsettings₁, hreadings₁⟩ : ∃ cause d' b',
      readBytes [0x21] 100 ⟨name, some (bursts (0x41 :: xs) ys (zs ++ [0x7A])), writeTimeout, []⟩ b =
        (.fail cause, ⟨name, some d', writeTimeout, 0x41 :: xs⟩, b') ∧ _ :=
    readBytes_interrupted b rfl rfl rfl rfl (by decide) (by decide) (List.cons_ne_nil _ _) hxs
      hroom₁ (Text.takeThrough_singleton_eq_none hmark)
  obtain ⟨_, d₂, b₂, hsecond, hheld₂, hsettings₂, hreadings₂⟩ : ∃ cause d' b',
      readBytes [0x21] 100 ⟨name, some d₁, writeTimeout, 0x41 :: xs⟩ b₁ =
        (.fail cause, ⟨name, some d', writeTimeout, 0x41 :: xs ++ ys⟩, b') ∧ _ :=
    readBytes_interrupted b₁ rfl hheld₁ hsettings₁ hreadings₁ (by decide) (by decide) hne hys
      hroom (Text.takeThrough_singleton_eq_none hquiet)
  exact ⟨d₁, b₁, d₂, b₂, perform_of_failed hfirst, perform_of_failed hsecond,
    prompt_of_ready hheld₂ hsettings₂ hreadings₂⟩

/-- The first mark is found in what the bursts left pending, the second with what comes then. -/
theorem performAll_burstUses (b : Bench World) (hxs : xs.length + 1 ≤ Device.readSize)
    (hys : ys.length ≤ Device.readSize) (hne : ys ≠ []) (hquiet : 0x21 ∉ 0x41 :: xs ++ ys)
    (hlast : 0x7A ∉ xs ++ ys ++ zs) :
    ∃ s₁ b₁ d₁ found s₂ b₂ d₂,
      performAll ⟨name, some (bursts (0x41 :: xs) ys (zs ++ [0x7A])), writeTimeout, []⟩ b
        (burstUses.take 3) = ([⟨[0x41], xs ++ ys⟩], s₁, b₁) ∧
      s₁.device = some d₁ ∧ d₁.undelivered = zs ++ [0x7A] ∧
      performAll ⟨name, some (bursts (0x41 :: xs) ys (zs ++ [0x7A])), writeTimeout, []⟩ b
        burstUses = ([⟨[0x41], xs ++ ys⟩, ⟨found, []⟩], s₂, b₂) ∧
      s₂.device = some d₂ ∧ s₂.pending = [] ∧ d₂.undelivered = [] ∧
      found.length ≤ capacity + Device.readSize := by
  obtain ⟨d₁, b₁, d₂, b₂, hfirst, hsecond, hprompt, hcoming⟩ :=
    perform_bursts name writeTimeout zs b hxs hys hne hquiet
  let s₁ : Stream := ⟨name, some d₂, writeTimeout, xs ++ ys⟩
  have hmatch : Text.takeThrough [0x41] (0x41 :: xs ++ ys) = some ([0x41], xs ++ ys) :=
    Text.takeThrough_singleton List.not_mem_nil (xs ++ ys)
  have hfound : readBytes [0x41] 100 ⟨name, some d₂, writeTimeout, 0x41 :: xs ++ ys⟩ b₂ =
      (.ok (some [0x41]), s₁, b₂) := readBytes_of_pending 100 b₂ hmatch
  have hthird : (Use.readUntil "A" 100).perform
      ⟨name, some d₂, writeTimeout, 0x41 :: xs ++ ys⟩ b₂ = (some ⟨[0x41], s₁.pending⟩, s₁, b₂) :=
    perform_of_match (by decide) hfound
  have hall : Text.takeThrough [0x7A] (xs ++ ys ++ d₂.undelivered) =
      some (xs ++ ys ++ zs ++ [0x7A], []) := by
    rw [hcoming, ← List.append_assoc]
    exact Text.takeThrough_singleton hlast []
  have hroom : (xs ++ ys).length ≤ capacity := by
    have hread : 2 * Device.readSize ≤ capacity := by decide
    rw [List.length_append]
    omega
  obtain ⟨found, s₂, b₃, d₃, hread, hd₃, hnone, hdelivered, hlen⟩ :
      ∃ found s' b' d', readBytes [0x7A] 100 s₁ b₂ = (.ok (some found), s', b') ∧ _ :=
    readBytes_prompt_last b₂ rfl hprompt (by decide) (by decide) hroom hall
  have hfourth : (Use.readUntil "z" 100).perform s₁ b₂ = (some ⟨found, s₂.pending⟩, s₂, b₃) :=
    perform_of_match (by decide) hread
  rw [hnone] at hfourth
  refine ⟨s₁, b₂, d₂, found, s₂, b₃, d₃, ?_, rfl, hcoming, ?_, hd₃, hnone, hdelivered, hlen⟩
  · simp only [burstUses, List.take, performAll, hfirst, hsecond, hthird]
    rfl
  · simp only [burstUses, performAll, hfirst, hsecond, hthird, hfourth]
    rfl

end Bursts

/-- With 2000 bytes left by the first match, 9501 more are more than a wait takes at once, so some
bytes are dropped after that match although no more than 10000 have come since. -/
theorem dropped_within_capacity_received :
    ∃ m₁ m₂ s₁ b₁ d₁ s₂ b₂ d₂,
      performAll (opened overfull) { world := {} } (burstUses.take 3) = ([m₁], s₁, b₁) ∧
      s₁.device = some d₁ ∧
      performAll (opened overfull) { world := {} } burstUses = ([m₁, m₂], s₂, b₂) ∧
      s₂.device = some d₂ ∧
      overfull.undelivered.length - d₁.undelivered.length ≤ 10000 ∧
      d₁.undelivered.length - d₂.undelivered.length ≤ 10000 ∧
      overfull.undelivered ≠ m₁.found ++ m₂.found ++ s₂.pending ++ d₂.undelivered := by
  have hsize : overfull.undelivered.length = 11502 := by
    rw [overfull, undelivered_bursts]
    simp only [List.length_append, List.length_cons, List.length_nil, List.length_replicate]
  have hxs : (List.replicate 1000 (0x78 : UInt8)).length + 1 ≤ Device.readSize := by
    rw [List.length_replicate]
    decide
  have hys : (List.replicate 1000 (0x78 : UInt8)).length ≤ Device.readSize := by omega
  have hne : List.replicate 1000 (0x78 : UInt8) ≠ [] := by
    rw [Ne, List.replicate_eq_nil_iff]
    decide
  have hquiet : 0x21 ∉ 0x41 :: List.replicate 1000 (0x78 : UInt8) ++ List.replicate 1000 0x78 := by
    simp only [List.mem_append, List.mem_cons, List.mem_replicate]
    decide
  have hlast : 0x7A ∉ List.replicate 1000 (0x78 : UInt8) ++ List.replicate 1000 0x78 ++
      List.replicate 9500 0x79 := by
    simp only [List.mem_append, List.mem_replicate]
    decide
  obtain ⟨s₁, b₁, d₁, found, s₂, b₂, d₂, hthree, hd₁, hlate, hfour, hd₂, hpending, hnone, hlen⟩ :=
    performAll_burstUses "p" 1000 _ { world := {} } hxs hys hne hquiet hlast
  refine ⟨_, _, s₁, b₁, d₁, s₂, b₂, d₂, hthree, hd₁, hfour, hd₂, ?_, ?_, fun hall => ?_⟩
  · rw [hsize, hlate, List.length_append, List.length_replicate, List.length_singleton]
    omega
  · rw [hlate, List.length_append, List.length_replicate, List.length_singleton]
    omega
  · have htaken := congrArg List.length hall
    rw [hsize, hpending, hnone] at htaken
    simp only [List.length_append, List.length_cons, List.length_nil] at htaken
    unfold capacity Device.readSize at hlen
    omega

end SerialScript.Serial
