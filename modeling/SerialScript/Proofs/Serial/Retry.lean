import SerialScript.Proofs.Serial.Conservation
import SerialScript.Proofs.Serial.Deadline
import SerialScript.Proofs.Serial.Timetable

/-!
Waiting twice is waiting once. A wait whose time is up has taken what its timetable brings by then,
and the timetable of what is left goes on where that one ends; so a second wait comes to the end
that one wait of the whole time would have come to.
-/

namespace SerialScript

/-- Two devices whose scripts say the same to every later call, whatever was said before. Of the
changes of the timeout it only matters which of those to come will fail. -/
structure Device.SameScript (d d' : Device) : Prop where
  id : d.id = d'.id
  supply : d.supply = d'.supply
  acceptances : d.acceptances = d'.acceptances
  flushes : d.flushes = d'.flushes
  settings : ∀ n, d.settings.getD n none = d'.settings.getD n none

namespace Serial

open Backlog (capacity trim)

def Timetable.resume (next : Nat → Supply → Timetable) : Timetable → Timetable
  | .timeUp time left => next time left
  | .failed cause time left => .failed cause time left
  | .arrival chunk time left later => .arrival chunk time left (later.resume next)

theorem resume_entry (next : Nat → Supply → Timetable) (time : Nat) (left : Supply)
    (later : Timetable) (received : Device.Received) :
    (entry time left later received).resume next =
      entry time left (later.resume next) received := by
  cases received with
  | nothingInTime => rfl
  | failure f =>
    by_cases hf : f.kind = .timedOut
    · simp only [entry, if_pos hf]
    · simp only [entry, if_neg hf, Timetable.resume]
  | bytes chunk => cases chunk <;> rfl

/-- The timetable up to a deadline is that up to an earlier one, resumed there. -/
theorem timetable_resume {early late : Nat} (h : early ≤ late) (now : Nat) (supply : Supply) :
    timetable late now supply = (timetable early now supply).resume (timetable late) := by
  induction now, supply using timetable.induct early with
  | case1 now supply hup =>
    rw [timetable_of_le hup]
    rfl
  | case2 now hup b held readings left ih =>
    have hnow : now < early := Nat.lt_of_not_le hup
    rw [timetable_held (Nat.lt_of_lt_of_le hnow h), timetable_held hnow, ih]
    rfl
  | case3 now hup =>
    have hnow : now ≤ early := Nat.le_of_not_le hup
    rw [timetable_nothing (Nat.le_trans hnow h), timetable_nothing hnow, Timetable.resume,
      timetable_nothing h]
  | case4 now hup r readings hdue =>
    have hnow : now < early := Nat.lt_of_not_le hup
    -- The earlier deadline cuts a delay in two.
    have hrest : now + (early - now) = early := by omega
    have hleft : r.delay - (early - now) = now + r.delay - early := by omega
    have hwait : early - now < r.delay := by omega
    have hlate : now + (early - now) ≤ late := by omega
    rw [timetable_not_due hnow hdue, Timetable.resume,
      timetable_wait readings (Nat.lt_of_lt_of_le hnow h) hwait hlate, hrest, hleft]
  | case5 now hup r readings hdue left ih =>
    have hnow : now < early := Nat.lt_of_not_le hup
    have hby : now + r.delay ≤ early := Nat.le_of_not_lt hdue
    rw [timetable_due (Nat.lt_of_lt_of_le hnow h) (Nat.le_trans hby h), timetable_due hnow hby,
      resume_entry, ih]

/-- If the time is up in this timetable, then at the deadline. -/
def Timetable.EndsAt (deadline : Nat) : Timetable → Prop
  | .timeUp time _ => time = deadline
  | .failed _ _ _ => True
  | .arrival _ _ _ later => later.EndsAt deadline

theorem endsAt_entry {deadline time : Nat} {left : Supply} {later : Timetable}
    (h : later.EndsAt deadline) (received : Device.Received) :
    (entry time left later received).EndsAt deadline := by
  cases received with
  | nothingInTime => exact h
  | failure f =>
    by_cases hf : f.kind = .timedOut
    · rw [entry, if_pos hf]
      exact h
    · rw [entry, if_neg hf]
      exact trivial
  | bytes chunk => cases chunk <;> exact h

theorem timetable_endsAt {deadline now : Nat} (h : now ≤ deadline) (supply : Supply) :
    (timetable deadline now supply).EndsAt deadline := by
  induction now, supply using timetable.induct deadline with
  | case1 now supply hup =>
    rw [timetable_of_le hup]
    exact Nat.le_antisymm h hup
  | case2 now hup b held readings left ih =>
    rw [timetable_held (Nat.lt_of_not_le hup)]
    exact ih h
  | case3 now hup =>
    rw [timetable_nothing h]
    exact rfl
  | case4 now hup r readings hdue =>
    rw [timetable_not_due (Nat.lt_of_not_le hup) hdue]
    exact rfl
  | case5 now hup r readings hdue left ih =>
    have hby : now + r.delay ≤ deadline := Nat.le_of_not_lt hdue
    rw [timetable_due (Nat.lt_of_not_le hup) hby]
    exact endsAt_entry (ih hby) r.received

/-- A scan whose time is up has seen no occurrence, and it goes on from there with whatever the
timetable is resumed with. -/
theorem scan_resume {name : String} {pattern pending : List UInt8} {deadline : Nat}
    {t : Timetable} (next : Nat → Supply → Timetable) (hshort : pattern.length ≤ capacity + 1)
    (hroom : pending.length ≤ capacity) (habsent : Text.takeThrough pattern pending = none)
    (hend : t.EndsAt deadline)
    (hnone : (t.scan name (trim pattern) pattern pending).result = .ok none) :
    ∃ rest left, t.scan name (trim pattern) pattern pending = ⟨.ok none, rest, deadline, left⟩ ∧
      Text.takeThrough pattern rest = none ∧
      (t.resume next).scan name (trim pattern) pattern pending =
        (next deadline left).scan name (trim pattern) pattern rest := by
  induction t generalizing pending with
  | timeUp time left =>
    have htime : time = deadline := hend
    refine ⟨pending, left, ?_, habsent, ?_⟩
    · simp only [Timetable.scan, Backlog.trim_of_length_le hroom, htime]
    · rw [Timetable.resume, htime]
  | failed cause time left => cases hnone
  | arrival chunk time left later ih =>
    simp only [Timetable.resume, Timetable.scan] at hnone ⊢
    cases hm : Text.takeThrough pattern (pending ++ chunk) with
    | some cut =>
      rw [hm] at hnone
      cases hnone
    | none =>
      rw [hm] at hnone
      cases hcut : trim pattern (pending ++ chunk) with
      | none =>
        rw [hcut] at hnone
        cases hnone
      | some kept =>
        rw [hcut] at hnone
        obtain ⟨dropped, hdropped, _⟩ := Backlog.trim_eq_some hcut
        have hkept : Text.takeThrough pattern kept = none := by
          rw [Text.takeThrough_eq_none_iff, hdropped] at hm
          rw [Text.takeThrough_eq_none_iff]
          intro hin
          exact hm (hin.trans (List.suffix_append _ _).isInfix)
        exact ih (Backlog.trim_length_le hshort hcut) hkept hend hnone

/-- What can be foreseen of a wait whose first part is in vain is what can be foreseen of the
second part where the first one ends. -/
theorem foresee_add {name : String} {pattern pending : List UInt8} {ms₁ now : Nat}
    {supply : Supply} (ms₂ : Nat) (hshort : pattern.length ≤ capacity + 1)
    (hroom : pending.length ≤ capacity)
    (hnone : (foresee name pattern ms₁ pending now supply).result = .ok none) :
    ∃ rest left, foresee name pattern ms₁ pending now supply =
        ⟨.ok none, rest, now + ms₁, left⟩ ∧
      foresee name pattern ms₂ rest (now + ms₁) left =
        foresee name pattern (ms₁ + ms₂) pending now supply := by
  unfold foresee at hnone ⊢
  cases habsent : Text.takeThrough pattern pending with
  | some cut =>
    rw [habsent] at hnone
    cases hnone
  | none =>
    rw [habsent] at hnone
    have hend := timetable_endsAt (Nat.le_add_right now ms₁) supply
    obtain ⟨rest, left, hscan, hrest, hresume⟩ :=
      scan_resume (timetable (now + ms₁ + ms₂)) hshort hroom habsent hend hnone
    refine ⟨rest, left, hscan, ?_⟩
    rw [hrest, ← Nat.add_assoc]
    simp only
    rw [← hresume, ← timetable_resume (Nat.le_add_right (now + ms₁) ms₂)]

/-- Two waits that come to the same: the same answer after the same time, on streams that differ in
the timeout of their devices at most. -/
structure SameEnd (x y : Outcome String × Stream × Bench World) : Prop where
  result : x.1 = y.1
  stream : ∃ d d', x.2.1.device = some d ∧ y.2.1 = { x.2.1 with device := some d' } ∧
    d.SameScript d'
  clock : x.2.2.clock = y.2.2.clock

theorem getD_none_of_unfailing {settings : List (Option String)}
    (h : ∀ outcome ∈ settings, outcome = none) (n : Nat) : settings.getD n none = none := by
  rw [List.getD_eq_getElem?_getD]
  cases hn : settings[n]? with
  | none => rfl
  | some outcome => exact h outcome (List.mem_of_getElem? hn)

theorem sameScript_of_onlyRead {d₀ d d' : Device} (h : d₀.OnlyRead d) (h' : d₀.OnlyRead d')
    (hsupply : d.supply = d'.supply) (hsettings : ∀ outcome ∈ d₀.settings, outcome = none) :
    d.SameScript d' where
  id := h.id.trans h'.id.symm
  supply := hsupply
  acceptances := h.acceptances.trans h'.acceptances.symm
  flushes := h.flushes.trans h'.flushes.symm
  settings n := by
    rw [getD_none_of_unfailing fun x hx => hsettings x (h.settings.subset hx),
      getD_none_of_unfailing fun x hx => hsettings x (h'.settings.subset hx)]

/-- After a wait in vain, another wait comes to what one wait as long as both would have come to. -/
theorem readUntil_retry (text : String) (ms₁ ms₂ : Nat) (s : Stream) (d : Device)
    (b : Bench World) (hd : s.device = some d) (hroom : s.pending.length ≤ 10000)
    (hsettings : ∀ outcome ∈ d.settings, outcome = none) (htext : text ≠ "")
    (hshort : (Text.toBytes text).length ≤ 10001) (s₁ : Stream) (b₁ : Bench World)
    (hvain : readUntil text ms₁ s b = (.ok "", s₁, b₁)) :
    SameEnd (readUntil text ms₂ s₁ b₁) (readUntil text (ms₁ + ms₂) s b) := by
  have hread := readBytes_of_empty htext hvain
  obtain ⟨d₁, b₁', hfirst, hclock, hsupply, honly⟩ :=
    readBytes_foreseen (Text.toBytes text) ms₁ b hd hsettings
  rw [hread] at hfirst
  obtain ⟨hnone, hrest⟩ := Prod.mk.inj hfirst
  obtain ⟨rfl, rfl⟩ := Prod.mk.inj hrest
  -- The second wait starts on what the first one has left of the supply.
  obtain ⟨rest, left, hend, hadd⟩ := foresee_add ms₂ hshort hroom hnone.symm
  rw [hend] at hclock hsupply ⊢
  have hsettings₁ : ∀ outcome ∈ d₁.settings, outcome = none := by
    intro outcome hmem
    exact hsettings outcome (honly.settings.subset hmem)
  obtain ⟨d₂, b₂, hsecond, hclock₂, hsupply₂, honly₂⟩ :=
    readBytes_foreseen (Text.toBytes text) ms₂ (s := { s with device := some d₁, pending := rest })
      b₁ rfl hsettings₁
  obtain ⟨d₃, b₃, hwhole, hclock₃, hsupply₃, honly₃⟩ :=
    readBytes_foreseen (Text.toBytes text) (ms₁ + ms₂) b hd hsettings
  simp only [hclock, hsupply, hadd] at hsecond hclock₂ hsupply₂
  unfold readUntil
  rw [hsecond, hwhole]
  refine ⟨rfl, ⟨d₂, d₃, rfl, rfl, ?_⟩, hclock₂.trans hclock₃.symm⟩
  exact sameScript_of_onlyRead (honly.trans honly₂) honly₃ (hsupply₂.trans hsupply₃.symm) hsettings

def hesitant : Device where
  id := 0
  readings := [{ delay := 25, content := .ok [0x4F] }, { delay := 20, content := .ok [0x4B] }]
  timeout := 1000

theorem readUntil_retry_of_hesitant :
    (∀ outcome ∈ hesitant.settings, outcome = none) ∧ "OK" ≠ "" ∧
      (Text.toBytes "OK").length ≤ 10001 ∧
      let s : Stream := { name := "p", device := some hesitant, writeTimeout := 1000 }
      let b : Bench World := { world := {} }
      s.pending.length ≤ 10000 ∧
        ∃ s₁ b₁, readUntil "OK" 30 s b = (.ok "", s₁, b₁) ∧
          SameEnd (readUntil "OK" 20 s₁ b₁) (readUntil "OK" (30 + 20) s b) := by
  have hsettings : ∀ outcome ∈ hesitant.settings, outcome = none := List.forall_mem_nil _
  have hshort : (Text.toBytes "OK").length ≤ 10001 := by decide
  refine ⟨hsettings, by decide, hshort, Nat.zero_le _, ?_⟩
  have hvain : (readUntil "OK" 30 { name := "p", device := some hesitant, writeTimeout := 1000 }
      { world := {} }).1 = .ok "" := by
    have hrun := readUntilIn_eq_readUntil "OK" 30
      (s := { name := "p", device := some hesitant, writeTimeout := 1000 }) { world := {} } rfl
    have hfirst := congrArg (Option.map Prod.fst) hrun
    exact (Option.some.inj hfirst).symm
  exact ⟨_, _, Prod.ext hvain rfl,
    readUntil_retry "OK" 30 20 _ hesitant _ rfl (Nat.zero_le _) hsettings (by decide) hshort _ _
      (Prod.ext hvain rfl)⟩

end Serial

end SerialScript
