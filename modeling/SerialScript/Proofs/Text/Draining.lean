import SerialScript.Proofs.Text.Utf8
import SerialScript.Transport.Memory
import SerialScript.Transport.Serial

/-!
Draining a buffer. What is received in memory is a text, what is received on a line is bytes, and
both are drained through the first occurrence of what is waited for. On encoded text the two come to
the same: the bytes that are taken and those that stay encode what is taken and what stays of the
text, so no character is ever cut.
-/

namespace SerialScript

namespace Text

variable {α : Type} [BEq α]

/-- What is taken out of a buffer when it is searched for a pattern, if anything is, and the buffer
afterwards. -/
def drain (pattern buffer : List α) : Option (List α) × List α :=
  match takeThrough pattern buffer with
  | some (found, rest) => (some found, rest)
  | none => (none, buffer)

theorem drain_of_found {pattern buffer found rest : List α}
    (h : takeThrough pattern buffer = some (found, rest)) :
    drain pattern buffer = (some found, rest) := by
  simp only [drain, h]

theorem drain_of_missing {pattern buffer : List α} (h : takeThrough pattern buffer = none) :
    drain pattern buffer = (none, buffer) := by
  simp only [drain, h]

@[simp] theorem drain_nil (buffer : List α) : drain [] buffer = (some [], buffer) :=
  drain_of_found (takeThrough_nil buffer)

/-- What a search has come to: the shortest part of the buffer that ends in the pattern has been
taken from its front, or there was none and the buffer is what it was. -/
inductive Drained (pattern buffer : List α) : Option (List α) × List α → Prop where
  | taken {found rest} : found ++ rest = buffer → FirstEnd pattern found →
      Drained pattern buffer (some found, rest)
  | untouched : ¬ pattern <:+: buffer → Drained pattern buffer (none, buffer)

theorem drained_drain [LawfulBEq α] (pattern buffer : List α) :
    Drained pattern buffer (drain pattern buffer) := by
  cases h : takeThrough pattern buffer with
  | none =>
    rw [drain_of_missing h]
    exact .untouched (takeThrough_eq_none_iff.1 h)
  | some cut =>
    obtain ⟨hcut, hend⟩ := takeThrough_eq_some_iff.1 h
    rw [drain_of_found h]
    exact .taken hcut hend

end Text

open Text (drain)

/-- An open stream in memory drains the inbound text, and waits only if that was in vain. -/
theorem Memory.readUntil_eq_drain (pattern : String) (ms : Nat) {s : Stream} (b : Bench Memory)
    (h : s.isOpen = true) :
    let (found, rest) := drain pattern.toList b.world.inbound.toList
    readUntil pattern ms s b =
      (.ok (String.ofList (found.getD [])), s,
        { b with
          world := { b.world with inbound := String.ofList rest }
          clock := if found.isSome then b.clock else b.clock + ms }) := by
  unfold readUntil
  rw [if_pos h]
  cases hm : Text.takeThrough pattern.toList b.world.inbound.toList with
  | none => simp [Text.drain_of_missing hm, Bench.wait]
  | some cut => simp [Text.drain_of_found hm]

/-- On a line the look at what is pending after a read drains it. Only what a look in vain leaves may
be cut. -/
theorem Serial.settle_eq_drain (cut : Cut) (pattern : List UInt8) (s : Stream) (b : Bench World) :
    settle cut pattern s b =
      match drain pattern s.pending with
      | (some found, rest) => .done (.ok (some found)) { s with pending := rest } b
      | (none, rest) =>
        match cut rest with
        | none => .done (.error .broken) s b
        | some kept => .again { s with pending := kept } b := by
  unfold settle
  cases hm : Text.takeThrough pattern s.pending with
  | none =>
    cases hcut : cut s.pending <;> simp only [Text.drain_of_missing hm, hcut]
  | some taken => simp only [Text.drain_of_found hm]

namespace Text

theorem drain_bytes (pattern buffer : List Char) :
    drain (bytes pattern) (bytes buffer) =
      ((drain pattern buffer).1.map bytes, bytes (drain pattern buffer).2) := by
  have hsearch := takeThrough_bytes pattern buffer
  cases h : takeThrough pattern buffer with
  | none =>
    rw [h, Option.map_none] at hsearch
    simp [drain_of_missing h, drain_of_missing hsearch]
  | some cut =>
    rw [h, Option.map_some] at hsearch
    simp [drain_of_found h, drain_of_found hsearch]

/-- To drain the bytes of a text is to drain the text: the same is taken and the same stays, encoded.
What is taken is the shortest part of the text that ends in the pattern; where the pattern does not
occur nothing is taken, and where it is empty there is nothing to take. -/
theorem drain_toBytes (pattern buffer : String) :
    let text := drain pattern.toList buffer.toList
    let encoded := drain (toBytes pattern) (toBytes buffer)
    (encoded.1.isSome ↔ text.1.isSome) ∧
      encoded = (text.1.map bytes, bytes text.2) ∧
      Drained pattern.toList buffer.toList text ∧
      Drained (toBytes pattern) (toBytes buffer) encoded ∧
      drain "".toList buffer.toList = (some [], buffer.toList) ∧
      drain (toBytes "") (toBytes buffer) = (some [], toBytes buffer) := by
  have hencoded := drain_bytes pattern.toList buffer.toList
  refine ⟨?_, hencoded, drained_drain _ _, drained_drain _ _, drain_nil _, drain_nil _⟩
  unfold toBytes
  simp [hencoded]

end Text

end SerialScript
