import Multicast.Fault
import Multicast.Host.Call

/-!
# `Multicast.Host.Range` — the numbers that calls take

A call that takes a number takes it in a range, and objects to any other number before it does
anything: spans of time are counted in nanoseconds of 64 bits, a wait for sockets in milliseconds of
32 bits, and ports and hop limits have fields of their own.

## Contents
- **Spans.** `Quantity.nanoseconds`, with `Quantity.sleep`, `Quantity.timeout` and `Quantity.timer`.
- **Calls.** `Call.objection?`, what a call says of its numbers, and `Call.ObjectsBySystem`.
- **Ports and options.** `Endpoint.HasPort`, with `Call.objection?_bind`, `Call.objection?_send`,
  `Call.objection?_receive` and `Call.objectsBySystem_setOption`.
-/

namespace Multicast

/-! ## Spans -/

namespace Quantity

/-- Fails as a span that is counted in too many nanoseconds. -/
def outOfTime : Except Fault Int :=
  .error (.outOfRange "timestamp out of range for platform time_t")

/-- A span of seconds in nanoseconds, which fit 64 bits. -/
def nanoseconds (rounded : Fraction → Int) (q : Quantity) : Except Fault Int :=
  match q.times (.ofNat (10 ^ 9)) with
  | undefined => .error (.value "Invalid value NaN (not a number)")
  | infinite _ => outOfTime
  | finite x => if fitsSigned 64 (rounded x) then .ok (rounded x) else outOfTime

/-- Fails as a pause that would have to end before it begins. -/
def sleepFor (nanoseconds : Int) : Except Fault Unit :=
  if nanoseconds < 0 then .error (.value "sleep length must be non-negative") else .ok ()

/-- A span to pause for. -/
def sleep (q : Quantity) : Except Fault Unit := do
  sleepFor (← q.nanoseconds Fraction.outward)

/-- The fraction nearest to a thousandth. -/
def thousandth : Fraction := ⟨false, 4611686018427388, 62⟩

example : Fraction.ofDecimal? false 1 (-3) = some thousandth := by decide +kernel

/-- A span to wait for sockets, which is brought up to whole milliseconds first. There is no wait if it
is not above zero. -/
def timeout (q : Quantity) : Except Fault Unit :=
  match q with
  | finite x =>
    if x.negative || x.units = 0 then .ok ()
    else
      match q.times (.ofNat 1000) with
      | finite y => do
        let whole : Quantity := .ofNat y.ceiling.toNat
        let n ← (whole.times thousandth).nanoseconds Fraction.outward
        if (2 ^ 31 - 1) * 10 ^ 6 < n then .error (.outOfRange "timeout is too large") else .ok ()
      | _ => .error (.outOfRange "cannot convert float infinity to integer")
  | infinite negative =>
    if negative then .ok () else .error (.outOfRange "cannot convert float infinity to integer")
  | undefined => .error (.value "cannot convert float NaN to integer")

/-- The two spans of a timer, which has no use for a microsecond below zero. -/
def timer (first interval : Quantity) : Except Fault Unit := do
  let first ← first.nanoseconds Fraction.ceiling
  let interval ← interval.nanoseconds Fraction.ceiling
  if min first interval ≤ -1000 then .error (.system .invalid) else .ok ()

end Quantity

/-! ## Calls -/

namespace Call

/-- A whole number of seconds to pause for. -/
def sleepWhole (seconds : Int) : Except Fault Unit :=
  if fitsSigned 64 (seconds * 10 ^ 9) then Quantity.sleepFor (seconds * 10 ^ 9)
  else .error (.outOfRange "timestamp too large to convert to C _PyTime_t")

/-- A port of 16 bits. -/
def port (caller : String) (n : Int) : Except Fault Unit :=
  if fitsUnsigned 16 n then .ok () else .error (.outOfRange s!"{caller}(): port must be 0-65535.")

/-- The number of an option, of 32 bits. A hop limit can be left to the system, which is asked for
with -1. -/
def optionNumber (name : OptionName) (n : Int) : Except Fault Unit :=
  if !fitsSigned 32 n then .error .notBytes
  else if (name = .ttl4 ∨ name = .hops6) ∧ ¬(-1 ≤ n ∧ n ≤ 255) then .error (.system .invalid)
  else .ok ()

/-- The most bytes to read. -/
def readLimit (n : Int) : Except Fault Unit :=
  if n < 0 then .error (.value "negative buffersize in recv")
  else if fitsSigned 64 n then .ok ()
  else .error (.outOfRange LimitError.uncountable.message)

/-- What a call says of its numbers. -/
def vetted : Call → Except Fault Unit
  | .setOption _ name (.number n) => optionNumber name n
  | .bind _ endpoint => port "bind" endpoint.port
  | .send _ _ target => port "sendto" target.port
  | .receive _ limit => readLimit limit
  | .select q => q.timeout
  | .pause q => q.sleep
  | .wait seconds => sleepWhole seconds
  | .setTimer first interval => Quantity.timer first interval
  | _ => .ok ()

/-- Why a call is not made with its numbers, if it is not. -/
def objection? (c : Call) : Option Fault :=
  match c.vetted with
  | .ok () => none
  | .error e => some e

example : (select (.ofDecimal false 2147483647 (-3))).objection? = none := by decide +kernel

example : (select (.ofDecimal false 2147483648 (-3))).objection? =
    some (.outOfRange "timeout is too large") := by decide +kernel

/-- A call that objects to its numbers does so by a failure of the system. -/
def ObjectsBySystem (c : Call) : Prop := ∀ e, c.objection? = some e → e.isSystem

theorem objection?_eq_none {c : Call} (h : c.vetted = .ok ()) : c.objection? = none := by
  unfold objection?
  rw [h]

theorem objectsBySystem_of_none {c : Call} (hc : c.objection? = none) : c.ObjectsBySystem := by
  intro e he
  rw [hc] at he
  cases he

end Call

/-! ## Ports and options -/

/-- The port of an endpoint has 16 bits. -/
def Endpoint.HasPort (e : Endpoint) : Prop := fitsUnsigned 16 e.port = true

instance (e : Endpoint) : Decidable e.HasPort := inferInstanceAs (Decidable (_ = true))

namespace Call

/-- A socket can be bound to a port that there is. -/
theorem objection?_bind {target : Endpoint} (h : target.HasPort) (id : Nat) :
    (bind id target).objection? = none :=
  objection?_eq_none (if_pos h)

/-- A datagram can be sent to one. -/
theorem objection?_send {target : Endpoint} (h : target.HasPort) (id : Nat) (data : Octets) :
    (send id data target).objection? = none :=
  objection?_eq_none (if_pos h)

/-- A read takes any number of bytes that can be counted. -/
theorem objection?_receive {limit : Int} (h : 0 ≤ limit ∧ limit < 2 ^ 63) (id : Nat) :
    (receive id limit).objection? = none := by
  have hfits : fitsSigned 64 limit = true := by
    rw [fitsSigned_iff]
    omega
  have hnonnegative : ¬limit < 0 := Int.not_lt.2 h.1
  exact objection?_eq_none ((if_neg hnonnegative).trans (if_pos hfits))

/-- An option takes a number of 32 bits, or the system objects to it. -/
theorem objectsBySystem_setOption {n : Int} (h : fitsSigned 32 n = true) (id : Nat)
    (name : OptionName) : (setOption id name (.number n)).ObjectsBySystem := by
  have hfits : ¬(!fitsSigned 32 n) = true := by simp [h]
  by_cases hlimit : (name = .ttl4 ∨ name = .hops6) ∧ ¬(-1 ≤ n ∧ n ≤ 255)
  · have hvetted : (setOption id name (.number n)).vetted = .error (.system .invalid) :=
      (if_neg hfits).trans (if_pos hlimit)
    intro e he
    unfold objection? at he
    rw [hvetted] at he
    cases he
    rfl
  · exact objectsBySystem_of_none (objection?_eq_none ((if_neg hfits).trans (if_neg hlimit)))

end Call

end Multicast
