import Multicast.Proofs.Program.Serving
import Multicast.Proofs.Quantity.Positive

/-!
# `Proofs.Program.Domain` — what checked options give to the system

The system takes a number only if it lies in the domain of the call. Options are checked in one place
and used in many others; the checks are enough for every call of a run but one: the wait in front of
it is not checked.

## Contents
- **Domains.** `Call.InDomain`.
- **Settings.** `Settings.InRange`, which the checks grant (`Options.inRange_of_settings`).
- **Calls.** `Call.Serves.inDomain`, and `Program.calls_stay_in_domain` for a whole run; a wait that is
  handed on unchecked in `Program.negative_wait_is_handed_on`.
-/

namespace Multicast

open Act

/-! ## Domains -/

/-- What the system can do something with. A pause and a wait do not go back in time, the timer is
    stopped or fires again and again, ports and hop limits fill their fields, and a packet has its
    header and fits into the receiver's room. -/
def Call.InDomain : Call → Prop
  | .wait seconds => 0 ≤ seconds
  | .pause span | .select span => span.NonNegative
  | .setTimer first interval =>
    first.Positive ∧ interval.Positive ∨ first = .ofNat 0 ∧ interval = .ofNat 0
  | .bind _ endpoint => 1 ≤ endpoint.port ∧ endpoint.port ≤ 65535
  | .send _ data target =>
    (1 ≤ target.port ∧ target.port ≤ 65535) ∧
      Packet.headerSize ≤ data.length ∧ data.length ≤ Packet.maxSize
  | .setOption _ .ttl4 value | .setOption _ .hops6 value =>
    ∃ hops : Int, value = .number hops ∧ 0 ≤ hops ∧ hops ≤ 255
  | _ => True

/-! ## Settings -/

/-- The numbers of the settings that are handed to the system as they are. -/
structure Settings.InRange (s : Settings) : Prop where
  period : 1 ≤ s.period
  port : 1 ≤ s.port ∧ s.port ≤ 65535
  ttl : 0 ≤ s.ttl ∧ s.ttl ≤ 255

/-- **Options that pass the checks are in range.** -/
theorem Options.inRange_of_settings {o : Options} {s : Settings} (h : o.settings = .ok s) :
    s.InRange := by
  unfold settings at h
  simp only [Except.bind_eq_ok, demand_eq_ok] at h
  obtain ⟨_, -, _, -, _, -, _, -, _, -, _, -, _, hperiod, _, -, _, -, _, -, _, hport, _, -, _, httl, hs⟩ := h
  rw [← Except.ok.inj hs]
  exact ⟨hperiod, by dsimp only; omega, by dsimp only; omega⟩

/-! ## Calls -/

/-- **A call that hands on what settings in range ask for is in its domain**, unless it is the wait. -/
theorem Call.Serves.inDomain {s : Settings} {c : Call} (h : c.Serves s) (hs : s.InRange) :
    c.InDomain ∨ c = .wait s.wait ∧ s.wait < 0 := by
  have hpositive : ∀ span, Seconds.ofMillis? s.period = some (.span span) → span.Positive := by
    intro span hspan
    obtain ⟨q, hq, hpositive⟩ := Seconds.positive_of_ofMillis? hs.period hspan
    rwa [Seconds.span.inj hq]
  cases c with
  | wait seconds =>
      obtain rfl : seconds = s.wait := h
      by_cases hwait : 0 ≤ s.wait
      · exact Or.inl hwait
      · exact Or.inr ⟨rfl, Int.not_le.1 hwait⟩
  | pause span | select span => exact Or.inl (hpositive span h).nonNegative
  | setTimer first interval =>
      refine Or.inl ?_
      rcases h with ⟨rfl, hinterval⟩ | hstopped
      · exact Or.inl ⟨⟨rfl, by decide⟩, hpositive interval hinterval⟩
      · exact Or.inr hstopped
  | bind id endpoint =>
      refine Or.inl ?_
      show 1 ≤ endpoint.port ∧ endpoint.port ≤ 65535
      rw [show endpoint.port = s.port from h]
      exact hs.port
  | send id data target =>
      obtain ⟨hport, hlength⟩ : target.port = s.port ∧ data.length = Packet.clampSize s.bytes := h
      refine Or.inl ⟨?_, ?_⟩
      · rw [hport]
        exact hs.port
      · rw [hlength]
        exact Packet.clampSize_bounds s.bytes
  | setOption id name value =>
      refine Or.inl ?_
      cases name with
      | ttl4 | hops6 => exact ⟨s.ttl, h, hs.ttl⟩
      | _ => trivial
  | _ => exact Or.inl trivial

namespace Program

/-- **What accepted options hand to the system is in its domain**, but for the wait in front of all
    else: pauses and the waits for arrivals are not negative, the timer is set to positive spans, every
    port that is bound or sent to is in 1..65535, every hop limit in 0..255, and every datagram sent
    has between 12 and 1624 bytes. That is so for all arguments that are read and pass the checks,
    whatever happens in the run; only a negative wait is handed on as it is. -/
theorem calls_stay_in_domain {w : World} {arguments : List String} {o : Options} {s : Settings}
    (hread : CommandLine.read w.options arguments = .ok o) (hs : o.settings = .ok s) :
    ∃ calls : List Call,
      ((main arguments).after w).host.trace.toList = w.host.trace.toList ++ calls ∧
        ∀ c ∈ calls, c.InDomain ∨ c = .wait s.wait ∧ s.wait < 0 := by
  obtain ⟨-, calls, hcalls, hserve⟩ := serving_main hread hs trivial
  have hrange := Options.inRange_of_settings hs
  exact ⟨calls, hcalls, fun c hc => (hserve c hc).inDomain hrange⟩

/-- A world without a terminal, in which a run is told to end when it first waits. -/
def soonEnded : World where
  flags := { period := .ofNat 1 }
  host := { idle := [.signal .terminate] }

/-- The arguments of a sender of one packet with the smallest payload and period, the largest port and
    hop limit, and a wait. -/
def extremeArguments : List String :=
  ["-s", "-c", "1", "-b", "0", "-f", "1", "-p", "65535", "-t", "255", "-w", "2", "225.1.2.3"]

/-- The options that they ask for. -/
def extreme : Options where
  bytes := some 0
  count := some 1
  period := some 1
  join := false
  port := some 65535
  ttl := some 255
  wait := some 2
  groups := ["225.1.2.3"]

/-- Such a sender waits, sets its socket up, pauses and sends, all in domain. -/
theorem extreme_options_stay_in_domain :
    CommandLine.read soonEnded.options extremeArguments = .ok extreme ∧
      (∃ s, extreme.settings = .ok s) ∧
      ∃ calls : List Call, ((main extremeArguments).after soonEnded).host.trace.toList = calls ∧
        .wait 2 ∈ calls ∧ .setOption 1 .ttl4 (.number 255) ∈ calls ∧
        .send 1 (Packet.encode 0 0 12) ⟨.v4 0xe1010203, 65535⟩ ∈ calls ∧ ∀ c ∈ calls, c.InDomain := by
  have hread : CommandLine.read soonEnded.options extremeArguments = .ok extreme := by decide +kernel
  have hs : extreme.settings = .ok ⟨0, 1, true, 1, "", false, some .info, "", false, 65535, 255, 2,
      ["225.1.2.3"]⟩ := by decide +kernel
  obtain ⟨calls, hcalls, hdomain⟩ := calls_stay_in_domain (w := soonEnded) hread hs
  have hall : ((main extremeArguments).after soonEnded).host.trace.toList = calls := hcalls
  refine ⟨hread, ⟨_, hs⟩, calls, hall, ?_, ?_, ?_, fun c hc => ?_⟩
  · rw [← hall]
    decide +kernel
  · rw [← hall]
    decide +kernel
  · rw [← hall]
    decide +kernel
  · exact (hdomain c hc).resolve_right fun hpast => absurd hpast.2 (by decide)

/-- A negative wait passes the checks and is handed to the system, which can do nothing with it. -/
theorem negative_wait_is_handed_on :
    CommandLine.read soonEnded.options ["-w", "-1", "225.1.2.3"] =
        .ok { wait := some (-1), groups := ["225.1.2.3"] } ∧
      (Options.settings { wait := some (-1), groups := ["225.1.2.3"] }).map Settings.wait = .ok (-1) ∧
      .wait (-1) ∈ ((main ["-w", "-1", "225.1.2.3"]).after soonEnded).host.trace.toList ∧
      ¬(Call.wait (-1)).InDomain := by
  refine ⟨by decide +kernel, by decide +kernel, by decide +kernel, fun hpast => ?_⟩
  exact absurd (show (0 : Int) ≤ -1 from hpast) (by decide)

end Program

end Multicast
