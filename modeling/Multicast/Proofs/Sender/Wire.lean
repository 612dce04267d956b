import Multicast.Proofs.Sender.Books
import Multicast.Proofs.Sender.Opening
import Multicast.Proofs.Sender.Rounds

/-!
# `Proofs.Sender.Wire` — what goes over the wire is what the sessions count

A sender that has started on fresh sessions, each of which was resolved, keeps its books for as long
as it runs: in any number of steps, whichever packets are refused, each session counts the packets
that were sent to its group, over the socket of its family. With a limit, a loop of sending makes as
many rounds as the limit says.

## Contents
- **Starting.** `Sender.prospect_start` and `Sender.grounded_start`, then `Sender.inBooks_start`.
- **Sending.** `Packet.length_clamped`, then `Sender.books_match_wire`.
-/

namespace Multicast

open Act

/-- A packet has the size that was asked for, as far as there is room for a header and in a
    datagram. -/
theorem Packet.length_clamped (seq index size : Int) :
    ((encode seq index (clampSize size)).length : Int) = min (max size 12) 1624 := by
  rw [length_encode]
  simp only [clampSize, headerSize, maxSize]
  omega

/-- What a step keeps, any number of steps keep. -/
theorem Act.rel_iterate {α : Type} {F : Frame} {act : Act α} (h : Keeps F act) (k : Nat)
    (w : World) : F.rel w (act.after^[k] w) := by
  induction k generalizing w with
  | zero => exact F.refl w
  | succ k ih => exact F.trans (h w) (ih _)

namespace Sender

variable {s : Sender} {w₀ w₁ : World}

/-! ## Starting -/

theorem prospect_start (hstart : s.start w₀ = .ok () w₁) : w₁.prospect = w₀.prospect :=
  rel_of_ok (F := .of World.prospect) (keeps_start s (fun _ _ _ => rfl)
    opening_prospect.toPreparing fun _ _ => rfl) hstart

theorem grounded_start (hstart : s.start w₀ = .ok () w₁) : w₀.footing.Grounded w₁.footing :=
  rel_of_ok (F := .grounded) (keeps_start s (fun _ _ => grounded_of_upheld (upheld_call _))
    opening_grounded.toPreparing opening_grounded.uplinks) hstart

/-- **A sender that has started** on fresh sessions, all of them resolved, has sent nothing, and
    finds a socket for each. -/
theorem inBooks_start {ops : List Table.Operation} {capacity : Int}
    (htable : w₀.table = Table.afterAll ops { capacity })
    (hresolved : ∀ session ∈ w₀.table.sessions, session.target.isSome) (huplinks : w₀.uplinks = [])
    (hstart : s.start w₀ = .ok () w₁) : s.InBooks w₁.uplinks [] w₁ ∧ w₁.Linked := by
  obtain ⟨hlinked, hlookup⟩ := linked_start huplinks hstart
  obtain ⟨hsame, -⟩ := start_leaves hstart
  have htracks := Table.tracks_afterAll ops (Table.Tracks.of_empty (t := { capacity }) rfl rfl rfl)
  rw [← htable] at htracks
  refine ⟨⟨rfl, fun i session hsession => ?_⟩, hlinked⟩
  rw [hsame] at hsession
  have hmem := List.mem_of_getElem? hsession
  have hfresh : session.Fresh := by
    refine Table.fresh_afterAll ops (t := { capacity }) (fun _ h => nomatch h) session ?_
    rwa [← htable]
  obtain ⟨target, htarget, hfamily⟩ := htracks.all_resolved hresolved session hmem
  obtain ⟨id, hid⟩ := Option.isSome_iff_exists.1 (hlookup _ hfamily)
  refine ⟨⟨hfresh.count, hfresh.seq⟩, ⟨target, id, htarget, hid, rfl⟩, ?_⟩
  exact fun hlimit => Int.le_of_lt hlimit

/-! ## Sending -/

/-- **The books of a sender match the wire.** A sender starts on sessions that are fresh and were
    resolved, however often, and makes any number of steps, in which any packets may be refused.
    Then each session has counted the packets that were sent for it, and its number is that of the
    last one. They carry the numbers from zero on and the session's index, have the size that was
    asked for, and went to the endpoint of its group over the socket that was opened for this
    family. Nothing else is handed to the system, but the packet with which a step fails. A packet
    that the system refuses is a failure of the transport; the session and those behind it are as
    before the step. With a limit, no session sends more packets, and a loop that nothing breaks off
    makes as many rounds. -/
theorem books_match_wire (s : Sender) {ops : List Table.Operation} {capacity : Int}
    (htable : w₀.table = Table.afterAll ops { capacity })
    (hresolved : ∀ session ∈ w₀.table.sessions, session.target.isSome) (huplinks : w₀.uplinks = [])
    (hstart : s.start w₀ = .ok () w₁) :
    (∀ k i session₀, w₀.table.sessions[i]? = some session₀ →
      let w := s.step.after^[k] w₁
      let sent := callsFor i (s.sentBy k w₁)
      ∃ session target id, w.table.sessions[i]? = some session ∧
        session₀.target = some target ∧ session.target = some target ∧
        w.uplinks.lookup target.family = some id ∧
        .openSocket id target.family ∈ w₁.host.trace.toList ∧
        session.count = sent.length ∧
        session.seq = (if session.count = 0 then none else some (session.count - 1)) ∧
        (0 < s.count → session.count ≤ s.count) ∧
        ∀ m (hm : m < sent.length), ∃ data, sent[m] = .send id data target ∧
          Packet.decode? data = some (m % 2 ^ 32, i % 2 ^ 16) ∧
          (data.length : Int) = min (max s.size 12) 1624) ∧
    (∀ k, let w := s.step.after^[k] w₁
      (∃ refused : Option Octets,
        (s.step.after w).host.datagrams =
          w.host.datagrams ++ (s.sentIn w).filterMap (·.2.sent?) ++ refused.toList ∧
        ∀ w', s.step w = .ok () w' → refused = none) ∧
      (∀ i session fault, s.RefusedAt w i session fault →
        ∃ w', s.step w = .error (if fault.isSystem then
            .transport (.sending session.group fault.message) else fault) w' ∧
          ∀ j, w'.table.sessions[j]? =
            if j < i then w.table.sessions[j]?.map s.served else w.table.sessions[j]?) ∧
      ∀ e w', s.step w = .error e w' → (s.paused w = .error e w' ∧ w'.table = w.table) ∨
        ∃ i session fault, w.table.sessions[i]? = some session ∧ s.RefusedAt w i session fault) ∧
    ∀ (d : Display) (bad : Fault → Prop) (timed : Bool) (fuel : Nat), 0 < s.count →
      w₀.table.sessions ≠ [] → w₀.flags.running = true → w₀.table.HasPorts →
      s.period.Suits .pause → (∀ f ∈ w₀.host.failures, f.kind ≠ .send) →
      w₀.host.Expects (fun e => ¬e.Cuts ∧ ¬e.Stops w₀.host.handlers) →
      (timed → ∃ settle period, w₀.flags.settle = .span settle ∧ w₀.flags.period = .span period ∧
        (Call.setTimer settle period).objection? = none) →
      d.LooksOn w₁ bad → s.count.toNat < fuel →
        (∃ w', Loop.run s.transport d timed fuel w₀ = .ok (some s.count.toNat) w') ∨
          ∃ e w', Loop.run s.transport d timed fuel w₀ = .error e w' ∧ bad e := by
  obtain ⟨hbooks, hlinked⟩ := inBooks_start (s := s) htable hresolved huplinks hstart
  obtain ⟨hsame, hflags⟩ := start_leaves hstart
  have hground := grounded_start hstart
  refine ⟨?_, ?_, ?_⟩
  · intro k i session₀ hsession₀ w sent
    have hupheld : w₁.footing.Upheld w.footing := rel_iterate (keeps_step stepping_upheld s) k w₁
    have htargets : w.table.sessions.map Session.target = w₀.table.sessions.map Session.target :=
      hupheld.targets.trans hground.targets
    -- No step resolves a session again, so that the one at this position has the target from before.
    obtain ⟨session, hsession, htarget₀⟩ : ∃ session, w.table.sessions[i]? = some session ∧
        session.target = session₀.target := by
      have hget := congrArg (·[i]?) htargets
      simpa only [List.getElem?_map, hsession₀, Option.map_some, Option.map_eq_some_iff] using hget
    have hk : s.InBooks w₁.uplinks (s.sentBy k w₁) w := hbooks.steps k
    obtain ⟨hnumbered, ⟨target, id, htarget, hid, hcalls⟩, hlimited⟩ := hk.booked i session hsession
    have hid' : w.uplinks.lookup target.family = some id := by rw [hk.linked]; exact hid
    refine ⟨session, target, id, hsession, htarget₀ ▸ htarget, htarget, hid', hlinked _ _ hid,
      hnumbered.count, ?_, ?_, ?_⟩
    · rw [hnumbered.seq, hnumbered.count]
      simp
    · rw [hnumbered.count]
      exact hlimited
    · intro m hm
      refine ⟨Packet.encode m i (Packet.clampSize s.size), ?_, ?_, Packet.length_clamped _ _ _⟩
      · rw [List.getElem_of_eq hcalls hm]
        simp
      · rw [Packet.decode?_encode]
        rfl
  · intro k w
    have hk : s.InBooks w₁.uplinks (s.sentBy k w₁) w := hbooks.steps k
    exact ⟨s.datagrams_step w, fun i session fault => step_of_refusedAt,
      fun e w' => hk.refusedAt_of_step⟩
  · intro d bad timed fuel hlimit hsessions hrunning hports hperiod hgranted hquiet htimed hlooks
      hfuel
    have hhandlers : w₁.host.handlers = w₀.host.handlers :=
      congrArg Prospect.handlers (prospect_start hstart)
    have hquiet₁ := hquiet.grounded hground
    rw [← hsame] at hsessions
    have hready : s.Ready w₁ := by
      refine ⟨fun session hsession => ?_, hasPorts_of_grounded hports hground, hperiod,
        granted_of_grounded hgranted hground, fun events hevents e he => ?_⟩
      · obtain ⟨i, hi⟩ := List.mem_iff_getElem?.1 hsession
        exact hbooks.exists_uplink hi
      · exact (hquiet₁ events hevents e he).1
    have hgoes₁ : w₁.host.Expects fun e => ¬e.Stops w₁.host.handlers := by
      rw [hhandlers]
      exact fun events hevents e he => (hquiet₁ events hevents e he).2
    have hfresh : ∀ session ∈ w₁.table.sessions, session.count = 0 := by
      intro session hsession
      obtain ⟨i, hi⟩ := List.mem_iff_getElem?.1 hsession
      exact (hbooks.booked i session hi).numbered.count
    rw [← hflags] at hrunning htimed
    have hrun := ends_run hready hsessions hgoes₁ hlooks hstart hfresh hlimit hrunning htimed hfuel
    rcases hrun.returns_or_fails with ⟨rounds, w', hok, rfl⟩ | hfails
    · exact Or.inl ⟨w', hok⟩
    · exact Or.inr hfails

/-- Two groups, one of either family, the first of which was resolved twice. -/
def twoFamilies (failures : List Failure) : World where
  flags := { period := .ofNat 1 }
  table := Table.afterAll
    [.add none "225.1.2.3", .add none "ff2e::42", .resolveAll 1234, .resolve 0 1234]
    { capacity := 2 }
  host := { failures }

/-- The third packet is refused, in the second step. The third step sends its number again, and a
    loop that no packet is refused to makes two rounds. -/
theorem refused_number_is_sent_again :
    let s : Sender := { count := 2, period := .ofNat 1 }
    let w₀ := twoFamilies [⟨.send, some 3, .system ⟨some 101, "Network is unreachable"⟩⟩]
    (∃ w₁, s.start w₀ = .ok () w₁ ∧
      (∃ w', s.step (s.step.after w₁) =
          .error (.transport (.sending "225.1.2.3" "[Errno 101] Network is unreachable")) w' ∧
        w'.table.sessions[0]? = (s.step.after w₁).table.sessions[0]?) ∧
      ∃ id data target, (callsFor 0 (s.sentBy 3 w₁))[1]? = some (.send id data target) ∧
        Packet.decode? data = some (1, 0)) ∧
    ∃ w', Loop.run s.transport Progress.display true 3 (twoFamilies []) = .ok (some 2) w' := by
  intro s w₀
  have hquiet : ∀ (p : Event → Prop) failures, (twoFamilies failures).host.Expects p := by
    simp [Host.Expects, twoFamilies]
  have hstart : s.start w₀ = .ok () (s.start.after w₀) := eq_ok_of_outcome (by decide +kernel)
  have hgranted : s.start (twoFamilies []) = .ok () (s.start.after (twoFamilies [])) :=
    eq_ok_of_outcome (by decide +kernel)
  obtain ⟨hsent, hrefused, -⟩ :=
    books_match_wire s (show w₀.table = _ from rfl) (by decide +kernel) rfl hstart
  obtain ⟨-, -, hloop⟩ := books_match_wire s (show (twoFamilies []).table = _ from rfl)
    (by decide +kernel) rfl hgranted
  constructor
  · refine ⟨s.start.after w₀, hstart, ?_⟩
    constructor
    · -- Both packets of the first step were sent, so that the first of the second step is refused.
      let w := s.paused.after (s.step.after (s.start.after w₀))
      have hpause : s.paused (s.step.after (s.start.after w₀)) = .ok () w :=
        eq_ok_of_outcome (by decide +kernel)
      obtain ⟨session, hsession⟩ : ∃ session, w.table.sessions[0]? = some session :=
        Option.isSome_iff_exists.1 (by decide +kernel)
      let target : Endpoint := ⟨.v4 0xe1010203, 1234⟩
      have hid : w.uplinks.lookup target.family = some 1 := by decide +kernel
      have hopen : session.isOpen s.count ∧ session.group = "225.1.2.3" ∧
          session.target = some target := by
        have hhere : w.table.sessions[0]?.all (fun session => session.isOpen s.count ∧
            session.group = "225.1.2.3" ∧ session.target = some target) := by
          decide +kernel
        rw [hsession] at hhere
        simpa using hhere
      have hrefusal : w.host.refusal? .send (.send 1 (s.packet 0 session) target) =
          some (.system ⟨some 101, "Network is unreachable"⟩) := by
        have hhere : w.table.sessions[0]?.all (fun session =>
            w.host.refusal? .send (.send 1 (s.packet 0 session) target) =
              some (.system ⟨some 101, "Network is unreachable"⟩)) := by
          decide +kernel
        rw [hsession] at hhere
        simpa using hhere
      obtain ⟨-, hsecond, -⟩ := hrefused 1
      rw [Function.iterate_one] at hsecond
      obtain ⟨w', herror, hothers⟩ :=
        hsecond 0 session _ ⟨w, w, target, 1, hpause, hsession, rfl, hopen.1, hopen.2.2, hid, hrefusal⟩
      rw [hopen.2.1] at herror
      exact ⟨w', herror, (hothers 0).trans (if_neg (Nat.lt_irrefl 0))⟩
    · obtain ⟨session₀, hsession₀⟩ : ∃ session, w₀.table.sessions[0]? = some session :=
        Option.isSome_iff_exists.1 (by decide +kernel)
      have hlength : 1 < (callsFor 0 (s.sentBy 3 (s.start.after w₀))).length := by decide +kernel
      obtain ⟨session, target, id, -, -, -, -, -, -, -, -, hcalls⟩ := hsent 3 0 session₀ hsession₀
      obtain ⟨data, hcall, hdecode, -⟩ := hcalls 1 hlength
      exact ⟨id, data, target, by rw [List.getElem?_eq_getElem hlength, hcall], hdecode⟩
  · have hlimit : 0 < s.count ∧ s.count.toNat < 3 := by decide
    have hgroups : (twoFamilies []).table.sessions ≠ [] := by decide +kernel
    have hports : (twoFamilies []).table.HasPorts := by decide +kernel
    have hperiod : s.period.Suits .pause := ⟨.ofNat 1, rfl, by decide +kernel⟩
    have htimer : (Call.setTimer (.ofNat 1) (.ofNat 1)).objection? = none := by decide +kernel
    rcases hloop Progress.display (fun _ => False) true 3 hlimit.1 hgroups rfl hports hperiod
      (by simp [twoFamilies]) (hquiet _ _) (fun _ => ⟨.ofNat 1, .ofNat 1, rfl, rfl, htimer⟩)
      (Progress.looksOn _ _) hlimit.2 with hok | ⟨e, w', -, hbad⟩
    · exact hok
    · exact hbad.elim

end Sender

end Multicast
