import Multicast.Proofs.Act.Tally
import Multicast.Proofs.Address.Canonical
import Multicast.Proofs.Membership.Layout
import Multicast.Proofs.Receiver.Counting
import Multicast.Proofs.Table.Operations

/-!
# `Proofs.Receiver.Joining` — what the system is asked for when a session is joined

A session that was resolved has a group, and a source of the same family if it has one. Joining it
sets one option of its socket. What the system reads from the option's value is the session's group
and source again, so two sessions that differ in these are never joined with the same value.

## Contents
- **Options.** `Act.SetsOption`, a step that sets one option, once; what it sets is determined
  (`Act.SetsOption.unique`).
- **Sessions.** `Session.Resolved` and `Session.Resolved.exists_target`.
- **Joining.** `Receiver.Attempt`, `Receiver.Attempt.Feasible` and `Receiver.Attempt.Carries`, with
  `Receiver.Attempt.Feasible.exists_carries` and `Receiver.Attempt.Carries.unique`; then
  `Receiver.join_carries_session`.
-/

namespace Multicast

open Act

/-! ## Options -/

/-- The calls that set an option of a socket. -/
def Call.isOption : Call → Bool
  | .setOption _ _ _ => true
  | _ => false

namespace Act

variable {α β : Type} {id id' : SocketId} {name name' : OptionName} {value value' : Octets}
  {w : World}

/-- The step sets one option of a socket, once, whether or not the system grants it. -/
def SetsOption (act : Act α) (w : World) (id : SocketId) (name : OptionName) (value : Octets) :
    Prop :=
  (act.after w).host.trace.toList.filter Call.isOption =
    w.host.trace.toList.filter Call.isOption ++ [.setOption id name (.bytes value)]

/-- There is one option only that a step sets. -/
theorem SetsOption.unique {act : Act α} (h : act.SetsOption w id name value)
    (h' : act.SetsOption w id' name' value') : name = name' ∧ value = value' := by
  have hcalls := List.append_cancel_left (Eq.trans (Eq.symm h) h')
  injection hcalls with hcall
  injection hcall with _ hname hvalue
  injection hvalue with hvalue
  exact ⟨hname, hvalue⟩

/-- Setting an option sets it, and no other. -/
theorem setsOption_setOption (id : SocketId) (name : OptionName) (value : Octets) (w : World) :
    (setOption id name (.bytes value)).SetsOption w id name value := by
  unfold SetsOption setOption
  rw [after_attempt]
  have htally : (granted .setOption (.setOption id name (.bytes value)) w.host).tally Call.isOption =
      _ := (tally_granted _ _ w.host).trans (Host.tally_record w.host _)
  exact congrArg Prod.fst htally

/-- A step that sets an option sets it behind a first step that sets none. -/
theorem SetsOption.behind {x : Act α} {f : α → Act β} {w₁ : World} {a : α} (hx : x w = .ok a w₁)
    (hnone : w₁.host.tally Call.isOption = w.host.tally Call.isOption)
    (hf : (f a).SetsOption w₁ id name value) : (x >>= f).SetsOption w id name value := by
  have hcalls : w₁.host.trace.toList.filter Call.isOption =
      w.host.trace.toList.filter Call.isOption := congrArg Prod.fst hnone
  unfold SetsOption at hf ⊢
  rw [after_bind_of_ok hx, hf, hcalls]

/-- Asking for an address sets no option. -/
theorem interfaceAddress_sets_none {interface : String} {family : Int} {fallback : Bool}
    {text : String} {w₁ : World} (h : interfaceAddress interface family fallback w = .ok text w₁) :
    w₁.host.tally Call.isOption = w.host.tally Call.isOption := by
  have hcall : ∀ c : Call, c.isOption = false →
      Keeps (.of fun w => w.host.tally Call.isOption) (call c) :=
    fun c hc w => Host.tally_record_of_not hc w.host
  have hkeeps := keeps_interfaceAddress (fun _ => hcall _ rfl) (fun _ _ => hcall _ rfl)
    (tally_check .lookup) interface family fallback
  exact rel_of_ok hkeeps h

/-- The address that an interface's listing shows is the one that is found. -/
theorem exists_interfaceAddress_of_listed {interface : String} {family : Int} {address : List Char}
    (hfamily : family ≠ 0) (hname : interface ≠ "")
    (h : Interfaces.listedAddress? none ((w.host.commands.lookup
      (Interfaces.addressCommand interface family)).getD "").toList = some address)
    (fallback : Bool) :
    ∃ w', interfaceAddress interface family fallback w = .ok (String.ofList address) w' := by
  let w₁ : World := { w with
    host := w.host.record (.command (Interfaces.addressCommand interface family)) }
  have houtput : output (Interfaces.addressCommand interface family) w = .ok
      ((w.host.commands.lookup (Interfaces.addressCommand interface family)).getD "") w₁ := rfl
  have hfirst : firstAddress interface [family] w = .ok (some (String.ofList address)) w₁ := by
    rw [firstAddress, if_neg hname, bind_of_ok houtput]
    dsimp only
    rw [h]
    rfl
  refine ⟨w₁, ?_⟩
  unfold interfaceAddress Interfaces.familiesOf
  rw [if_neg hfamily, bind_of_ok hfirst]
  rfl

end Act

/-! ## Sessions -/

/-- The session is one that was resolved in a table. -/
def Session.Resolved (s : Session) : Prop :=
  ∃ (t t' : Table) (i port : Int), t.resolve i port = .ok t' ∧ t'.get? i = some s

/-- Counting the family of a session leaves the sessions as they are. -/
theorem Table.get?_countResolved (d : Session) (t : Table) (i : Int) :
    (t.countResolved d).get? i = t.get? i := by
  unfold countResolved
  cases d.target with
  | none => rfl
  | some target =>
      dsimp only
      cases target.family <;> rfl

/-- What was resolved is the session that stands at the index afterwards. -/
theorem Table.exists_of_resolve {t t' : Table} {i port : Int} {s : Session}
    (h : t.resolve i port = .ok t') (hs : t'.get? i = some s) :
    ∃ before : Session, before.resolve port = .ok s := by
  cases hbefore : t.get? i with
  | none =>
      rw [resolve_of_none hbefore] at h
      cases h
  | some before =>
      obtain ⟨k, hk, hsession⟩ := position?_of_get? hbefore
      rw [resolve_of_some hk hsession] at h
      cases hd : before.resolve port with
      | error e =>
          rw [hd] at h
          cases h
      | ok d =>
          rw [hd] at h
          obtain rfl := Except.ok.inj h
          have hat : (t.replace k d).get? i = some d := get?_replace hk hsession d
          rw [get?_countResolved] at hs
          obtain rfl : d = s := Option.some.inj (hat.symm.trans hs)
          exact ⟨before, hd⟩

/-- **A session that was resolved** has the addresses that its texts name, of one family. -/
theorem Session.Resolved.exists_target {s : Session} (h : s.Resolved) :
    ∃ target, s.target = some target ∧ Address.read? s.group = some target.address ∧
      NamesSource target.family s.source? (s.origin.map (·.address)) ∧
      ∀ source ∈ s.origin, source.family = target.family := by
  obtain ⟨t, t', i, port, hresolve, hs⟩ := h
  obtain ⟨before, hbefore⟩ := Table.exists_of_resolve hresolve hs
  obtain ⟨target, origin, htarget, hnames, rfl⟩ := Session.resolve_eq_ok_iff.1 hbefore
  refine ⟨⟨target, port⟩, rfl, htarget, ?_, ?_⟩
  · have horigin : (origin.map fun a => (⟨a, 0⟩ : Endpoint)).map (·.address) = origin := by
      cases origin <;> rfl
    exact Eq.mpr (congrArg (NamesSource _ _) horigin) hnames
  · intro source hsource
    obtain ⟨a, rfl, rfl⟩ := Option.map_eq_some_iff.1 hsource
    unfold NamesSource at hnames
    split at hnames
    · cases hnames
    · obtain ⟨b, hb, hab⟩ := hnames
      cases hab
      exact Address.family_of_readAs? hb

/-! ## Joining -/

namespace Receiver

/-- An attempt to join a session. -/
structure Attempt where
  receiver : Receiver
  /-- The index of the receiver's interface. -/
  index : Int
  socket : SocketId
  world : World

/-- The option that the attempt sets for a session, with its value; it sets no other. -/
def Attempt.Sets (a : Attempt) (s : Session) (name : OptionName) (value : Octets) : Prop :=
  ∃ target, s.target = some target ∧
    (a.receiver.join a.index a.socket target s.origin).SetsOption a.world a.socket name value

/-- The index is one that interfaces have, and where an IPv4 source asks for an address of the
    interface, the text that is found for it is read as that address. -/
structure Attempt.Feasible (a : Attempt) (s : Session) (address : Octets) : Prop where
  index : 0 ≤ a.index ∧ a.index < 2 ^ 31
  address : ∀ target ∈ s.target, target.family = .inet → s.origin.isSome →
    ∃ text w, interfaceAddress a.receiver.interface Family.inet.number false a.world = .ok text w ∧
      Address.readNumbers? text = some address

theorem length_of_readNumbers? {text : String} {address : Octets}
    (h : Address.readNumbers? text = some address) : address.length = 4 := by
  simp only [Address.readNumbers?, Option.bind_eq_bind, Option.bind_eq_some_iff,
    Option.map_eq_some_iff] at h
  obtain ⟨ns, -, n, -, rfl⟩ := h
  exact length_bigEndian 4 n

/-- Without an IPv4 source, the interface's address plays no part in a request. -/
theorem request?_of_not_needed {target : Endpoint} {origin : Option Endpoint}
    (h : ¬(target.family = .inet ∧ origin.isSome)) (index : Int) (address address' : Octets) :
    Membership.request? target origin index address =
      Membership.request? target origin index address' := by
  unfold Membership.request?
  cases hfamily : target.family with
  | inet =>
      cases origin with
      | none => rfl
      | some source => exact absurd ⟨hfamily, rfl⟩ h
  | inet6 => cases origin <;> rfl

/-- **A feasible attempt sets the option of the request**, and no other. -/
theorem Attempt.Feasible.sets {a : Attempt} {s : Session} {target : Endpoint}
    {address value : Octets} {name : OptionName} (h : a.Feasible s address)
    (htarget : s.target = some target)
    (hrequest : Membership.request? target s.origin a.index address = some (name, value)) :
    a.Sets s name value := by
  refine ⟨target, htarget, ?_⟩
  unfold join
  by_cases hneeded : target.family = .inet ∧ s.origin.isSome
  · obtain ⟨text, w₁, htext, hread⟩ := h.address target htarget hneeded.1 hneeded.2
    have hlocal : a.receiver.localAddress a.world = .ok address w₁ := by
      unfold localAddress
      rw [bind_of_ok htext, hread]
      rfl
    rw [if_pos hneeded]
    apply SetsOption.behind hlocal (interfaceAddress_sets_none htext)
    dsimp only
    rw [hrequest]
    exact setsOption_setOption a.socket name value w₁
  · rw [if_neg hneeded]
    apply SetsOption.behind (pure_apply [] a.world) rfl
    dsimp only
    rw [request?_of_not_needed hneeded a.index [] address, hrequest]
    exact setsOption_setOption a.socket name value a.world

/-- The attempt sets one option, and from its value the system reads the session. -/
structure Attempt.Carries (a : Attempt) (s : Session) (target : Endpoint) (address : Octets)
    (name : OptionName) (value : Octets) : Prop where
  sets : a.Sets s name value
  option : (name.level, name.number) = Membership.option target.family s.origin.isSome
  read : Membership.Request.decode? (name.level, name.number) value =
    some ⟨target.address, s.origin.map (·.address),
      Membership.device target.family s.origin.isSome a.index address⟩
  /-- A record for an IPv6 source has both addresses eight bytes into their socket addresses. -/
  layout : target.family = .inet6 → ∀ source ∈ s.origin, value.length = 264 ∧
    value.field (8 + 8) 16 = target.packed ∧ value.field (136 + 8) 16 = source.packed

/-- A feasible attempt carries a session whose endpoints are of one family. -/
theorem Attempt.Feasible.exists_carries {a : Attempt} {s : Session} {target : Endpoint}
    {address : Octets} (h : a.Feasible s address) (htarget : s.target = some target)
    (hfamily : ∀ source ∈ s.origin, source.family = target.family) :
    ∃ name value, a.Carries s target address name value := by
  have haddress : target.family = .inet → s.origin.isSome → address.length = 4 := by
    intro hinet hsource
    obtain ⟨text, w, -, hread⟩ := h.address target htarget hinet hsource
    exact length_of_readNumbers? hread
  obtain ⟨name, value, hrequest, hoption, hread, hlayout⟩ :=
    Membership.decode_request h.index hfamily haddress
  refine ⟨name, value, h.sets htarget hrequest, hoption, ?_, hlayout⟩
  rw [hoption]
  exact hread

/-- An attempt that carries a session sets what it carries. -/
theorem Attempt.Carries.unique {a : Attempt} {s : Session} {target : Endpoint}
    {address value value' : Octets} {name name' : OptionName}
    (h : a.Carries s target address name value) (h' : a.Sets s name' value') : value' = value := by
  obtain ⟨target₁, htarget₁, hsets⟩ := h.sets
  obtain ⟨target₂, htarget₂, hsets'⟩ := h'
  obtain rfl : target₁ = target₂ := Option.some.inj (htarget₁.symm.trans htarget₂)
  exact (hsets'.unique hsets).2

/-- **A session that was resolved is what the system is asked for when it is joined.** Its group and
    its source, if it has one, are of one family; the one option that is set is that for the family
    and the source, and is read as the group, the source and the interface. So sessions of a kind
    that differ in group or source are never joined with the same value. -/
theorem join_carries_session {s : Session} (hs : s.Resolved) :
    ∃ target, s.target = some target ∧ Address.read? s.group = some target.address ∧
      NamesSource target.family s.source? (s.origin.map (·.address)) ∧
      (∀ source ∈ s.origin, source.family = target.family) ∧
      (∀ (a : Attempt) address, a.Feasible s address →
        ∃ name value, a.Carries s target address name value) ∧
      ∀ s' target', s'.Resolved → s'.target = some target' → target'.family = target.family →
        s'.origin.isSome = s.origin.isSome →
        target'.address ≠ target.address ∨
          s'.origin.map (·.address) ≠ s.origin.map (·.address) →
        ∀ (a a' : Attempt) address address' name name' value value',
          a.Feasible s address → a'.Feasible s' address' →
          a.Sets s name value → a'.Sets s' name' value' → value' ≠ value := by
  obtain ⟨target, htarget, hgroup, hsource, hfamily⟩ := hs.exists_target
  refine ⟨target, htarget, hgroup, hsource, hfamily, ?_, ?_⟩
  · intro a address ha
    exact ha.exists_carries htarget hfamily
  · intro s' target' hs' htarget' hsame hkind hdiffer a a' address address' name name' value value'
      ha ha' hsets hsets' heq
    obtain ⟨target₂, htarget₂, -, -, hfamily'⟩ := hs'.exists_target
    obtain rfl : target₂ = target' := Option.some.inj (htarget₂.symm.trans htarget')
    obtain ⟨name₁, value₁, hcarries⟩ := ha.exists_carries htarget hfamily
    obtain ⟨name₂, value₂, hcarries'⟩ := ha'.exists_carries htarget' hfamily'
    obtain rfl := hcarries.unique hsets
    obtain rfl := hcarries'.unique hsets'
    -- The option is the same for both, so that one value is read in one way.
    have hread := hcarries.read
    have hread' := hcarries'.read
    rw [hcarries.option] at hread
    rw [hcarries'.option, hsame, hkind, heq, hread] at hread'
    injection hread' with hrequest
    injection hrequest with hgroups hsources
    rcases hdiffer with hdiffer | hdiffer
    · exact hdiffer hgroups.symm
    · exact hdiffer hsources.symm

/-- An attempt on an interface that is listed with an address. -/
def Attempt.onListed : Attempt where
  receiver := { interface := "eth0", period := .ofNat 1 }
  index := 3
  socket := 1
  world := {
    host := { commands := [(Interfaces.addressCommand "eth0" 2,
      "2: eth0    inet 192.168.1.42/24 scope global eth0\n")] }
    flags := { period := .ofNat 1 } }

/-- Two sources of one group are joined with different values; that of the first is read as its
    addresses, with that of the interface. -/
theorem sources_are_joined_apart :
    ∃ s s' : Session, s.Resolved ∧ s'.Resolved ∧
      s.label = "10.0.0.1,232.1.1.1" ∧ s'.label = "10.0.0.2,232.1.1.1" ∧
      ∃ name value name' value', Attempt.onListed.Sets s name value ∧
        (name.level, name.number) = (0, 39) ∧
        Membership.Request.decode? (0, 39) value =
          some ⟨.v4 0xe8010101, some (.v4 0x0a000001), .address [192, 168, 1, 42]⟩ ∧
        Attempt.onListed.Sets s' name' value' ∧ value' ≠ value := by
  let unresolved (source : String) : Session := { source := some source, group := "232.1.1.1" }
  let resolved (source : String) (host : BitVec 32) : Session :=
    { unresolved source with
      target := some ⟨.v4 0xe8010101, 1234⟩
      origin := some ⟨.v4 host, 0⟩ }
  have hs : (resolved "10.0.0.1" 0x0a000001).Resolved :=
    ⟨{ sessions := [unresolved "10.0.0.1"] },
      { sessions := [resolved "10.0.0.1" 0x0a000001], need4 := 1 }, 0, 1234, by decide +kernel, rfl⟩
  have hs' : (resolved "10.0.0.2" 0x0a000002).Resolved :=
    ⟨{ sessions := [unresolved "10.0.0.2"] },
      { sessions := [resolved "10.0.0.2" 0x0a000002], need4 := 1 }, 0, 1234, by decide +kernel, rfl⟩
  have hlisted : Interfaces.listedAddress? none ((Attempt.onListed.world.host.commands.lookup
      (Interfaces.addressCommand "eth0" 2)).getD "").toList = some "192.168.1.42".toList := by
    decide +kernel
  obtain ⟨w, hw⟩ := exists_interfaceAddress_of_listed (by decide) (by decide) hlisted false
  have hread : Address.readNumbers? (String.ofList "192.168.1.42".toList) =
      some [192, 168, 1, 42] := by
    decide +kernel
  have hfeasible : ∀ s, Attempt.onListed.Feasible s [192, 168, 1, 42] := fun s =>
    ⟨⟨by decide, by decide⟩, fun _ _ _ _ => ⟨_, w, hw, hread⟩⟩
  obtain ⟨target, ⟨⟩, -, -, -, hcarries, hapart⟩ := join_carries_session hs
  obtain ⟨target', ⟨⟩, -, -, -, hcarries', -⟩ := join_carries_session hs'
  obtain ⟨name, value, hvalue⟩ := hcarries _ _ (hfeasible _)
  obtain ⟨name', value', hvalue'⟩ := hcarries' _ _ (hfeasible _)
  refine ⟨_, _, hs, hs', by decide +kernel, by decide +kernel, name, value, name', value',
    hvalue.sets, hvalue.option, ?_, hvalue'.sets, ?_⟩
  · have hread := hvalue.read
    rw [hvalue.option] at hread
    exact hread
  · exact hapart _ _ hs' rfl rfl rfl (Or.inr (by decide)) _ _ _ _ _ _ _ _ (hfeasible _) (hfeasible _)
      hvalue.sets hvalue'.sets

end Receiver

end Multicast
