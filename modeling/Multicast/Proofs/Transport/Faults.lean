import Multicast.Proofs.Receiver.Sockets
import Multicast.Proofs.Sender.Uplinks
import Multicast.Proofs.Table.Build
import Multicast.Proofs.Transport.Footing

/-!
# `Proofs.Transport.Faults` — what sending and receiving fail with

Every call that the system may refuse to a transport is handled where it is made, and its refusal
becomes a failure of the transport that says what was attempted. The one exception is the call that
opens a socket. Nothing else can go wrong with resolved sessions, as long as the interface has an
index that fits, and its numbers are in the ranges of the calls that take them.

## Contents
- **Footing.** `Footing.Sound` and `Footing.Firm`, what opening a transport and its steps rely on,
  and `Startable`; `Table.resolved_of_build` and `Table.hasPorts_of_build` for the sessions of a run.
- **Opening.** `ends_openAndTranslate` for one socket, then `Sender.ends_start_firm` and
  `Receiver.ends_start_firm`.
- **Periods.** `Fault.OfRange`, which is all that `Call.ofRange_of_select` and `Call.ofRange_of_pause`
  leave for a wait to say of its span.
- **Stepping.** `failsAs_await`, then `Sender.failsAs_step` and `Receiver.ends_step_firm`;
  `Sender.step_of_objection` and `Receiver.step_of_objection` for a period out of range.
- **Closing.** `Sender.exists_close` and `Receiver.exists_close`.
-/

namespace Multicast

open Act

variable {w : World}

/-! ## Footing -/

/-- A failure of the transport. -/
def Fault.OfTransport (e : Fault) : Prop := ∃ t, e = .transport t

/-- The event is a fault only if a receiver's wait for its sockets fails in the system. -/
def Event.Tame (join : Bool) : Event → Prop
  | .fault f => join = true ∧ f.isSystem = true
  | _ => True

/-- The calls of a transport are refused by failures of the system only, and the events to come are
    tame. While the transport is opened, nothing waits and no wait fails. -/
structure Footing.Sound (join : Bool) (f : Footing) : Prop where
  refusals : ∀ p ∈ f.refusals, p.1.onSockets = true → p.2.isSystem
  opening : ∀ e ∈ f.opening, ¬e.Cuts
  waits : ∀ events ∈ f.waits, ∀ e ∈ events, e.Tame join

/-- Every session is resolved to a port that there is, a sender has a socket of its family, and the
    sockets that a receiver watches are watched for sessions of the table. -/
structure Footing.Firm (join : Bool) (f : Footing) : Prop extends f.Sound join where
  targets : ∀ t ∈ f.targets, ∃ target, t = some target ∧ target.HasPort ∧
    (join = false → (f.uplinks.lookup target.family).isSome)
  places : join = true → ∀ p ∈ f.places, p.2 < f.targets.length

/-- Every session is resolved, and its family counted. -/
def Table.Resolved (t : Table) : Prop :=
  ∀ s ∈ t.sessions, ∃ target, s.target = some target ∧ target.family ∈ t.families

/-- **A transport can be opened**: the sessions are resolved and not watched yet, ports and indexes of
    interfaces fit, and the system is to blame for all that is refused. -/
structure Startable (join : Bool) (w : World) : Prop where
  sound : w.footing.Sound join
  resolved : w.table.Resolved
  ports : w.table.HasPorts
  indexes : w.host.IndexesFit
  unwatched : w.host.watched = []

theorem Footing.Sound.upheld {join : Bool} {f f' : Footing} (h : f.Sound join) (hf : f.Grounded f') :
    f'.Sound join := by
  refine ⟨?_, ?_, fun events hevents => h.waits events (hf.waits events hevents)⟩
  · rw [hf.refusals]
    exact h.refusals
  · rw [hf.opening]
    exact h.opening

/-- **An open transport stays so** while its footing is upheld. -/
theorem Footing.Firm.upheld {join : Bool} {f f' : Footing} (h : f.Firm join) (hf : f.Upheld f') :
    f'.Firm join := by
  refine ⟨h.toSound.upheld hf.toGrounded, ?_, ?_⟩
  · rw [hf.targets, hf.uplinks]
    exact h.targets
  · rw [hf.places, hf.targets]
    exact h.places

/-- What can be opened before a step that upholds the footing can be opened after it. -/
theorem Startable.upheld {join : Bool} {w' : World} (h : Startable join w)
    (hw : w.footing.Upheld w'.footing) : Startable join w' := by
  refine ⟨h.sound.upheld hw.toGrounded, ?_, hasPorts_of_grounded h.ports hw.toGrounded, ?_, ?_⟩
  · intro s hs
    have hmem : s.target ∈ w.footing.targets := by
      rw [← hw.targets]
      exact List.mem_map_of_mem hs
    obtain ⟨s₀, hs₀, hsame⟩ := List.mem_map.1 hmem
    rw [← hsame, show w'.table.families = w.table.families from hw.families]
    exact h.resolved s₀ hs₀
  · intro p hp
    rw [show w'.host.interfaces = w.host.interfaces from hw.interfaces] at hp
    exact h.indexes p hp
  · have hplaces : w'.host.watched.map Watch.place = w.host.watched.map Watch.place := hw.places
    rw [h.unwatched, List.map_nil] at hplaces
    exact List.map_eq_nil_iff.1 hplaces

theorem Footing.Sound.refuses {join : Bool} (h : w.footing.Sound join) {kind : CallKind}
    (hkind : kind.onSockets = true) : w.host.RefusesBySystem kind := by
  intro f hf hsame
  refine h.refusals (f.kind, f.fault) (List.mem_map_of_mem hf) ?_
  show f.kind.onSockets = true
  rw [hsame]
  exact hkind

/-- A family of which something was resolved is one of the table's. -/
theorem Table.mem_families {t : Table} {family : Family}
    (h : match family with
      | .inet => 0 < t.need4
      | .inet6 => 0 < t.need6) : family ∈ t.families := by
  unfold families
  cases family with
  | inet =>
      rw [if_neg (Nat.ne_of_gt h)]
      exact List.mem_append_left _ (List.mem_singleton.2 rfl)
  | inet6 =>
      rw [if_neg (Nat.ne_of_gt h)]
      exact List.mem_append_right _ (List.mem_singleton.2 rfl)

/-- The sessions of a table that was built are resolved. -/
theorem Table.resolved_of_build {tokens : List String} {port capacity : Int} {t : Table}
    (h : (build tokens port capacity).2 = .ok t) : t.Resolved := by
  obtain ⟨rs, hmeets⟩ := meets_of_build h
  intro s hs
  obtain ⟨target, htarget, -⟩ := hmeets.target hs
  refine ⟨target, htarget, mem_families ?_⟩
  have hcounted : 0 < t.sessions.countP (·.isOf target.family) := by
    rw [List.countP_pos_iff]
    refine ⟨s, hs, ?_⟩
    simp [Session.isOf, htarget]
  cases hfamily : target.family with
  | inet =>
      rw [hfamily, ← hmeets.need4] at hcounted
      exact hcounted
  | inet6 =>
      rw [hfamily, ← hmeets.need6] at hcounted
      exact hcounted

/-- They are on the port that was asked for. -/
theorem Table.hasPorts_of_build {tokens : List String} {port capacity : Int} {t : Table}
    (h : (build tokens port capacity).2 = .ok t) (hport : fitsUnsigned 16 port = true) :
    t.HasPorts := by
  obtain ⟨rs, hmeets⟩ := meets_of_build h
  intro target htarget
  obtain ⟨s, hs, hsame⟩ := List.mem_map.1 htarget
  obtain ⟨target', htarget', rfl⟩ := hmeets.target hs
  obtain rfl : target' = target := Option.some.inj (htarget'.symm.trans hsame)
  exact hport

namespace Act

/-- A call of a transport is refused by the system, or objects to its numbers. -/
theorem failsAs_attempt_or {join : Bool} (h : w.footing.Sound join) {kind : CallKind}
    (hkind : kind.onSockets = true) (c : Call) :
    Upholds w (fun e => e.isSystem ∨ c.objection? = some e) (attempt kind c) := by
  refine failsAs_of_upheld (keeps_attempt (upheld_call c) (upheld_check kind)) ?_
  intro w₁ h₁ e w' herror
  rcases refused_of_attempt herror with hobjection | ⟨f, hf, hsame, rfl⟩
  · exact Or.inr (objection_of_host hobjection)
  · exact Or.inl ((h.upheld h₁.toGrounded).refuses hkind f hf hsame)

/-- One with its numbers in their ranges is refused by the system. -/
theorem failsAs_attempt {join : Bool} (h : w.footing.Sound join) {kind : CallKind} {c : Call}
    (hkind : kind.onSockets = true) (hc : c.ObjectsBySystem) :
    Upholds w (fun e => e.isSystem) (attempt kind c) :=
  (failsAs_attempt_or h hkind c).mono fun e he => he.elim id (hc e)

end Act

/-! ## Opening -/

theorem settingUp_upheld : Frame.upheld.SettingUp where
  call c _ := upheld_call c
  check := upheld_check
  log := upheld_log
  numbered _ _ := .refl _

/-- What a socket fails to be opened with, the system refused it with. -/
theorem refused_of_openSocket {family : Family} {w' : World} {e : Fault}
    (h : openSocket family w = .error e w') : (.openSocket, e) ∈ w.footing.refusals := by
  unfold openSocket at h
  rcases bind_eq_error.1 h with hcheck | ⟨_, w₁, -, hrest⟩
  · obtain ⟨f, hf, hkind, hfault⟩ := refused_of_check hcheck
    refine List.mem_map.2 ⟨f, hf, ?_⟩
    rw [hkind, hfault]
  · cases hrest

/-- A fault with which opening a transport may fail on this footing. -/
def Footing.Admits (f : Footing) (e : Fault) : Prop :=
  e.OfTransport ∨ (.openSocket, e) ∈ f.refusals

theorem Footing.Grounded.admits {f f' : Footing} (h : f.Grounded f') {e : Fault} (he : f'.Admits e) :
    f.Admits e := by
  unfold Admits at he ⊢
  rw [← h.refusals]
  exact he

/-- **Opening a socket and setting it up.** Where the system refuses to set it up, that is a failure
    of the transport. -/
theorem ends_openAndTranslate {α : Type} (family : Family) (setUp : SocketId → Act Unit)
    (failure : Fault → TransportError) (rest : SocketId → Act α) {returns : α → World → Prop}
    {fails : Fault → World → Prop}
    (hsetUp : ∀ id, Upholds w (fun e => e.isSystem) (setUp id))
    (hrest : ∀ id w', w.footing.Upheld w'.footing → Ends (rest id) w' returns fails)
    (hfails : ∀ e w', w.footing.Admits e → fails e w') :
    Ends (do
        let id ← openSocket family
        recover (setUp id) Fault.isSystem fun e => do
          closeSocket id
          throw (.transport (failure e))
        rest id) w returns fails := by
  have hopen : Upholds w (fun e => (.openSocket, e) ∈ w.footing.refusals) (openSocket family) := by
    refine failsAs_of_upheld (keeps_openSocket settingUp_upheld.toPreparing family) ?_
    intro w₁ h₁ e w' herror
    rw [← h₁.refusals]
    exact refused_of_openSocket herror
  refine ends_bind ((hopen w (.refl _)).mono (fun id w₁ h₁ => ?_) ?_)
  · refine ends_bind (ends_recover ((hsetUp id w₁ h₁).mono (fun _ w₂ h₂ => hrest id w₂ h₂) ?_))
    rintro e w₂ ⟨hsystem, -⟩
    rw [if_pos hsystem]
    exact hfails _ _ (Or.inl ⟨failure e, rfl⟩)
  · rintro e w' ⟨hrefused, -⟩
    exact hfails e w' (Or.inr hrefused)

/-- What fails by the system from any resources does so from those of the world. -/
theorem isSystem_of_failsBySystem {α : Type} {act : Act α} (h : FailsBySystem w.resources act)
    {e : Fault} {w' : World} (herror : act w = .error e w') : e.isSystem := by
  have hends := h w rfl
  unfold Ends at hends
  rw [herror] at hends
  exact hends.1

/-- Setting up a socket upholds the footing, and fails by the system only. -/
theorem failsAs_setUp {join : Bool} {setUp : Act Unit} (hsound : w.footing.Sound join)
    (hkeeps : Keeps .upheld setUp) (hsystem : ∀ rs : Resources, rs.RefusesBySystem .setOption →
      rs.RefusesBySystem .bind → FailsBySystem rs setUp) :
    Upholds w (fun e => e.isSystem) setUp := by
  refine failsAs_of_upheld hkeeps fun w₁ h₁ e w' herror => ?_
  have hsound₁ := hsound.upheld h₁.toGrounded
  exact isSystem_of_failsBySystem (hsystem w₁.resources
    (World.refusesBySystem_iff.2 (hsound₁.refuses rfl))
    (World.refusesBySystem_iff.2 (hsound₁.refuses rfl))) herror

namespace Sender

/-- The uplink of a family is the one that it got last; the other families keep theirs. -/
theorem lookup_withUplink_eq (family family' : Family) (id : SocketId)
    (uplinks : List (Family × SocketId)) :
    (withUplink family id uplinks).lookup family' =
      if family' = family then some id else uplinks.lookup family' := by
  have hcons : ∀ (f : Family) (old : SocketId) rest, List.lookup family' ((f, old) :: rest) =
      if family' = f then some old else rest.lookup family' := by
    intro f old rest
    rw [List.lookup_cons]
    by_cases hf : family' = f
    · simp [hf]
    · simp [hf, beq_eq_false_iff_ne.2 hf]
  induction uplinks with
  | nil => exact hcons family id []
  | cons uplink uplinks ih =>
      obtain ⟨f, old⟩ := uplink
      unfold withUplink
      by_cases hf : f = family
      · rw [if_pos hf, hcons, hcons, hf]
        split <;> rfl
      · rw [if_neg hf, hcons, hcons, ih]
        by_cases hhere : family' = f
        · rw [if_pos hhere, if_neg (hhere ▸ hf), if_pos hhere]
        · rw [if_neg hhere, if_neg hhere]

theorem lookup_withUplink (family : Family) (id : SocketId) (uplinks : List (Family × SocketId)) :
    ((withUplink family id uplinks).lookup family).isSome := by
  rw [lookup_withUplink_eq, if_pos rfl]
  rfl

/-- An uplink more takes none away. -/
theorem lookup_withUplink_of_isSome {family family' : Family} {id : SocketId}
    {uplinks : List (Family × SocketId)} (h : (uplinks.lookup family').isSome) :
    ((withUplink family id uplinks).lookup family').isSome := by
  rw [lookup_withUplink_eq]
  split
  · rfl
  · exact h

/-- **Opening an uplink** adds it to those that there are. -/
theorem ends_openUplink_firm {s : Sender} (hhops : fitsSigned 32 s.ttl = true) {index : Int}
    (hindex : 0 ≤ index ∧ index < 2 ^ 31) (hsound : w.footing.Sound false) (family : Family) :
    Ends (s.openUplink index family) w
      (fun _ w' => w.footing.Grounded w'.footing ∧
        ∃ id, w'.uplinks = withUplink family id w.uplinks)
      fun e _ => w.footing.Admits e := by
  unfold openUplink
  refine ends_openAndTranslate family _ (fun e => .setup e.message) _ (fun id => ?_) ?_ fun _ _ h => h
  · refine failsAs_setUp hsound (keeps_configure settingUp_upheld.toArranging s index id
      (fun _ => upheld_call _) family) ?_
    exact fun rs hoptions _ => failsBySystem_configure hhops hindex hoptions id family
  · intro id w₁ h₁
    refine ⟨⟨h₁.targets, h₁.families, h₁.interfaces, h₁.refusals, h₁.opening, h₁.waits⟩, id, ?_⟩
    show withUplink family id w₁.uplinks = _
    rw [show w₁.uplinks = w.uplinks from h₁.uplinks]

/-- Opening uplinks for some families leaves all these with one, and those that had one. -/
theorem ends_openUplinks_firm {s : Sender} (hhops : fitsSigned 32 s.ttl = true) {index : Int}
    (hindex : 0 ≤ index ∧ index < 2 ^ 31) (hsound : w.footing.Sound false) (families : List Family) :
    Ends (families.forM (s.openUplink index)) w
      (fun _ w' => w.footing.Grounded w'.footing ∧
        ∀ f, f ∈ families ∨ (w.uplinks.lookup f).isSome → (w'.uplinks.lookup f).isSome)
      fun e _ => w.footing.Admits e := by
  induction families generalizing w with
  | nil =>
      refine ⟨.refl _, ?_⟩
      rintro f (hf | hf)
      · cases hf
      · exact hf
  | cons family families ih =>
      show Ends (s.openUplink index family >>= fun _ => families.forM (s.openUplink index)) w _ _
      refine (ends_openUplink_firm hhops hindex hsound family).bind ?_
      rintro _ w₁ ⟨h₁, id, huplinks⟩
      refine (ih (hsound.upheld h₁)).mono ?_ fun e _ he => h₁.admits he
      rintro _ w' ⟨h', hlookup⟩
      refine ⟨h₁.trans h', fun f hf => hlookup f ?_⟩
      rw [huplinks]
      rcases hf with hf | hf
      · rcases List.mem_cons.1 hf with rfl | hf
        · exact Or.inr (lookup_withUplink _ _ _)
        · exact Or.inl hf
      · exact Or.inr (lookup_withUplink_of_isSome hf)

/-- **A sender that starts** has a socket for every session. -/
theorem ends_start_firm {s : Sender} (hhops : fitsSigned 32 s.ttl = true) (h : Startable false w) :
    Ends s.start w (fun _ w' => w'.footing.Firm false) fun e _ => w.footing.Admits e := by
  unfold start
  refine ends_bind ((ends_interfaceIndex (F := .upheld) upheld_log h.indexes s.interface).mono ?_
    fun _ _ h => h.elim)
  rintro index w₁ ⟨hindex, h₁⟩
  have hsound₁ := h.sound.upheld h₁.toGrounded
  refine ends_get_bind (ends_bind ((ends_openUplinks_firm hhops hindex hsound₁ _).mono ?_
    fun e _ he => h₁.toGrounded.admits he))
  rintro _ w₂ ⟨h₂, hlookup⟩
  have hground := h₁.toGrounded.trans h₂
  have hfirm : w₂.footing.Firm false := by
    refine ⟨h.sound.upheld hground, ?_, nofun⟩
    rw [hground.targets]
    intro t ht
    obtain ⟨session, hsession, rfl⟩ := List.mem_map.1 ht
    obtain ⟨target, htarget, hfamily⟩ := h.resolved session hsession
    refine ⟨target, htarget, h.ports target ?_, fun _ => ?_⟩
    · rw [← htarget]
      exact List.mem_map_of_mem hsession
    · refine hlookup _ (Or.inl ?_)
      rw [show w₁.table.families = w.table.families from h₁.families]
      exact hfamily
  exact hfirm.upheld (upheld_log _ _ w₂)

end Sender

namespace Receiver

/-- A socket that joined its group is the caller's. -/
theorem ends_openOne_upheld (r : Receiver) {index : Int} (hindex : 0 ≤ index ∧ index < 2 ^ 31)
    (hsound : w.footing.Sound true) {session : Session} {target : Endpoint}
    (htarget : session.target = some target) (hport : target.HasPort) :
    Ends (r.openOne index session) w (fun _ w' => w.footing.Upheld w'.footing)
      fun e _ => w.footing.Admits e := by
  unfold openOne
  rw [htarget]
  refine ends_openAndTranslate target.family _ (fun e => .joining session.label e.message) _
    (fun id => ?_) ?_ fun _ _ h => h
  · refine failsAs_setUp hsound ?_ fun rs hoptions hbinds => ?_
    · exact keeps_prepare settingUp_upheld.toArranging r index id target (upheld_call _)
        session.origin
    · exact failsBySystem_prepare r hindex hoptions hbinds id hport session.origin
  · intro id w₁ h₁
    exact h₁.trans (upheld_log _ _ w₁)

/-- A session takes over a socket, which is watched for it from then on. -/
theorem ends_adopt_watched {position : Nat} (hposition : position < w.table.size) (id : SocketId)
    {fails : Fault → World → Prop} :
    Ends (adopt position id) w
      (fun _ w' => w.footing.Grounded w'.footing ∧
        w'.footing.places = w.footing.places ++ [(id, position)]) fails := by
  have hupheld := upheld_modifySession (w := w) (i := position)
    (f := ({ · with socket := some id })) fun _ _ => rfl
  obtain ⟨w₁, hmodify⟩ := exists_modifySession hposition ({ · with socket := some id })
  rw [after_of_ok hmodify] at hupheld
  unfold adopt
  refine ends_bind_of_ok hmodify ⟨?_, ?_⟩
  · exact ⟨hupheld.targets, hupheld.families, hupheld.interfaces, hupheld.refusals, hupheld.opening,
      hupheld.waits⟩
  · rw [← hupheld.places]
    exact List.map_append

/-- Joining groups watches their sockets for the sessions that they belong to. -/
theorem ends_joinFrom_watched (r : Receiver) {index : Int} (hindex : 0 ≤ index ∧ index < 2 ^ 31)
    (hsound : w.footing.Sound true) {position : Nat} {sessions : List Session}
    (hsessions : ∀ session ∈ sessions, ∃ target, session.target = some target ∧ target.HasPort)
    (hlength : position + sessions.length ≤ w.footing.targets.length) :
    Ends (r.joinFrom index position sessions) w
      (fun _ w' => w.footing.Grounded w'.footing ∧
        ∀ p ∈ w'.footing.places, p ∈ w.footing.places ∨ p.2 < w.footing.targets.length)
      fun e _ => w.footing.Admits e := by
  induction sessions generalizing w position with
  | nil => exact ⟨.refl _, fun p hp => Or.inl hp⟩
  | cons session sessions ih =>
      obtain ⟨target, htarget, hport⟩ := hsessions session List.mem_cons_self
      rw [List.length_cons] at hlength
      unfold joinFrom
      refine (ends_openOne_upheld r hindex hsound htarget hport).bind ?_
      intro id w₁ h₁
      have hposition : position < w₁.table.size := by
        rw [← w₁.length_targets, h₁.targets]
        omega
      refine (ends_adopt_watched hposition id).bind ?_
      rintro _ w₂ ⟨h₂, hplaces⟩
      have hground := h₁.toGrounded.trans h₂
      refine (ih (hsound.upheld hground) ?_ ?_).mono ?_ fun e _ he => hground.admits he
      · exact fun s hs => hsessions s (List.mem_cons_of_mem _ hs)
      · rw [hground.targets]
        omega
      · rintro _ w' ⟨h', hwatched⟩
        refine ⟨hground.trans h', fun p hp => ?_⟩
        rw [hground.targets] at hwatched
        rcases hwatched p hp with hp | hp
        · rw [hplaces, h₁.places] at hp
          rcases List.mem_append.1 hp with hp | hp
          · exact Or.inl hp
          · refine Or.inr ?_
            rw [List.mem_singleton.1 hp]
            show position < _
            omega
        · exact Or.inr hp

/-- **A receiver that starts** watches sockets for sessions of the table only. -/
theorem ends_start_firm (r : Receiver) (h : Startable true w) :
    Ends r.start w (fun _ w' => w'.footing.Firm true) fun e _ => w.footing.Admits e := by
  have hresolved : ∀ t ∈ w.footing.targets, ∃ target, t = some target ∧ target.HasPort := by
    intro t ht
    obtain ⟨session, hsession, rfl⟩ := List.mem_map.1 ht
    obtain ⟨target, htarget, -⟩ := h.resolved session hsession
    refine ⟨target, htarget, h.ports target ?_⟩
    rw [← htarget]
    exact ht
  have hplaces : w.footing.places = [] := by
    show w.host.watched.map Watch.place = []
    rw [h.unwatched, List.map_nil]
  unfold start
  refine ends_bind ((ends_interfaceIndex (F := .upheld) upheld_log h.indexes r.interface).mono ?_
    fun _ _ h => h.elim)
  rintro index w₁ ⟨hindex, h₁⟩
  refine ends_get_bind ((ends_joinFrom_watched r hindex (h.sound.upheld h₁.toGrounded) ?_ ?_).mono ?_
    fun e _ he => h₁.toGrounded.admits he)
  · intro session hsession
    refine hresolved session.target ?_
    rw [← h₁.targets]
    exact List.mem_map_of_mem hsession
  · rw [w₁.length_targets, Nat.zero_add]
    exact Nat.le_refl _
  · rintro _ w' ⟨h', hwatched⟩
    have hground := h₁.toGrounded.trans h'
    refine ⟨h.sound.upheld hground, ?_, fun _ p hp => ?_⟩
    · rw [hground.targets]
      intro t ht
      obtain ⟨target, htarget, hport⟩ := hresolved t ht
      exact ⟨target, htarget, hport, nofun⟩
    · rw [h'.targets]
      rcases hwatched p hp with hp | hp
      · rw [h₁.places, hplaces] at hp
        cases hp
      · exact hp

end Receiver

/-! ## Periods -/

/-- A number is out of the range of the call that takes it. -/
def Fault.OfRange : Fault → Prop
  | .outOfRange _ | .value _ => True
  | _ => False

/-- That is no failure of the system, and none of the transport. -/
theorem Fault.OfRange.other {e : Fault} (h : e.OfRange) : e.isSystem = false ∧ ¬e.OfTransport := by
  cases e with
  | outOfRange | value => exact ⟨rfl, by rintro ⟨t, ht⟩; cases ht⟩
  | _ => exact h.elim

namespace Quantity

/-- A check of a span fails only as the span is out of range. -/
def Checked {α : Type} (x : Except Fault α) : Prop := ∀ e, x = .error e → e.OfRange

theorem checked_ok {α : Type} (a : α) : Checked (.ok a) := fun _ h => by cases h

theorem checked_error {α : Type} {e : Fault} (h : e.OfRange) :
    Checked (.error e : Except Fault α) := by
  intro f hf
  cases hf
  exact h

theorem checked_bind {α β : Type} {x : Except Fault α} {f : α → Except Fault β} (hx : Checked x)
    (hf : ∀ a, Checked (f a)) : Checked (x >>= f) := by
  cases x with
  | ok a => exact hf a
  | error e => exact checked_error (hx e rfl)

theorem checked_nanoseconds (rounded : Fraction → Int) (q : Quantity) :
    Checked (q.nanoseconds rounded) := by
  unfold nanoseconds outOfTime
  split
  · exact checked_error trivial
  · exact checked_error trivial
  · split
    · exact checked_ok _
    · exact checked_error trivial

theorem checked_sleep (q : Quantity) : Checked q.sleep := by
  refine checked_bind (checked_nanoseconds _ q) fun n => ?_
  unfold sleepFor
  split
  · exact checked_error trivial
  · exact checked_ok ()

theorem checked_timeout (q : Quantity) : Checked q.timeout := by
  unfold timeout
  split
  · split
    · exact checked_ok ()
    · split
      · refine checked_bind (checked_nanoseconds _ _) fun n => ?_
        split
        · exact checked_error trivial
        · exact checked_ok ()
      · exact checked_error trivial
  · split
    · exact checked_ok ()
    · exact checked_error trivial
  · exact checked_error trivial

end Quantity

namespace Call

theorem ofRange_of_vetted {c : Call} (hc : Quantity.Checked c.vetted) {e : Fault}
    (h : c.objection? = some e) : e.OfRange := by
  unfold objection? at h
  cases hvetted : c.vetted with
  | ok u =>
      rw [hvetted] at h
      cases h
  | error f =>
      rw [hvetted] at h
      cases h
      exact hc _ hvetted

/-- A wait for sockets objects to its span as out of range only, and so does a pause. -/
theorem ofRange_of_select {pause : Quantity} {e : Fault} (h : (select pause).objection? = some e) :
    e.OfRange :=
  ofRange_of_vetted (c := select pause) pause.checked_timeout h

theorem ofRange_of_pause {span : Quantity} {e : Fault} (h : (pause span).objection? = some e) :
    e.OfRange :=
  ofRange_of_vetted (c := pause span) span.checked_sleep h

end Call

/-! ## Stepping -/

namespace Act

/-- What a wait fails with is among its events. -/
theorem failsAs_await {join : Bool} (h : w.footing.Sound join) :
    Upholds w (fun e => join = true ∧ e.isSystem) await := by
  refine failsAs_of_upheld stepping_upheld.await fun w₁ h₁ e w' herror => ?_
  have htame : Event.Tame join (.fault e) :=
    expected_of_await (h.upheld h₁.toGrounded).waits herror
  exact htame

/-- Attending to what happens while the transport is opened does not fail. -/
theorem failsAs_attend {join : Bool} (h : w.footing.Sound join) :
    Upholds w (fun _ => False) attend :=
  failsAs_of_upheld_of_returns stepping_upheld.attend fun w₁ h₁ => by
    obtain ⟨w', hattend⟩ := exists_attend (h.upheld h₁.toGrounded).opening
    exact ⟨(), w', hattend⟩

theorem failsAs_finishWhenDone {bad : Fault → Prop} (limit : Int) (remark : String) :
    Upholds w bad (finishWhenDone limit remark) :=
  failsAs_of_upheld_of_returns (keeps_finishWhenDone stepping_upheld.toReading _ _) fun w₁ _ =>
    ⟨(), _, finishWhenDone_apply _ _ w₁⟩

/-- A session of the table can be changed as long as the table has its size. -/
theorem failsAs_modifySession {bad : Fault → Prop} {position : Nat}
    (hposition : position < w.footing.targets.length) {f : Session → Session}
    (hf : ∀ s : Session, (f s).target = s.target) : Upholds w bad (modifySession position f) := by
  refine failsAs_of_upheld_of_returns (fun _ => upheld_modifySession fun s _ => hf s) fun w₁ h₁ => ?_
  rw [← h₁.targets, w₁.length_targets] at hposition
  obtain ⟨w', hmodify⟩ := exists_modifySession hposition f
  exact ⟨(), w', hmodify⟩

end Act

namespace Sender

/-- Sending a packet fails only where the system refuses it. -/
theorem failsAs_sendOne (s : Sender) (h : w.footing.Firm false) {index : Nat} {session : Session}
    (htarget : session.target ∈ w.footing.targets) (hindex : index < w.footing.targets.length) :
    Upholds w Fault.OfTransport (s.sendOne index session) := by
  obtain ⟨target, hresolved, hport, huplink⟩ := h.targets _ htarget
  unfold sendOne
  rw [hresolved]
  refine failsAs_get_bind fun w₁ h₁ => ?_
  obtain ⟨id, hid⟩ := Option.isSome_iff_exists.1 (huplink rfl)
  have hid₁ : w₁.uplinks.lookup target.family = some id := by
    rw [show w₁.uplinks = w.uplinks from h₁.uplinks]
    exact hid
  rw [hid₁]
  have hsends : (Call.send id (Packet.encode session.nextSeq index (Packet.clampSize s.size))
      target).ObjectsBySystem :=
    Call.objectsBySystem_of_none (Call.objection?_send hport id _)
  refine failsAs_bind (failsAs_recover (failsAs_attempt h.toSound rfl hsends) ?_ ?_) fun _ => ?_
  · exact fun e _ => failsAs_throw ⟨_, rfl⟩
  · exact fun e hsystem hnot => absurd hsystem (Bool.eq_false_iff.1 hnot)
  · exact failsAs_modifySession hindex fun _ => rfl

/-- Sending to some sessions of the table does, too. -/
theorem failsAs_sendFrom (s : Sender) (h : w.footing.Firm false) {index : Nat}
    {sessions : List Session}
    (htargets : ∀ session ∈ sessions, session.target ∈ w.footing.targets)
    (hlength : index + sessions.length ≤ w.footing.targets.length) :
    Upholds w Fault.OfTransport (s.sendFrom index sessions) := by
  induction sessions generalizing index with
  | nil => exact failsAs_pure ()
  | cons session sessions ih =>
      rw [List.length_cons] at hlength
      have hrest : Upholds w Fault.OfTransport (s.sendFrom (index + 1) sessions) := by
        refine ih (fun later hlater => htargets later (List.mem_cons_of_mem _ hlater)) ?_
        omega
      unfold sendFrom
      by_cases hopen : session.isOpen s.count
      · rw [if_pos hopen]
        have htarget := htargets session List.mem_cons_self
        exact failsAs_bind (failsAs_sendOne s h htarget (by omega)) fun _ => hrest
      · rw [if_neg hopen]
        exact hrest

/-- **A step of sending fails only as the transport**, or with what the pause objects to the period
    with, and leaves it open. -/
theorem failsAs_step {s : Sender} {pause : Quantity} (hperiod : s.period = .span pause)
    (h : w.footing.Firm false) :
    Upholds w (fun e => e.OfTransport ∨ (Call.pause pause).objection? = some e) s.step := by
  unfold step
  rw [hperiod, show measured (.span pause) = pure pause from rfl, pure_bind]
  refine failsAs_bind ((failsAs_submit _).mono fun e he => Or.inr he) fun _ => ?_
  refine failsAs_bind ((failsAs_await h.toSound).mono ?_) fun _ => failsAs_get_bind fun w₁ h₁ => ?_
  · rintro e ⟨hjoin, -⟩
    cases hjoin
  · refine failsAs_bind ((failsAs_sendFrom s h ?_ ?_).mono fun e he => Or.inl he) fun _ =>
      failsAs_finishWhenDone _ _
    · intro session hsession
      rw [← h₁.targets]
      exact List.mem_map_of_mem hsession
    · rw [← h₁.targets, w₁.length_targets, Nat.zero_add]
      exact Nat.le_refl _

/-- A step whose pause objects to the period fails with that, before it sends anything. -/
theorem step_of_objection {s : Sender} {pause : Quantity} (hperiod : s.period = .span pause)
    {e : Fault} (h : w.host.objection? (.pause pause) = some e) :
    s.step w = .error e { w with host := w.host.record (.pause pause) } := by
  have hpaused : submit (.pause pause) w = .error e { w with host := w.host.record (.pause pause) } := by
    rw [submit_apply, h]
  unfold step
  rw [hperiod, show measured (.span pause) = pure pause from rfl, pure_bind]
  exact bind_eq_error.2 (Or.inl hpaused)

end Sender

namespace Receiver

/-- Reading at most so many bytes always finds something out. -/
theorem exists_receive {limit : Int} (hlimit : 0 ≤ limit ∧ limit < 2 ^ 63) (id : SocketId)
    (w : World) : ∃ read w', receive id limit w = .ok read w' := by
  have hread : submit (.receive id limit) w =
      .ok () { w with host := w.host.record (.receive id limit) } :=
    submit_eq_ok_iff.2 ⟨Host.objection?_eq_none (Call.objection?_receive hlimit id) _, rfl⟩
  unfold receive
  rw [bind_of_ok hread, bind_of_ok (get_apply _)]
  cases (w.host.record (.receive id limit)).take? id with
  | mk arrival host =>
      cases arrival with
      | none => exact ⟨_, _, rfl⟩
      | some arrival => cases arrival <;> exact ⟨_, _, rfl⟩

/-- What there is to be said of a datagram can always be said. -/
theorem exists_remark (group : String) (note : Option Session.Remark) (w : World) :
    ∃ counted w', (do
      match note with
        | some note => remark group note
        | none => pure ()
      pure true : Act Bool) w = .ok counted w' := by
  cases note with
  | none => exact ⟨_, _, rfl⟩
  | some note => cases note <;> exact ⟨_, _, rfl⟩

/-- A datagram of a session of the table can always be counted. -/
theorem exists_account (r : Receiver) {position : Nat} (hposition : position < w.table.size)
    (data : Octets) : ∃ counted w', r.account position data w = .ok counted w' := by
  unfold account
  rw [bind_of_ok (get_apply w), Table.get?_natCast, List.getElem?_eq_getElem hposition]
  dsimp only
  by_cases hopen : w.table.sessions[position].isOpen r.count
  · rw [if_pos hopen]
    obtain ⟨w₁, hmodify⟩ := exists_modifySession hposition _
    rw [bind_of_ok hmodify]
    exact exists_remark _ _ w₁
  · rw [if_neg hopen]
    exact ⟨_, _, rfl⟩

/-- Emptying a socket fails only with what a read from it fails with. -/
theorem failsAs_drain {r : Receiver} (hlimit : 0 ≤ r.limit ∧ r.limit < 2 ^ 63) (id : SocketId)
    {position : Nat} (hposition : position < w.footing.targets.length) (group : String) (fuel : Nat) :
    Upholds w Fault.OfTransport (r.drain id position group fuel) := by
  induction fuel with
  | zero => exact failsAs_pure ()
  | succ fuel ih =>
      unfold drain
      refine failsAs_bind (failsAs_of_upheld_of_returns
        (keeps_receive stepping_upheld.toReading id r.limit)
        fun w₁ _ => exists_receive hlimit id w₁) fun read => ?_
      cases read with
      | ok data =>
          refine failsAs_bind (failsAs_of_upheld_of_returns
            (keeps_account stepping_upheld.toWaiting r _ _)
            fun w₁ h₁ => exists_account r ?_ data) fun _ => ih
          rw [← w₁.length_targets, h₁.targets]
          exact hposition
      | error e =>
          dsimp only
          split
          · exact failsAs_pure ()
          · exact failsAs_throw ⟨_, rfl⟩

/-- So does emptying a socket that is watched for a session of the table. -/
theorem failsAs_drainWatch {r : Receiver} (hlimit : 0 ≤ r.limit ∧ r.limit < 2 ^ 63) {watch : Watch}
    (hwatch : watch.session < w.footing.targets.length) :
    Upholds w Fault.OfTransport (r.drainWatch watch) := by
  unfold drainWatch
  refine failsAs_get_bind fun w₁ h₁ => ?_
  have hsession : watch.session < w₁.table.sessions.length := by
    show watch.session < w₁.table.size
    rw [← w₁.length_targets, h₁.targets]
    exact hwatch
  rw [Table.get?_natCast, List.getElem?_eq_getElem hsession]
  exact failsAs_drain hlimit _ hwatch _ _

/-- **Waiting fails only as the transport**, or with what the wait objects to the period with, and the
    sockets that are ready are watched for sessions of the table. -/
theorem ends_wait_firm {r : Receiver} {pause : Quantity} (hperiod : r.period = .span pause)
    (h : w.footing.Firm true) :
    Ends r.wait w
      (fun ready w' => w.footing.Upheld w'.footing ∧
        ∀ watch ∈ ready, watch.session < w.footing.targets.length)
      fun e w' => (e.OfTransport ∨ (Call.select pause).objection? = some e) ∧
        w.footing.Upheld w'.footing := by
  have hwaited : Ends (do
        attempt .select (.select (← measured r.period))
        await
        pure (← get).host.ready) w
      (fun ready w' => w.footing.Upheld w'.footing ∧
        ∀ watch ∈ ready, watch.session < w.footing.targets.length)
      fun e w' => (e.isSystem ∨ (Call.select pause).objection? = some e) ∧
        w.footing.Upheld w'.footing := by
    rw [hperiod]
    refine ends_bind_of_ok (rfl : measured (.span pause) w = .ok pause w) ?_
    refine (failsAs_attempt_or h.toSound rfl _ w (.refl _)).bind ?_
    intro _ w₁ h₁
    refine ends_bind ((failsAs_await h.toSound w₁ h₁).mono (fun _ w₂ h₂ => ⟨h₂, ?_⟩) ?_)
    · intro watch hwatch
      refine h.places rfl watch.place ?_
      rw [← h₂.places]
      exact List.mem_map_of_mem (List.mem_filter.1 hwatch).1
    · rintro e w₂ ⟨⟨-, hsystem⟩, h₂⟩
      exact ⟨Or.inl hsystem, h₂⟩
  unfold wait
  refine ends_recover (hwaited.mono (fun _ _ h => h) ?_)
  rintro e w₁ ⟨hfailed, h₁⟩
  split
  · exact ⟨Or.inl ⟨_, rfl⟩, h₁⟩
  · exact ⟨Or.inr (hfailed.resolve_left ‹_›), h₁⟩

/-- **A step of receiving fails only as the transport**, or with what the wait objects to the period
    with, and leaves it open. -/
theorem ends_step_firm {r : Receiver} (hlimit : 0 ≤ r.limit ∧ r.limit < 2 ^ 63) {pause : Quantity}
    (hperiod : r.period = .span pause) (h : w.footing.Firm true) :
    Ends r.step w (fun _ w' => w.footing.Upheld w'.footing)
      fun e w' => (e.OfTransport ∨ (Call.select pause).objection? = some e) ∧
        w.footing.Upheld w'.footing := by
  unfold step
  refine (ends_wait_firm hperiod h).bind ?_
  rintro ready w₁ ⟨h₁, hready⟩
  have hserved : Upholds w Fault.OfTransport (r.serve ready) := by
    unfold serve
    refine failsAs_bind (failsAs_forM fun watch hwatch => ?_) fun _ => failsAs_finishWhenDone _ _
    exact failsAs_drainWatch hlimit (hready watch hwatch)
  exact hserved.mono (fun _ he => Or.inl he) w₁ h₁

/-- A step whose wait objects to the period fails with that, before it reads anything. -/
theorem step_of_objection {r : Receiver} {pause : Quantity} (hperiod : r.period = .span pause)
    {e : Fault} (h : w.host.objection? (.select pause) = some e) :
    r.step w = .error e { w with host := granted .select (.select pause) w.host } := by
  have hrefused : attempt .select (.select pause) w =
      .error e { w with host := granted .select (.select pause) w.host } := by
    rw [attempt_apply]
    unfold Host.refusal?
    rw [h]
    rfl
  have hother : ¬e.isSystem = true :=
    Bool.eq_false_iff.1 (Call.ofRange_of_select (objection_of_host h)).other.1
  have hwaited : r.wait w = .error e { w with host := granted .select (.select pause) w.host } := by
    unfold wait
    rw [hperiod, show measured (.span pause) = pure pause from rfl, pure_bind,
      recover_of_error (bind_eq_error.2 (Or.inl hrefused)), if_neg hother]
  exact bind_eq_error.2 (Or.inl hwaited)

end Receiver

/-! ## Closing -/

/-- Closing a sender's sockets always returns. -/
theorem Sender.exists_close (w : World) : ∃ w', close w = .ok () w' := by
  have hclosed : Ends close w (fun _ _ => True) fun _ _ => False := by
    unfold close
    refine ends_get_bind ((ends_forM_closeSocket w.uplinks).bind ?_)
    exact fun _ _ _ => trivial
  obtain ⟨_, w', hclose, -⟩ := hclosed.exists_ok
  exact ⟨w', hclose⟩

/-- Closing a receiver's sockets always returns. -/
theorem Receiver.exists_close (w : World) : ∃ w', close w = .ok () w' := by
  have hclosed : Ends close w (fun _ _ => True) fun _ _ => False := by
    unfold close
    have hsockets : w.resources.sockets = [] ++ w.table.sessions.map Session.socket := rfl
    refine ends_get_bind ((ends_releaseFrom hsockets).bind ?_)
    exact fun _ _ _ => trivial
  obtain ⟨_, w', hclose, -⟩ := hclosed.exists_ok
  exact ⟨w', hclose⟩

end Multicast
