import Multicast.Proofs.Loop.Tidy

/-!
# `Proofs.Sender.Uplinks` — the sender's sockets

The sender opens one socket for each family and keeps it as an uplink. A socket that cannot be set up
is closed before anyone holds it.

## Contents
- **Opening.** `failsBySystem_configure`, `ends_openUplink`, `ends_openUplinks` and `ends_start`.
- **Closing.** `ends_forM_closeSocket`, and all stages together in `tidy`.
-/

namespace Multicast.Sender

open Act

variable {s : Sender} {index : Int} {w : World}

/-! ## Opening -/

/-- Setting up a socket fails only where the system refuses it. -/
theorem failsBySystem_configure (hhops : fitsSigned 32 s.ttl = true)
    (hindex : 0 ≤ index ∧ index < 2 ^ 31) {r : Resources} (h : r.RefusesBySystem .setOption)
    (id : SocketId) (family : Family) : FailsBySystem r (s.configure index id family) := by
  have hnumber : ∀ name (n : Int), fitsSigned 32 n = true →
      FailsBySystem r (setOption id name (.number n)) :=
    fun name n hn => failsBySystem_attempt rfl (Call.objectsBySystem_setOption hn id name) h
  have hfits : fitsSigned 32 index = true := by
    rw [fitsSigned_iff]
    omega
  unfold configure
  cases family with
  | inet =>
      refine failsBySystem_bind (hnumber _ _ hhops) fun _ => ?_
      by_cases hzero : index ≠ 0
      · rw [if_pos hzero]
        obtain ⟨request, hrequest⟩ : ∃ request, interfaceRequest4? (zeros 4) index = some request := by
          unfold interfaceRequest4? int32?
          rw [hfits]
          exact ⟨_, rfl⟩
        rw [hrequest]
        exact failsBySystem_attempt rfl (Call.objectsBySystem_of_none rfl) h
      · rw [if_neg hzero]
        exact failsBySystem_pure ()
  | inet6 =>
      refine failsBySystem_bind (hnumber _ _ hhops) fun _ => ?_
      by_cases hzero : index ≠ 0
      · rw [if_pos hzero]
        exact hnumber _ _ hfits
      · rw [if_neg hzero]
        exact failsBySystem_pure ()

/-- A family without an uplink gets one behind those that are there. -/
theorem withUplink_of_notMem {family : Family} {uplinks : List (Family × SocketId)}
    (h : family ∉ uplinks.map (·.1)) (id : SocketId) :
    withUplink family id uplinks = uplinks ++ [(family, id)] := by
  induction uplinks with
  | nil => rfl
  | cons uplink uplinks ih =>
      obtain ⟨f, old⟩ := uplink
      rw [List.map_cons, List.mem_cons, not_or] at h
      obtain ⟨hne, hrest⟩ := h
      have hne' : ¬f = family := fun heq => hne heq.symm
      rw [withUplink, if_neg hne', ih hrest]
      rfl

/-- **Opening an uplink** hands its socket to the sender, or closes it. -/
theorem ends_openUplink {before : List Call} {family : Family} (hhops : fitsSigned 32 s.ttl = true)
    (hindex : 0 ≤ index ∧ index < 2 ^ 31) (h : w.resources.RefusesBySystem .setOption)
    (howned : Owned before [] w.resources) (hnew : family ∉ w.uplinks.map (·.1)) :
    Ends (s.openUplink index family) w
      (fun _ w' => Owned before [] w'.resources ∧
        Beside Resources.sockets w.resources w'.resources ∧
        w'.uplinks.map (·.1) = w.uplinks.map (·.1) ++ [family])
      fun _ w' => Owned before [] w'.resources ∧
        Beside Resources.sockets w.resources w'.resources := by
  unfold openUplink
  have hrefuses : (w.resources.opened family).RefusesBySystem .setOption := h
  refine ends_openAndSetUp family (fun id => s.configure index id family) _ _ howned
    (fun id => failsBySystem_configure hhops hindex hrefuses id family) ?_ ?_
  · intro w₁ hloose h₁
    -- The socket is set up: it goes from the step's hands to the uplinks.
    have huplinks : w₁.uplinks = w.uplinks := by
      show w₁.resources.uplinks = _
      rw [h₁]
      rfl
    show Owned before [] (World.resources { w₁ with
      uplinks := withUplink family w.resources.next w₁.uplinks }) ∧
        Beside Resources.sockets w.resources (World.resources { w₁ with
          uplinks := withUplink family w.resources.next w₁.uplinks }) ∧
        (withUplink family w.resources.next w₁.uplinks).map (·.1) = _
    rw [huplinks, withUplink_of_notMem hnew]
    refine ⟨hloose.handOver ?_ rfl rfl rfl, ?_, List.map_append⟩
    · show ((w₁.resources.sockets.reduceOption ++ w₁.uplinks.map (·.2)) ++
        [w.resources.next]).Perm ((w₁.resources.sockets.reduceOption ++
          (w.uplinks ++ [(family, w.resources.next)]).map (·.2)) ++ [])
      rw [huplinks, List.map_append, List.append_nil, List.append_assoc]
      exact List.Perm.refl _
    · show Beside Resources.sockets w.resources { w₁.resources with
        uplinks := w.uplinks ++ [(family, w.resources.next)] }
      rw [h₁]
      exact ⟨rfl, rfl, rfl⟩
  · intro e w' howned' hbeside
    exact ⟨howned', congrArg Prod.fst hbeside.others, hbeside.ticking, hbeside.refusals⟩

/-- Opening uplinks for several families, none of them twice. -/
theorem ends_openUplinks {before : List Call} {families : List Family}
    (hhops : fitsSigned 32 s.ttl = true) (hindex : 0 ≤ index ∧ index < 2 ^ 31)
    (h : w.resources.RefusesBySystem .setOption)
    (howned : Owned before [] w.resources) (hfamilies : (w.uplinks.map (·.1) ++ families).Nodup) :
    Ends (families.forM (s.openUplink index)) w
      (fun _ w' => Owned before [] w'.resources ∧
        Beside Resources.sockets w.resources w'.resources)
      fun _ w' => Owned before [] w'.resources ∧
        Beside Resources.sockets w.resources w'.resources := by
  induction families generalizing w with
  | nil => exact ⟨howned, .refl _⟩
  | cons family families ih =>
      have hnew : family ∉ w.uplinks.map (·.1) := by
        intro hmem
        exact (List.nodup_append.1 hfamilies).2.2 _ hmem _ List.mem_cons_self rfl
      show Ends (s.openUplink index family >>= fun _ => families.forM (s.openUplink index)) w _ _
      refine (ends_openUplink hhops hindex h howned hnew).bind ?_
      rintro _ w₁ ⟨howned₁, hbeside, huplinks⟩
      have hrest : (w₁.uplinks.map (·.1) ++ families).Nodup := by
        rw [huplinks, List.append_assoc]
        exact hfamilies
      refine (ih (hbeside.refuses h) howned₁ hrest).mono ?_ ?_
      · exact fun _ w' h => ⟨h.1, hbeside.trans h.2⟩
      · exact fun _ w' h => ⟨h.1, hbeside.trans h.2⟩

/-- A start that breaks off leaves every socket with the uplinks. -/
theorem ends_start {before : List Call} (hhops : fitsSigned 32 s.ttl = true)
    (hready : Multicast.Ready w) (hunused : w.resources.Unused) (howned : Owned before [] w.resources) :
    Ends s.start w
      (fun _ w' => Owned before [] w'.resources ∧
        Beside Resources.sockets w.resources w'.resources)
      fun _ w' => Owned before [] w'.resources ∧
        Beside Resources.sockets w.resources w'.resources := by
  unfold start
  refine ends_bind ((ends_interfaceIndex aside_log hready.indexes s.interface).mono ?_ ?_)
  · rintro index w₁ ⟨hindex, h₁⟩
    have huplinks : w₁.uplinks = [] := by
      show w₁.resources.uplinks = []
      rw [h₁]
      exact hunused.2
    have hfamilies : (w₁.uplinks.map (·.1) ++ w₁.table.families).Nodup := by
      rw [huplinks]
      unfold Table.families
      split <;> split <;> decide
    have hoptions := hready.options
    rw [← h₁] at howned hoptions ⊢
    refine ends_get_bind ((ends_openUplinks hhops hindex hoptions howned hfamilies).bind ?_)
    intro _ w₂ h₂
    refine (ends_of_aside (keeps_bind keeps_get fun _ => aside_log _ _)).mono ?_ ?_
    · intro _ w₃ h₃
      rw [h₃]
      exact h₂
    · intro _ w₃ h₃
      rw [h₃]
      exact h₂
  · intro _ _ h
    exact h.elim

/-! ## Closing -/

theorem ends_forM_closeSocket (uplinks : List (Family × SocketId)) :
    Ends (uplinks.forM fun (_, id) => closeSocket id) w
      (fun _ w' => w'.resources = w.resources.closed (uplinks.map (·.2))) fun _ _ => False := by
  induction uplinks generalizing w with
  | nil =>
      show w.resources = _
      unfold Resources.closed
      rw [List.map_nil, List.map_nil, List.append_nil]
  | cons uplink uplinks ih =>
      obtain ⟨f, id⟩ := uplink
      show Ends (closeSocket id >>= fun _ => uplinks.forM fun (_, id) => closeSocket id) w _ _
      refine (ends_closeSocket id).bind ?_
      intro _ w₁ h₁
      refine ih.mono ?_ fun _ _ h => h
      intro _ w' h'
      rw [h', h₁]
      unfold Resources.closed
      simp

/-- **The sender is tidy**: its uplinks hold all sockets, and no session has one. -/
theorem tidy (hhops : fitsSigned 32 s.ttl = true) :
    s.transport.Tidy fun sockets _ => ∀ socket ∈ sockets, socket = none where
  start {before w} hready hunused howned := by
    have hkept : ∀ r : Resources, Owned before [] r ∧ Beside Resources.sockets w.resources r →
        Kept before (fun sockets _ => ∀ socket ∈ sockets, socket = none) w.resources.ticking r := by
      rintro r ⟨howned', hbeside⟩
      refine ⟨howned', ?_, hbeside.ticking⟩
      rw [hbeside.others]
      exact hunused.1
    exact (ends_start hhops hready hunused howned).mono (fun _ _ h => hkept _ h) fun _ _ h => hkept _ h
  step := keeps_step stepping_resources s
  close {before w ticking} hkept := by
    show Ends close w _ _
    unfold close
    refine ends_get_bind ((ends_forM_closeSocket w.uplinks).bind ?_)
    intro _ w₁ h₁
    obtain ⟨howned, hsockets, hticking⟩ := hkept
    have hresources : World.resources { w₁ with uplinks := [] } =
        Resources.closed (w.uplinks.map (·.2)) { w.resources with uplinks := [] } := by
      show { w₁.resources with uplinks := [] } = _
      rw [h₁]
      rfl
    -- The uplinks' sockets are all that are held, so none is left once they are closed.
    have hloose : Owned before (w.uplinks.map (·.2) ++ []) { w.resources with uplinks := [] } := by
      refine howned.handOver ?_ rfl rfl rfl
      unfold Resources.held
      dsimp only
      rw [Resources.reduceOption_of_forall hsockets]
      exact List.Perm.refl _
    show (World.resources { w₁ with uplinks := [] }).Unused ∧
      Owned before [] (World.resources { w₁ with uplinks := [] }) ∧
      (World.resources { w₁ with uplinks := [] }).ticking = ticking
    rw [hresources]
    exact ⟨⟨hsockets, rfl⟩, hloose.closed, hticking⟩

end Multicast.Sender
