import Multicast.Program
import Multicast.Proofs.Act.Ends
import Multicast.Proofs.Table.Refusal

/-!
# `Proofs.Program.Start` — a run that cannot start leaves nothing

Options and groups are checked before a run touches anything. What cannot be used ends the run with
status 1 and a report, and whatever ends the checks, the world is as it was but for the log.

## Contents
- **Logging.** `OnlyLogged`, the frame `Frame.logging`, and what keeps it.
- **Options.** `Options.Complete` and `Options.refusal_of_settings`.
- **Checking.** `Program.prepared`, and `Program.refusal_of_prepared`, why it fails.
- **Ending.** `Program.start_rejects_cleanly`.
-/

namespace Multicast

open Act

/-! ## Logging -/

/-- The calls that hand on a record. -/
def Call.isLogged : Call → Bool
  | .systemLog _ | .logFile _ => true
  | _ => false

/-- The world but for the places that records and reports go to. -/
def World.unlogged (w : World) : World :=
  { w with host := { w.host with trace := #[], records := #[], region := {}, stderr := "" } }

/-- Nothing was done but to hand on records and to write to standard error: the settings, the
    sessions, the flags, the handlers, the sockets, the terminal and all else are as they were. -/
structure OnlyLogged (w w' : World) : Prop where
  unlogged : w'.unlogged = w.unlogged
  calls : ∃ calls : List Call, w'.host.trace.toList = w.host.trace.toList ++ calls ∧
    ∀ c ∈ calls, c.isLogged

/-- Only logging. -/
def Frame.logging : Frame where
  rel := OnlyLogged
  refl w := ⟨rfl, [], (List.append_nil _).symm, by simp⟩
  trans := by
    rintro u v w ⟨huv, calls, hcalls, hlogged⟩ ⟨hvw, calls', hcalls', hlogged'⟩
    refine ⟨hvw.trans huv, calls ++ calls', ?_, ?_⟩
    · rw [hcalls', hcalls, List.append_assoc]
    · intro c hc
      rcases List.mem_append.1 hc with hc | hc
      · exact hlogged c hc
      · exact hlogged' c hc

/-- Changes to those places alone are no more than logging. -/
theorem OnlyLogged.of_eq {w w' : World} (h : w'.unlogged = w.unlogged)
    (htrace : w'.host.trace = w.host.trace) : OnlyLogged w w' := by
  refine ⟨h, [], ?_, by simp⟩
  rw [htrace, List.append_nil]

theorem keeps_complain (text : String) : Keeps Frame.logging (Program.complain text) :=
  fun _ => .of_eq rfl rfl

/-- Logging hands the record to every destination of the log, one after the other. -/
theorem keeps_log (level : Level) (message : String) : Keeps Frame.logging (log level message) := by
  have hone : ∀ (w : World) (r : Record) (sink : Sink),
      OnlyLogged w { w with host := w.host.deliver r sink } := by
    intro w r sink
    cases sink with
    | standardError | region => exact .of_eq rfl rfl
    | systemLog | file => exact ⟨rfl, _, Array.toList_push, by simp [Call.isLogged]⟩
  have hall : ∀ (r : Record) (sinks : List Sink) (w : World),
      OnlyLogged w { w with host := sinks.foldl (fun h sink => h.deliver r sink) w.host } := by
    intro r sinks
    induction sinks with
    | nil => exact Frame.logging.refl
    | cons sink sinks ih => exact fun w => Frame.logging.trans (hone w r sink) (ih _)
  intro w
  have hrecord : OnlyLogged w { w with
      host := { w.host with records := w.host.records.push ⟨level, message⟩ } } := .of_eq rfl rfl
  show OnlyLogged w { w with host := w.host.log level message }
  unfold Host.log
  dsimp only
  split
  · exact Frame.logging.trans hrecord (hall ⟨level, message⟩ _ _)
  · exact hrecord

/-! ## Options -/

/-- Every option that has to have a value has one. -/
structure Options.Complete (o : Options) : Prop where
  bytes : o.bytes ≠ none
  logLevel : o.logLevel ≠ none
  period : o.period ≠ none
  count : o.count ≠ none
  port : o.port ≠ none
  ttl : o.ttl ≠ none

/-- Faults that options give: a setup error, or the lack of a value that has to be there. -/
def Options.Refusal (o : Options) (e : Fault) : Prop :=
  (∃ cause, e = .setup cause) ∨ ((∃ use, e = .emptied use) ∧ ¬o.Complete)

theorem Except.bind_eq_error {α β : Type} {x : Except Fault α} {f : α → Except Fault β} {e : Fault} :
    (x >>= f) = .error e ↔ x = .error e ∨ ∃ a, x = .ok a ∧ f a = .error e := by
  cases x with
  | ok a => simp [bind, Except.bind]
  | error e' => simp [bind, Except.bind]

theorem Except.bind_eq_ok {α β : Type} {x : Except Fault α} {f : α → Except Fault β} {b : β} :
    (x >>= f) = .ok b ↔ ∃ a, x = .ok a ∧ f a = .ok b := by
  cases x with
  | ok a => simp [bind, Except.bind]
  | error e => simp [bind, Except.bind]

namespace Options

variable {o : Options} {e : Fault}

/-- A condition that does not hold is a setup error. -/
theorem refusal_of_demand {p : Prop} [Decidable p] {cause : SetupError}
    (h : demand p cause = .error e) : o.Refusal e := by
  unfold demand at h
  split at h
  · cases h
  · exact Or.inl ⟨cause, (Except.error.inj h).symm⟩

/-- Only an option without its value is missed. -/
theorem refusal_of_needed {α : Type} {use : ValueUse} {value : Option α}
    (hcomplete : o.Complete → value ≠ none) (h : needed use value = .error e) : o.Refusal e := by
  cases value with
  | some a => cases h
  | none =>
      refine Or.inr ⟨⟨use, (Except.error.inj h).symm⟩, fun hall => ?_⟩
      exact hcomplete hall rfl

/-- **What options are refused with**: a setup error, unless one lacks its value. -/
theorem refusal_of_settings (h : o.settings = .error e) : o.Refusal e := by
  unfold settings at h
  -- The options are checked one after the other: each one's value, then the value's range.
  rcases Except.bind_eq_error.1 h with h | ⟨bytes, -, h⟩
  · exact refusal_of_needed Complete.bytes h
  rcases Except.bind_eq_error.1 h with h | ⟨-, -, h⟩
  · exact refusal_of_demand h
  dsimp only at h
  rcases Except.bind_eq_error.1 h with h | ⟨-, -, h⟩
  · exact refusal_of_demand h
  rcases Except.bind_eq_error.1 h with h | ⟨level, -, h⟩
  · exact refusal_of_needed Complete.logLevel h
  rcases Except.bind_eq_error.1 h with h | ⟨verbosity, -, h⟩
  · cases hlevel : verbosity? level with
    | some kept => rw [hlevel] at h; cases h
    | none =>
        rw [hlevel] at h
        exact Or.inl ⟨_, (Except.error.inj h).symm⟩
  rcases Except.bind_eq_error.1 h with h | ⟨period, -, h⟩
  · exact refusal_of_needed Complete.period h
  rcases Except.bind_eq_error.1 h with h | ⟨-, -, h⟩
  · exact refusal_of_demand h
  rcases Except.bind_eq_error.1 h with h | ⟨count, -, h⟩
  · exact refusal_of_needed Complete.count h
  rcases Except.bind_eq_error.1 h with h | ⟨-, -, h⟩
  · exact refusal_of_demand h
  rcases Except.bind_eq_error.1 h with h | ⟨port, -, h⟩
  · exact refusal_of_needed Complete.port h
  rcases Except.bind_eq_error.1 h with h | ⟨-, -, h⟩
  · exact refusal_of_demand h
  rcases Except.bind_eq_error.1 h with h | ⟨ttl, -, h⟩
  · exact refusal_of_needed Complete.ttl h
  rcases Except.bind_eq_error.1 h with h | ⟨-, -, h⟩
  · exact refusal_of_demand h
  · cases h

/-- Settings name the groups of their options. -/
theorem groups_of_settings {s : Settings} (h : o.settings = .ok s) : s.groups = o.groups := by
  unfold settings at h
  simp only [Except.bind_eq_ok] at h
  obtain ⟨_, -, _, -, _, -, _, -, _, -, _, -, _, -, _, -, _, -, _, -, _, -, _, -, _, -, hs⟩ := h
  rw [← Except.ok.inj hs]

end Options

namespace Program

variable {o : Options} {w : World}

/-! ## Checking -/

/-- The settings and the sessions of a run: its options are checked, then its groups. -/
def prepared (o : Options) : Act (Settings × Table) := do
  let s ← validate o
  let table ← build s
  pure (s, table)

/-- A run reports the setup errors that come up on the way, and no other fault. -/
theorem checked_eq (o : Options) :
    checked o = recover (some <$> prepared o) isSetup (fun e => do
      report e.message
      complain CommandLine.usage
      pure none) := by
  simp only [checked, prepared, map_eq_pure_bind, bind_assoc, pure_bind]

/-- Checking does no more than to log. -/
theorem keeps_prepared (o : Options) : Keeps Frame.logging (prepared o) := by
  have hexcept : ∀ {α : Type} (x : Except Fault α), Keeps Frame.logging (Act.ofExcept x) := by
    intro α x
    cases x with
    | ok a => exact keeps_pure a
    | error e => exact keeps_throw e
  have hvalidate : Keeps Frame.logging (validate o) := by
    unfold validate
    refine keeps_bind (hexcept _) fun s => keeps_bind keeps_get fun w => ?_
    split
    · exact keeps_bind (keeps_log _ _) fun _ => keeps_pure s
    · exact keeps_pure s
  unfold prepared
  refine keeps_bind hvalidate fun s => keeps_bind ?_ fun table => keeps_pure _
  exact keeps_bind (keeps_forM fun remark _ => keeps_log _ _) fun _ => hexcept _

/-- **Checking the options and groups of a run** does no more than to log, whatever comes of it. -/
theorem keeps_checked (o : Options) : Keeps Frame.logging (checked o) := by
  rw [checked_eq, map_eq_pure_bind]
  refine keeps_recover (keeps_bind (keeps_prepared o) fun _ => keeps_pure _) fun e => ?_
  refine keeps_bind (keeps_bind (keeps_log _ _) fun _ => keeps_complain _) fun _ => ?_
  exact keeps_bind (keeps_complain _) fun _ => keeps_pure none

/-- Why a run cannot start: a setup error, an option without its value, or a token whose digits are no
    number. -/
def Refusal (o : Options) (e : Fault) : Prop :=
  o.Refusal e ∨ Token.Refusal o.groups e

/-- Logging does not fail. -/
theorem forM_log_ne_error (level : Level) (messages : List String) (w w' : World) (e : Fault) :
    messages.forM (log level) w ≠ .error e w' := by
  induction messages generalizing w with
  | nil => simp
  | cons message messages ih =>
      show (log level message >>= fun _ => messages.forM (log level)) w ≠ _
      rw [bind_of_ok (log_apply level message w)]
      exact ih _

/-- **What a run is refused with** is one of its options or tokens to blame for. -/
theorem refusal_of_prepared {e : Fault} {w' : World} (h : prepared o w = .error e w') :
    Refusal o e := by
  unfold prepared at h
  rcases bind_eq_error.1 h with h | ⟨s, w₁, hs, h⟩
  · -- The remark on a reserved port comes after the settings, and does not fail.
    unfold validate at h
    rcases bind_eq_error.1 h with h | ⟨s, w₁, -, h⟩
    · exact Or.inl (Options.refusal_of_settings (ofExcept_eq_error.1 h).1)
    · rw [bind_of_ok (get_apply w₁)] at h
      split at h <;> cases h
  · have hgroups : s.groups = o.groups := by
      unfold validate at hs
      obtain ⟨s', w₂, hs', hrest⟩ := bind_eq_ok.1 hs
      rw [bind_of_ok (get_apply w₂)] at hrest
      have hsame : s' = s := by
        split at hrest
        · rw [bind_of_ok (log_apply _ _ w₂)] at hrest
          cases hrest
          rfl
        · cases hrest
          rfl
      rw [← hsame]
      exact Options.groups_of_settings (ofExcept_eq_ok.1 hs').1
    rcases bind_eq_error.1 h with h | ⟨table, w₂, -, h⟩
    · unfold build at h
      rcases bind_eq_error.1 h with h | ⟨-, w₂, -, h⟩
      · exact absurd h (forM_log_ne_error _ _ _ _ _)
      · have hrefusal := Table.refusal_of_build (ofExcept_eq_error.1 h).1
        rw [hgroups] at hrefusal
        exact Or.inr hrefusal
    · cases h

/-! ## Ending -/

/-- A message was reported: it is in the log as an error, and behind all else on standard error, with
    the usage of the program. -/
structure Rejected (message : String) (w : World) : Prop where
  record : w.host.records.back? = some ⟨.error, message⟩
  stderr : ∃ before, w.host.stderr = before ++ s!"mcjoin: {message}\n" ++ CommandLine.usage

/-- A setup error is reported and ends the run. -/
theorem run_of_setup {cause : SetupError} {w₁ : World}
    (h : prepared o w = .error (.setup cause) w₁) :
    ∃ w', run o w = .ok failure w' ∧ Frame.logging.rel w w' ∧ Rejected cause.message w' := by
  have hmap : (some <$> prepared o) w = .error (.setup cause) w₁ := by
    rw [map_eq_pure_bind, bind_apply, h]
  let logged : World := { w₁ with host := w₁.host.log .error cause.message }
  let w' : World := { logged with host := { logged.host with
    stderr := logged.host.stderr ++ s!"mcjoin: {cause.message}\n" ++ CommandLine.usage } }
  have hchecked : checked o w = .ok none w' := by
    rw [checked_eq]
    unfold recover
    rw [hmap]
    rfl
  refine ⟨w', ?_, ?_, ?_, ⟨logged.host.stderr, rfl⟩⟩
  · unfold run
    rw [bind_of_ok hchecked]
    rfl
  · have hchecks := keeps_prepared o w
    rw [after_of_error h] at hchecks
    exact Frame.logging.trans (Frame.logging.trans hchecks (keeps_log .error cause.message w₁))
      (.of_eq rfl rfl)
  · show (w₁.host.log .error cause.message).records.back? = _
    rw [Host.records_log]
    exact Array.back?_push

/-- Any other fault that keeps a run from starting gets out of the run, which ends with status 1
    nevertheless. -/
theorem run_of_unexpected {e : Fault} {w₁ : World} (h : prepared o w = .error e w₁)
    (hsetup : isSetup e = false) : run o w = .error e w₁ := by
  have hmap : (some <$> prepared o) w = .error e w₁ := by
    rw [map_eq_pure_bind, bind_apply, h]
  have hchecked : checked o w = .error e w₁ := by
    rw [checked_eq]
    unfold recover
    rw [hmap]
    dsimp only
    rw [hsetup]
    rfl
  unfold run
  rw [bind_apply, hchecked]

/-- What a run reports that ended with a fault of the checks. -/
theorem exitOf_of_refusal {e : Fault} (h : Refusal o e) (w : World) :
    ∃ w', exitOf e w = .ok failure w' ∧ Frame.logging.rel w w' := by
  have hreport : ∀ w : World, ∃ w', (do
      log .error "Unhandled exception:"
      complain s!"\nError: {e.message}\n"
      pure failure) w = .ok failure w' ∧ Frame.logging.rel w w' := by
    intro w
    refine ⟨_, rfl, ?_⟩
    exact Frame.logging.trans (keeps_log .error _ w) (.of_eq rfl rfl)
  rcases h with (⟨cause, rfl⟩ | ⟨⟨use, rfl⟩, -⟩) | (⟨cause, rfl⟩ | ⟨⟨cause, rfl⟩, -⟩)
  all_goals exact hreport w

/-- **A run that cannot start leaves nothing.** If its arguments are read but the options or groups
    cannot be used, the program ends with status 1, and nothing was done but to log and to write to
    standard error: the settings for the next run, the sockets, the signal handlers and the terminal
    are as they were. The fault is a setup error, which the run reports itself. Only an option without
    its value and a token whose digits are no number give other faults, which get out of the run. -/
theorem start_rejects_cleanly {arguments : List String}
    (hread : CommandLine.read w.options arguments = .ok o) :
    (∃ s table w', prepared o w = .ok (s, table) w') ∨
      ∃ e w₁ w', prepared o w = .error e w₁ ∧ main arguments w = .ok (.status 1) w' ∧
        OnlyLogged w w' ∧
        ((∃ cause, e = .setup cause ∧ run o w = .ok (.status 1) w' ∧ Rejected cause.message w') ∨
          (run o w = .error e w₁ ∧ (¬o.Complete ∨ ∃ token ∈ o.groups, Token.Uncountable token))) := by
  have hmain : main arguments w = recover (run o) (fun _ => true) exitOf w := by
    unfold main
    rw [bind_of_ok (get_apply w), hread]
  rw [hmain]
  cases hprepared : prepared o w with
  | ok result w' => exact Or.inl ⟨result.1, result.2, w', rfl⟩
  | error e w₁ =>
      refine Or.inr ⟨e, w₁, ?_⟩
      have hrefusal := refusal_of_prepared hprepared
      by_cases hsetup : isSetup e
      · obtain ⟨cause, rfl⟩ : ∃ cause, e = .setup cause := by
          cases e with
          | setup cause => exact ⟨cause, rfl⟩
          | _ => cases hsetup
        obtain ⟨w', hrun, hlogged, hrejected⟩ := run_of_setup hprepared
        refine ⟨w', rfl, ?_, hlogged, Or.inl ⟨cause, rfl, hrun, hrejected⟩⟩
        unfold recover
        rw [hrun]
        rfl
      · -- No handler of the run sees the fault, so it ends the program.
        have hrun := run_of_unexpected hprepared (Bool.eq_false_iff.2 hsetup)
        obtain ⟨w', hexit, hlogged⟩ := exitOf_of_refusal hrefusal w₁
        have hchecks := keeps_prepared o w
        rw [after_of_error hprepared] at hchecks
        refine ⟨w', rfl, ?_, Frame.logging.trans hchecks hlogged, Or.inr ⟨hrun, ?_⟩⟩
        · unfold recover
          rw [hrun]
          exact hexit
        · rcases hrefusal with (⟨cause, rfl⟩ | ⟨-, hincomplete⟩) | (⟨cause, rfl⟩ | ⟨-, huncountable⟩)
          · exact absurd rfl hsetup
          · exact Or.inl hincomplete
          · exact absurd rfl hsetup
          · exact Or.inr huncountable

/-- The world that a program is started in. -/
def fresh : World := { flags := { period := .ofNat 1 } }

/-- A token that asks for no groups at all is reported, and nothing else is done. -/
theorem no_groups_are_rejected :
    CommandLine.read fresh.options ["225.1.2.3+0"] = .ok { groups := ["225.1.2.3+0"] } ∧
      ∃ w', main ["225.1.2.3+0"] fresh = .ok (.status 1) w' ∧ OnlyLogged fresh w' ∧
        w'.host.stderr = "Invalid number of groups given (0)\n" ++
          "mcjoin: Invalid number of groups given (0)\n" ++ CommandLine.usage := by
  have hread : CommandLine.read fresh.options ["225.1.2.3+0"] =
      .ok { groups := ["225.1.2.3+0"] } := by
    decide +kernel
  refine ⟨hread, ?_⟩
  have hstderr : ((main ["225.1.2.3+0"]).after fresh).host.stderr =
      "Invalid number of groups given (0)\n" ++
        "mcjoin: Invalid number of groups given (0)\n" ++ CommandLine.usage := by
    decide +kernel
  rcases start_rejects_cleanly hread with ⟨s, table, w', hprepared⟩ | ⟨e, w₁, w', -, hmain, hlogged, -⟩
  · have hfails : fault? (prepared { groups := ["225.1.2.3+0"] }) fresh ≠ none := by decide +kernel
    exact absurd (fault?_eq_none_iff.2 ⟨(s, table), w', hprepared⟩) hfails
  · rw [after_of_ok hmain] at hstderr
    exact ⟨w', hmain, hlogged, hstderr⟩

/-- A superscript digit behind the plus sign gets past the check of the token, and the failure to read
    it as a number gets out of the run: no setup error is reported. -/
theorem superscript_count_is_no_setup_error :
    CommandLine.read fresh.options ["225.1.2.3+²"] = .ok { groups := ["225.1.2.3+²"] } ∧
      ∃ w', run { groups := ["225.1.2.3+²"] } fresh = .error (.numeral (.malformed "²")) w' := by
  refine ⟨by decide +kernel, ?_⟩
  rw [← fault?_eq_some_iff]
  decide +kernel

end Program

end Multicast
