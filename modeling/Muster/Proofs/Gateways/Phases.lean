import Muster.Proofs.Gateways.Refresh

/-!
# The phases of a refresh

A refresh reads the clock, then it hands in one list with what it has read, and then it is done:
at once if the list is kept, and otherwise without being able to fail any more. Which of this is
behind a program is its `Phase`, and `Program.Refreshes` says that a program goes through its phases
in this order, whatever replies it gets (`refreshes_refresh`).
-/

namespace Muster

/-- How far a refresh has got. -/
inductive GatewayList.Phase
  /-- It has not read the clock. -/
  | fresh
  /-- It has read the clock. -/
  | read (startedAt : Nat)
  /-- It has handed in its list. -/
  | handed (list : KeptList)

open GatewayList (Phase)

namespace Program

variable {α β : Type} {owner : String}

/-- From a phase on, the program reads the clock if it has not, hands in one list for the owner with
what it has read, and ends with a result and a phase that fit `Q`; if its list is kept, it is done
at once. -/
def Refreshes (owner : String) (Q : α → Phase → Prop) : Program α → Phase → Prop
  | .done a, phase => Q a phase
  | .call .now go, phase =>
    phase = .fresh ∧ ∀ instant, Refreshes owner Q (go instant) (.read instant)
  | .call (.publish owner' list) go, phase =>
    owner' = owner ∧ phase = .read list.startedAt ∧ (∃ a, go true = .done a) ∧
      ∀ isKept, Refreshes owner Q (go isKept) (.handed list)
  | .call _ go, phase => ∀ reply, Refreshes owner Q (go reply) phase

/-- A plain call leaves the phase as it is. -/
theorem refreshes_call {Q : α → Phase → Prop} {c : Call} (hc : c.IsPlain)
    {go : c.Reply → Program α} {phase : Phase} :
    (call c go).Refreshes owner Q phase ↔ ∀ reply, (go reply).Refreshes owner Q phase := by
  cases c with
  | now => exact hc.elim
  | publish owner list => exact hc.elim
  | _ => exact Iff.rfl

/-- A plain program leaves the phase to the one behind it. -/
theorem IsPlain.refreshes_bind {R : β → Phase → Prop} {p : Program α} {f : α → Program β}
    {phase : Phase} (h : p.IsPlain) (hf : ∀ a, (f a).Refreshes owner R phase) :
    (p >>= f).Refreshes owner R phase := by
  induction p with
  | done a => exact hf a
  | call c go ih => exact (refreshes_call h.1).2 fun reply => ih reply (h.2 reply)

/-- A result that is only wrapped. -/
theorem Refreshes.wrap {Q : α → Phase → Prop} {R : β → Phase → Prop} {p : Program α}
    {f : α → Program β} {phase : Phase} (h : p.Refreshes owner Q phase)
    (hf : ∀ a, ∃ b, f a = .done b ∧ ∀ phase, Q a phase → R b phase) :
    (p >>= f).Refreshes owner R phase := by
  induction p generalizing phase with
  | done a =>
    obtain ⟨b, hb, himp⟩ := hf a
    rw [bind_done, hb]
    exact himp phase h
  | call c go ih =>
    -- Only the two calls that are not plain change the phase.
    cases c with
    | now => exact ⟨h.1, fun instant => ih instant (h.2 instant)⟩
    | publish owner' list =>
      obtain ⟨howner, hphase, ⟨a, ha⟩, hrest⟩ := h
      obtain ⟨b, hb, -⟩ := hf a
      refine ⟨howner, hphase, ⟨b, ?_⟩, fun isKept => ih isKept (hrest isKept)⟩
      show (go true >>= f) = .done b
      rw [ha, bind_done, hb]
    | _ => exact fun reply => ih reply (h reply)

end Program

namespace Operation

variable {α β : Type} {owner : String} {phase : Phase}

/-- From a phase on, the operation refreshes and ends with a result, be it a failure, and a phase
that fit `Q`. -/
def Refreshes (owner : String) (p : Operation α) (phase : Phase)
    (Q : Except Failure α → Phase → Prop) : Prop :=
  Program.Refreshes owner Q p.run phase

/-- An operation that does nothing stays in its phase. -/
theorem refreshes_pure {Q : Except Failure α → Phase → Prop} {a : α} (h : Q (.ok a) phase) :
    Refreshes owner (pure a) phase Q :=
  h

/-- A plain operation leaves the phase to the one behind it. -/
theorem IsPlain.refreshes_bind {Q : Except Failure β → Phase → Prop} {p : Operation α}
    {f : α → Operation β} (h : p.IsPlain) (hE : ∀ failure, Q (.error failure) phase)
    (hf : ∀ a, Refreshes owner (f a) phase Q) : Refreshes owner (p >>= f) phase Q := by
  refine Program.IsPlain.refreshes_bind h fun result => ?_
  cases result with
  | ok a => exact hf a
  | error failure => exact hE failure

end Operation

namespace GatewayList

open Operation

/-- A refresh that has returned has handed in what it has returned; one that has failed has handed
in nothing. -/
def HandsIn : Except Failure (List Uri) → Phase → Prop
  | .ok gateways, phase => ∃ list, phase = .handed list ∧ list.gateways = gateways
  | .error _, phase => ∀ list, phase ≠ .handed list

/-- Once a list is handed in, only telling is left. -/
theorem refreshes_handed (g : GatewayList) (list : KeptList) (isKept : Bool) :
    Refreshes g.owner (do
      if !isKept then note (.newerGatewaysKept g.clusterId)
      return list.gateways) (.handed list) HandsIn := by
  cases isKept with
  | true => exact refreshes_pure ⟨list, rfl, rfl⟩
  | false => exact fun _ => ⟨list, rfl, rfl⟩

/-- **A refresh goes through its phases**, and it ends in the last of them or fails before it. -/
theorem refreshes_refresh (g : GatewayList) : Refreshes g.owner g.refresh .fresh HandsIn := by
  refine (isPlain_resolve _).refreshes_bind (fun _ list => by simp) fun _ => ?_
  refine ⟨rfl, fun startedAt => ?_⟩
  refine g.isPlain_rows.refreshes_bind (fun _ list => by simp) fun rows => ?_
  refine (isPlain_forM isPlain_note _).refreshes_bind (fun _ list => by simp) fun _ => ?_
  refine (isPlain_note _).refreshes_bind (fun _ list => by simp) fun _ => ?_
  exact ⟨rfl, rfl, ⟨_, rfl⟩, g.refreshes_handed ⟨ofRows g.codec rows, startedAt⟩⟩

end GatewayList

end Muster
