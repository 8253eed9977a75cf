import Muster.Proofs.System.Alone
import Muster.Proofs.System.Told

/-!
# Programs that run alone and may be told to give up

A program that runs alone and would come to an end if it was never told to give up also does so if
it is told, whenever that happens: it hears of it and quits, which takes nothing but calls that are
always answered, or it goes on as if it was not told. `Proceeds` is what every call and every
telling keeps, and it leads to an end (`Goes.exists_result`).
-/

namespace Muster

section Proceeds

variable {α : Type} {Q : α → List Sign → Prop} {r : Except Failure α} {w : World} {me : Context}

/-- The program quits, or it heeds what it is told and would end with `r` if it was never told. -/
def Proceeds (Q : α → List Sign → Prop) (r : Except Failure α) (w : World) (me : Context)
    (p : Program (Except Failure α)) : Prop :=
  p.Quits ∨ (∃ signs, p.Heeds Q signs) ∧ ∃ w' me', w.run me.deaf p = (w', me', .done r)

/-- A program that is done has given up, or it has the result that it would have had. -/
theorem Proceeds.done {result : Except Failure α} (h : Proceeds Q r w me (.done result)) :
    result = .error .cancelled ∨ result = r := by
  rcases h with hquits | ⟨-, w', me', hrun⟩
  · exact .inl hquits
  · exact .inr (Program.done.inj (congrArg (fun run => run.2.2) hrun))

/-- A call with which a program parts is always answered. -/
theorem exists_reply_of_isParting (w : World) (me : Context) {c : Call} (hc : c.IsParting) :
    ∃ reply, (w.perform me c).2.2 = some reply := by
  cases c with
  | note notice => exact ⟨(), rfl⟩
  | discard tx => exact ⟨(), rfl⟩
  | _ => exact hc.elim

/-- The next call is answered, and the program still proceeds. -/
theorem Proceeds.call {c : Call} {go : c.Reply → Program (Except Failure α)}
    (h : Proceeds Q r w me (.call c go)) : ∃ reply, (w.perform me c).2.2 = some reply ∧
      Proceeds Q r (w.perform me c).1 (w.perform me c).2.1 (go reply) := by
  -- Either the task is on its way out, and every reply leads on, or the calm run has a reply here.
  rcases h with ⟨hparting, hgo⟩ | ⟨⟨signs, hheeds⟩, w', me', hrun⟩
  · obtain ⟨reply, hreply⟩ := exists_reply_of_isParting w me hparting
    exact ⟨reply, hreply, .inl (hgo reply)⟩
  -- A call at which the token is heard is answered at once; any other one as in the calm run.
  · by_cases hhears : me.Hears c
    · obtain ⟨me'', reply, hperform, hreply⟩ := World.exists_reply_of_hears (w := w) hhears
      exact ⟨reply, by rw [hperform], .inl ((hheeds reply).1 hreply)⟩
    · rw [World.run, World.perform_deaf hhears] at hrun
      cases hreply : (w.perform me c).2.2 with
      | none =>
        rw [hreply] at hrun
        exact absurd (congrArg (fun result => result.2.2) hrun) (by simp)
      | some reply =>
        rw [hreply] at hrun
        have hgo := (hheeds reply).2 (World.not_hears_reply hhears hreply)
        exact ⟨reply, rfl, .inr ⟨⟨_, hgo⟩, w', me', hrun⟩⟩

end Proceeds

namespace Setting

variable {ι α : Type} {S : Setting ι (Except Failure α)} {h : History ι (Except Failure α)}
  {id : TaskId} {Q : α → List Sign → Prop} {r : Except Failure α}

/-- A task proceeds. -/
def Goes (Q : α → List Sign → Prop) (r : Except Failure α) (h : History ι (Except Failure α))
    (id : TaskId) : Prop :=
  ∃ p me, h.system.tasks.find? id = some ⟨p, me⟩ ∧ Proceeds Q r h.system.world me p

/-- A call of a task that proceeds. -/
theorem Goes.call (hg : Goes Q r h id) : Goes Q r (S.after h (.call id)) id := by
  obtain ⟨p, me, htask, hproceeds⟩ := hg
  cases p with
  | done result =>
    have hsame : (S.after h (.call id)).system = h.system := by
      rw [system_after, event, System.stepped, System.step, htask]
      rfl
    rw [Goes, hsame]
    exact ⟨_, me, htask, hproceeds⟩
  | call c go =>
    obtain ⟨reply, hreply, hrest⟩ := hproceeds.call
    rw [Goes, system_after_call htask hreply]
    exact ⟨go reply, _, SortedMap.find?_insert_self .., hrest⟩

/-- It may be told to give up. -/
theorem Goes.cancel (hg : Goes Q r h id) : Goes Q r (S.after h (.cancel id)) id := by
  obtain ⟨p, me, htask, hproceeds⟩ := hg
  have hafter : (S.after h (.cancel id)).system = ⟨h.system.world,
      h.system.tasks.insert id ⟨p, { me with isCancelled := true }⟩⟩ := by
    rw [system_after, event, System.stepped, System.step, htask]
    rfl
  rw [Goes, hafter]
  exact ⟨p, _, SortedMap.find?_insert_self .., hproceeds⟩

/-- **A task that proceeds comes to an end** if it only goes on. -/
theorem Goes.exists_result (hg : Goes Q r h id) : ∃ n result,
    (S.onward h (List.replicate n (.call id))).result? id = some result ∧
      (result = .error .cancelled ∨ result = r) := by
  obtain ⟨p, me, htask, hproceeds⟩ := hg
  induction p generalizing h me with
  | done result =>
    refine ⟨0, result, ?_, hproceeds.done⟩
    show h.result? id = some result
    rw [History.result?, htask]
    rfl
  | call c go ih =>
    obtain ⟨reply, hreply, hrest⟩ := hproceeds.call
    have hafter := system_after_call (S := S) htask hreply
    have hfind : (S.after h (.call id)).system.tasks.find? id =
        some ⟨go reply, (h.system.world.perform me c).2.1⟩ := by
      rw [hafter]
      exact SortedMap.find?_insert_self ..
    have hgo : Proceeds Q r (S.after h (.call id)).system.world
        (h.system.world.perform me c).2.1 (go reply) := by
      rw [hafter]
      exact hrest
    obtain ⟨n, result, hresult, hfits⟩ := ih reply _ hfind hgo
    exact ⟨n + 1, result, hresult, hfits⟩

end Setting

end Muster
