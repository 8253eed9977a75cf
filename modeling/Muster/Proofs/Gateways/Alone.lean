import Muster.Gateways.Operations
import Muster.Proofs.System.Alone

/-!
# A refresh that runs alone

A refresh that runs alone and is not told to give up comes to an end, and what it returns are the
gateways of the rows that are committed. It does not matter which lists are kept.
-/

namespace Muster.GatewayList

open Operation

variable {e : Solo} {k : Scene}

/-- Whatever the clock shows, the program goes on. -/
theorem does_now {Q : Except Failure Nat → Scene → Prop} (h : ∀ instant, Q (.ok instant) k) :
    (perform .now).Does e k Q :=
  does_perform fun w me hw => ⟨w, me, w.instant, k, rfl, hw, h _⟩

/-- Whether or not a list is kept, the program goes on. -/
theorem does_publish {owner : String} {list : KeptList} {Q : Except Failure Bool → Scene → Prop}
    (h : ∀ isKept, Q (.ok isKept) k) : (perform (.publish owner list)).Does e k Q := by
  refine does_perform fun w me hw => ⟨_, me, (w.publish owner list).2, k, rfl, ?_, h _⟩
  split
  · split
    · exact ⟨hw.site, hw.others, hw.handles, hw.etags, hw.untold⟩
    · exact hw
  · exact ⟨hw.site, hw.others, hw.handles, hw.etags, hw.untold⟩

/-- Notices do not stand in the way. -/
theorem does_forM_note {Q : Except Failure Unit → Scene → Prop} (notices : List Notice)
    (h : Q (.ok ()) k) : Does e k (notices.forM note) Q := by
  induction notices with
  | nil => exact does_pure h
  | cons notice rest ih => exact does_bind (does_note _ ih)

/-- A refresh returns the gateways of the committed rows. -/
theorem does_refresh {g : GatewayList} {sites : SortedMap String Site} {IsFree : Cell → Prop}
    {IsUntold : Prop} {c : Contents} {source : Etag.Source} (hcalm : IsUntold) :
    g.refresh.Does ⟨g.store, sites, IsFree, IsUntold⟩ ⟨c, none, source⟩
      fun result _ => result = .ok (ofRows g.codec (c.rows g.stateName)) := by
  refine does_bind (does_resolve rfl ?_)
  refine does_bind (does_now fun startedAt => ?_)
  -- The transaction is there for the scan only.
  refine does_bind (does_within rfl fun id => ?_)
  refine does_bind (does_scan hcalm rfl rfl ?_)
  refine does_bind (does_discard rfl (does_pure ?_))
  refine does_bind (does_forM_note _ ?_)
  refine does_bind (does_note _ ?_)
  -- Whether the list is kept or not, it is returned.
  refine does_bind (does_publish fun isKept => ?_)
  cases isKept with
  | true => exact does_pure rfl
  | false => exact does_bind (does_note _ (does_pure rfl))

end Muster.GatewayList
