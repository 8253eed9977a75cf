import Muster.Options
import Muster.Proofs.Activity.Cancelled
import Muster.Proofs.Activity.Isolation
import Muster.Proofs.Activity.Latest
import Muster.Proofs.Activity.Waiting
import Muster.Proofs.Handle.Once
import Muster.Proofs.Store.Private
import Muster.Proofs.Store.Snapshot
import Muster.Proofs.Store.Parts
import Muster.Proofs.Store.Tenure
import Muster.Proofs.Stored.Layout
import Muster.Proofs.Table.Etags
import Muster.Proofs.Table.Linear
import Muster.Proofs.Table.Readings
import Muster.Proofs.Table.Reset
import Muster.Proofs.Table.Versions
import Muster.Session.Run
