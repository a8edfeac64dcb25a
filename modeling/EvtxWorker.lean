import EvtxWorker.Library.Unwind
import EvtxWorker.Library.Drain
import EvtxWorker.Library.Capped
import EvtxWorker.Library.Consumed
import EvtxWorker.Library.Cellwise
import EvtxWorker.Library.Buffer
import EvtxWorker.Library.Producer
import EvtxWorker.Library.Pool
import EvtxWorker.Library.Machine
import EvtxWorker.Library.Program
import EvtxWorker.Library.Lists
import EvtxWorker.Library.Numeral
import EvtxWorker.Library.Signed
import EvtxWorker.Library.Defaults
import EvtxWorker.Json.Value
import EvtxWorker.Json.Text
import EvtxWorker.Json.Decimal
import EvtxWorker.Parse.Row
import EvtxWorker.Parse.Records
import EvtxWorker.Parse.Outcomes
import EvtxWorker.Parse.Agreement
import EvtxWorker.Parse.Reference
import EvtxWorker.Parse.Lifting
import EvtxWorker.Parse.Coercion
import EvtxWorker.Parse.Columns
import EvtxWorker.Parse.Elements
import EvtxWorker.Parse.RecordIds
import EvtxWorker.Parse.Work
import EvtxWorker.Parse.Growth
import EvtxWorker.Parse.Log
import EvtxWorker.Parse.Pulled
import EvtxWorker.Arrow.Batch
import EvtxWorker.Sdk.Call
import EvtxWorker.Input.Path
import EvtxWorker.Input.Resolve
import EvtxWorker.Input.Gate
import EvtxWorker.Input.Locality
import EvtxWorker.Input.Targets
import EvtxWorker.Scalar.Inspect
import EvtxWorker.Scalar.Cells
import EvtxWorker.Scalar.Live
import EvtxWorker.Table.EvtxRecords
import EvtxWorker.Table.Capacity
import EvtxWorker.Table.Delivery
import EvtxWorker.Table.Outcomes
import EvtxWorker.Table.Threshold
import EvtxWorker.Sql.Agreement
import EvtxWorker.Sql.Paths
import EvtxWorker.Sql.Locality
import EvtxWorker.Sql.Gating
import EvtxWorker.Catalog.Build
import EvtxWorker.Worker.Session
import EvtxWorker.Worker.Safety
import EvtxWorker.Worker.Delivery
import EvtxWorker.Worker.Ledger
import EvtxWorker.Worker.Service
import EvtxWorker.Worker.Abstraction
