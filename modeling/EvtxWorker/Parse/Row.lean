import EvtxWorker.Json.Value
import EvtxWorker.Json.Text

namespace EvtxWorker.Parse
open Json

structure Timestamp where
  asMicrosecond : Int64
deriving DecidableEq

structure SerializedRecord where
  eventRecordId : UInt64
  timestamp : Timestamp
  data : String
deriving DecidableEq

structure EvtxRow where
  recordId : Int64
  eventId : Option Int32
  provider : Option String
  channel : Option String
  computer : Option String
  level : Option Int32
  timeCreatedMicros : Option Int64
  eventJson : String
deriving DecidableEq

def valueAsI32 (v : Value) : Option Int32 :=
  match v.asI64 with
  | some i => i32TryFrom i.toInt
  | none =>
    match v.asU64 with
    | some u => i32TryFrom u.toNat
    | none => v.asStr.bind fun s => parseI32 (trim s)

def extractEventId (system : Value) : Option Int32 := do
  let eid ← system.get "EventID"
  (valueAsI32 eid).or ((eid.get "#text").bind valueAsI32)

def extractProvider (system : Value) : Option String :=
  (((system.get "Provider").bind (·.get "#attributes")).bind (·.get "Name")).bind Value.asStr

def stringField (system : Value) (key : String) : Option String :=
  (system.get key).bind Value.asStr

def intField (system : Value) (key : String) : Option Int32 :=
  (system.get key).bind valueAsI32

def rowOf (fromStr : String → Option Value) (rec : SerializedRecord) : EvtxRow :=
  let value := (fromStr rec.data).getD .null
  let system := (value.get "Event").bind (·.get "System")
  { recordId := rec.eventRecordId.toInt64
    eventId := system.bind extractEventId
    provider := system.bind extractProvider
    channel := system.bind (stringField · "Channel")
    computer := system.bind (stringField · "Computer")
    level := system.bind (intField · "Level")
    timeCreatedMicros := some rec.timestamp.asMicrosecond
    eventJson := rec.data }

structure SystemColumns where
  eventId : Option Int32
  provider : Option String
  channel : Option String
  computer : Option String
  level : Option Int32
deriving DecidableEq

def SystemColumns.absent : SystemColumns := ⟨none, none, none, none, none⟩

def SystemColumns.lift (system : Value) : SystemColumns where
  eventId := extractEventId system
  provider := extractProvider system
  channel := stringField system "Channel"
  computer := stringField system "Computer"
  level := intField system "Level"

def SystemColumns.ofSystem : Option Value → SystemColumns
  | none => absent
  | some system => lift system

def EvtxRow.systemColumns (row : EvtxRow) : SystemColumns :=
  ⟨row.eventId, row.provider, row.channel, row.computer, row.level⟩

def systemOf (event : Value) : Option Value := do
  let e ← event.get "Event"
  e.get "System"

def systemBlock (fromStr : String → Option Value) (text : String) : Option Value :=
  (fromStr text).bind systemOf

theorem rowOf_systemColumns (fromStr : String → Option Value) (rec : SerializedRecord) :
    (rowOf fromStr rec).systemColumns = .ofSystem (systemBlock fromStr rec.data) := by
  cases ht : fromStr rec.data with
  | none => simp [rowOf, systemBlock, ht, EvtxRow.systemColumns, SystemColumns.ofSystem,
      SystemColumns.absent, Value.get]
  | some v =>
    cases hs : systemOf v with
    | none =>
      have : (v.get "Event").bind (·.get "System") = none := hs
      simp [rowOf, systemBlock, ht, hs, this, EvtxRow.systemColumns, SystemColumns.ofSystem,
        SystemColumns.absent]
    | some system =>
      have : (v.get "Event").bind (·.get "System") = some system := hs
      simp [rowOf, systemBlock, ht, hs, this, EvtxRow.systemColumns, SystemColumns.ofSystem,
        SystemColumns.lift]

theorem row_ext {r s : EvtxRow} (hid : r.recordId = s.recordId)
    (hcols : r.systemColumns = s.systemColumns)
    (htime : r.timeCreatedMicros = s.timeCreatedMicros) (hjson : r.eventJson = s.eventJson) :
    r = s := by
  cases r
  cases s
  simp_all [EvtxRow.systemColumns]

end EvtxWorker.Parse
