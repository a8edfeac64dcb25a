import EvtxWorker.Parse.Coercion
import Mathlib.Data.List.Forall2

namespace EvtxWorker.Parse
open Json

inductive At : Value → List String → Value → Prop
  | here (v : Value) : At v [] v
  | member {members : List (String × Value)} {key : String} {v w : Value} {path : List String} :
      members.lookup key = some v → At v path w → At (.object members) (key :: path) w

def Reads (json : Option Value) (path : List String) (P : Value → Prop) : Prop :=
  ∃ root v, json = some root ∧ At root path v ∧ P v

structure ColumnsOf (json : Option Value) (row : EvtxRow) : Prop where
  eventId : ∀ n, row.eventId = some n ↔
    Reads json ["Event", "System", "EventID"] (Denotes · n.toInt) ∨
      Reads json ["Event", "System", "EventID", "#text"] (Denotes · n.toInt)
  provider : ∀ s, row.provider = some s ↔
    Reads json ["Event", "System", "Provider", "#attributes", "Name"] (· = .string s)
  channel : ∀ s, row.channel = some s ↔ Reads json ["Event", "System", "Channel"] (· = .string s)
  computer : ∀ s, row.computer = some s ↔ Reads json ["Event", "System", "Computer"] (· = .string s)
  level : ∀ n, row.level = some n ↔ Reads json ["Event", "System", "Level"] (Denotes · n.toInt)

structure Renders (fromStr : String → Option Value) (rec : SerializedRecord) (row : EvtxRow) :
    Prop where
  recordId : row.recordId = rec.eventRecordId.toInt64
  time : row.timeCreatedMicros = some rec.timestamp.asMicrosecond
  eventJson : row.eventJson = rec.data
  columns : ColumnsOf (fromStr row.eventJson) row

section Paths
variable {v w : Value} {key : String} {path : List String} {json : Option Value}
  {P : Value → Prop}

theorem at_nil : At v [] w ↔ v = w := by
  constructor
  · rintro ⟨⟩
    rfl
  · rintro rfl
    exact .here v

theorem at_cons : At v (key :: path) w ↔ ∃ u, v.get key = some u ∧ At u path w := by
  constructor
  · intro h
    cases h with
    | member hkey hrest => exact ⟨_, hkey, hrest⟩
  · rintro ⟨u, hkey, hrest⟩
    cases v with
    | object members => exact .member hkey hrest
    | _ => cases hkey

theorem reads_nil : Reads json [] P ↔ ∃ v, json = some v ∧ P v := by
  simp only [Reads, at_nil]
  constructor
  · rintro ⟨root, v, hjson, rfl, hP⟩
    exact ⟨root, hjson, hP⟩
  · rintro ⟨v, hjson, hP⟩
    exact ⟨v, v, hjson, rfl, hP⟩

theorem reads_cons : Reads json (key :: path) P ↔ Reads (json.bind (·.get key)) path P := by
  simp only [Reads, at_cons, Option.bind_eq_some_iff]
  constructor
  · rintro ⟨root, w, hjson, ⟨u, hkey, hrest⟩, hP⟩
    exact ⟨u, w, ⟨root, hjson, hkey⟩, hrest, hP⟩
  · rintro ⟨u, w, ⟨root, hjson, hkey⟩, hrest, hP⟩
    exact ⟨root, w, hjson, ⟨u, hkey, hrest⟩, hP⟩

end Paths

section Extractors
variable {system : Option Value} {key s : String} {n : Int32}

theorem string_reads (field : Option Value) :
    field.bind Value.asStr = some s ↔ Reads field [] (· = .string s) := by
  rw [reads_nil, Option.bind_eq_some_iff]
  refine exists_congr fun v => and_congr_right fun _ => ?_
  cases v <;> simp [Value.asStr]

theorem int_reads (field : Option Value) :
    field.bind valueAsI32 = some n ↔ Reads field [] (Denotes · n.toInt) := by
  rw [reads_nil, Option.bind_eq_some_iff]
  exact exists_congr fun v => and_congr_right fun _ => valueAsI32_eq_some

theorem stringField_reads :
    system.bind (stringField · key) = some s ↔ Reads system [key] (· = .string s) := by
  rw [reads_cons, ← string_reads, Option.bind_assoc]
  rfl

theorem intField_reads :
    system.bind (intField · key) = some n ↔ Reads system [key] (Denotes · n.toInt) := by
  rw [reads_cons, ← int_reads, Option.bind_assoc]
  rfl

theorem extractProvider_reads :
    system.bind extractProvider = some s ↔
      Reads system ["Provider", "#attributes", "Name"] (· = .string s) := by
  rw [reads_cons, reads_cons, reads_cons, ← string_reads]
  cases system <;> rfl

theorem valueAsI32_of_member {v w : Value} (h : v.get key = some w) : valueAsI32 v = none := by
  cases v with
  | object members => rfl
  | _ => cases h

theorem eventId_or (v : Value) :
    (valueAsI32 v).or ((v.get "#text").bind valueAsI32) = some n ↔
      valueAsI32 v = some n ∨ (v.get "#text").bind valueAsI32 = some n := by
  rw [Option.or_eq_some_iff]
  refine or_congr_right (and_iff_right_of_imp ?_)
  intro htext
  obtain ⟨w, hw, -⟩ := Option.bind_eq_some_iff.mp htext
  exact valueAsI32_of_member hw

theorem extractEventId_reads :
    system.bind extractEventId = some n ↔
      Reads system ["EventID"] (Denotes · n.toInt) ∨
        Reads system ["EventID", "#text"] (Denotes · n.toInt) := by
  have hfield : system.bind extractEventId = (system.bind (·.get "EventID")).bind fun v =>
      (valueAsI32 v).or ((v.get "#text").bind valueAsI32) := by
    cases system <;> rfl
  simp only [reads_cons, ← int_reads, hfield]
  cases system.bind (·.get "EventID") with
  | none => simp
  | some v => exact eventId_or v

end Extractors

variable {fromStr : String → Option Value} {rec : SerializedRecord} {row row' : EvtxRow}
  {json : Option Value}

theorem systemColumns_bind (system : Option Value) :
    SystemColumns.ofSystem system = ⟨system.bind extractEventId, system.bind extractProvider,
      system.bind (stringField · "Channel"), system.bind (stringField · "Computer"),
      system.bind (intField · "Level")⟩ := by
  cases system <;> rfl

theorem reads_system {path : List String} {P : Value → Prop} :
    Reads json ("Event" :: "System" :: path) P ↔ Reads (json.bind systemOf) path P := by
  have hsystem : json.bind systemOf = (json.bind (·.get "Event")).bind (·.get "System") := by
    cases json <;> rfl
  rw [reads_cons, reads_cons, hsystem]

theorem columnsOf_lifted (h : row.systemColumns = .ofSystem (json.bind systemOf)) :
    ColumnsOf json row := by
  rw [systemColumns_bind] at h
  obtain ⟨heventId, hprovider, hchannel, hcomputer, hlevel⟩ := SystemColumns.mk.inj h
  constructor
  · intro n
    rw [heventId, extractEventId_reads, reads_system, reads_system]
  · intro s
    rw [hprovider, extractProvider_reads, reads_system]
  · intro s
    rw [hchannel, stringField_reads, reads_system]
  · intro s
    rw [hcomputer, stringField_reads, reads_system]
  · intro n
    rw [hlevel, intField_reads, reads_system]

theorem columnsOf_unique (h : ColumnsOf json row) (h' : ColumnsOf json row') :
    row.systemColumns = row'.systemColumns := by
  have heventId : row.eventId = row'.eventId :=
    Option.ext fun n => (h.eventId n).trans (h'.eventId n).symm
  have hprovider : row.provider = row'.provider :=
    Option.ext fun s => (h.provider s).trans (h'.provider s).symm
  have hchannel : row.channel = row'.channel :=
    Option.ext fun s => (h.channel s).trans (h'.channel s).symm
  have hcomputer : row.computer = row'.computer :=
    Option.ext fun s => (h.computer s).trans (h'.computer s).symm
  have hlevel : row.level = row'.level :=
    Option.ext fun n => (h.level n).trans (h'.level n).symm
  rw [EvtxRow.systemColumns, EvtxRow.systemColumns, heventId, hprovider, hchannel, hcomputer,
    hlevel]

theorem columnsOf_absent (h : ColumnsOf json row)
    (hsystem : ∀ root system, json = some root → ¬ At root ["Event", "System"] system) :
    row.systemColumns = .absent := by
  have hnone : json.bind systemOf = none := by
    rw [Option.bind_eq_none_iff]
    intro root hroot
    rw [Option.eq_none_iff_forall_ne_some]
    intro system hsys
    obtain ⟨event, hevent, hget⟩ := Option.bind_eq_some_iff.mp hsys
    exact hsystem root system hroot
      (at_cons.mpr ⟨event, hevent, at_cons.mpr ⟨system, hget, .here system⟩⟩)
  have hblank : ColumnsOf json ⟨0, none, none, none, none, none, none, ""⟩ := by
    apply columnsOf_lifted
    rw [hnone]
    rfl
  exact columnsOf_unique h hblank

theorem rowOf_renders (fromStr : String → Option Value) (rec : SerializedRecord) :
    Renders fromStr rec (rowOf fromStr rec) :=
  ⟨rfl, rfl, rfl, columnsOf_lifted (rowOf_systemColumns fromStr rec)⟩

theorem renders_unique (h : Renders fromStr rec row) (h' : Renders fromStr rec row') :
    row = row' := by
  have hjson : row.eventJson = row'.eventJson := h.eventJson.trans h'.eventJson.symm
  have hcolumns := h.columns
  rw [hjson] at hcolumns
  exact row_ext (h.recordId.trans h'.recordId.symm) (columnsOf_unique hcolumns h'.columns)
    (h.time.trans h'.time.symm) hjson

theorem renders_iff : Renders fromStr rec row ↔ row = rowOf fromStr rec := by
  constructor
  · intro h
    exact renders_unique h (rowOf_renders fromStr rec)
  · rintro rfl
    exact rowOf_renders fromStr rec

end EvtxWorker.Parse
