import EvtxWorker.Parse.Outcomes

namespace EvtxWorker.Parse
open Unwinding Unwind Json

structure SerdeContract (crates : Crates) (denotes : String → Option Value) (limit : Nat) :
    Prop where
  tooDeep : ∀ text, limit ≤ nesting text → crates.fromStr text = none
  faithful : ∀ text v, nesting text < limit → denotes text = some v →
    crates.fromStr text = some v

def BuiltFrom (crates : Crates) (rec : SerializedRecord) (row : EvtxRow) : Prop :=
  ∃ bytes parser rows, ∃ i : Nat, crates.fromBuffer bytes = .ret (some parser) ∧
    parseRecordsInner crates bytes = .ret rows ∧
    (oks parser.recordsJson)[i]? = some rec ∧ rows[i]? = some row

variable {crates : Crates} {denotes : String → Option Value} {limit : Nat}
  {rec rec₁ rec₂ : SerializedRecord} {row row₁ row₂ : EvtxRow} {v v₁ v₂ : Value}

theorem builtFrom_eq_rowOf (h : BuiltFrom crates rec row) : row = rowOf crates.fromStr rec := by
  obtain ⟨bytes, parser, rows, i, hparser, hrun, hrec, hrow⟩ := h
  rw [parseRecordsInner_built crates hparser] at hrun
  by_cases hr : .panic ∈ reached maxRecords parser.recordsJson
  · rw [parseLoop_panic crates hr] at hrun
    cases hrun
  · rw [parseLoop_calm crates hr] at hrun
    obtain rfl : imageOf crates parser = rows := by simpa using hrun
    rw [imageOf, List.getElem?_map, List.getElem?_take] at hrow
    split_ifs at hrow
    · simpa [hrec] using hrow.symm
    · simp at hrow

theorem builtFrom_rowOf {bytes : Bytes} {parser : EvtxParser} {i : Nat}
    (hparser : crates.fromBuffer bytes = .ret (some parser))
    (hcalm : .panic ∉ reached maxRecords parser.recordsJson) (hi : i < maxRecords)
    (hrec : (oks parser.recordsJson)[i]? = some rec) :
    BuiltFrom crates rec (rowOf crates.fromStr rec) := by
  refine ⟨bytes, parser, _, i, hparser, ?_, hrec, imageOf_getElem? hi hrec⟩
  rw [parseRecordsInner_built crates hparser, parseLoop_calm crates hcalm]

section Same
variable {system system' : Value}

theorem valueAsI32_same (h : SameValue v₁ v₂) : valueAsI32 v₁ = valueAsI32 v₂ := by
  cases h <;> rfl

theorem extractEventId_same (h : SameValue system system') :
    extractEventId system = extractEventId system' := by
  refine get_bind_same (fun v w hvw => ?_) h "EventID"
  rw [valueAsI32_same hvw, get_bind_same (fun _ _ => valueAsI32_same) hvw "#text"]

theorem extractProvider_same (h : SameValue system system') :
    extractProvider system = extractProvider system' := by
  simp only [extractProvider, Option.bind_assoc]
  refine get_bind_same (fun v w hvw => ?_) h "Provider"
  refine get_bind_same (fun v w hvw => ?_) hvw "#attributes"
  exact get_bind_same (fun _ _ => asStr_same) hvw "Name"

theorem lift_same (h : SameValue system system') :
    SystemColumns.lift system = SystemColumns.lift system' := by
  have hstring (key : String) : stringField system key = stringField system' key :=
    get_bind_same (fun _ _ => asStr_same) h key
  have hint : intField system "Level" = intField system' "Level" :=
    get_bind_same (fun _ _ => valueAsI32_same) h "Level"
  rw [SystemColumns.lift, SystemColumns.lift, extractEventId_same h, extractProvider_same h,
    hstring, hstring, hint]

theorem ofSystem_same {o o' : Option Value} (h : Option.Rel SameValue o o') :
    SystemColumns.ofSystem o = SystemColumns.ofSystem o' := by
  cases h with
  | none => rfl
  | some h => exact lift_same h

end Same

theorem columns_of_tooDeep (hserde : SerdeContract crates denotes limit)
    (hrow : BuiltFrom crates rec row) (hdeep : limit ≤ nesting rec.data) :
    row.systemColumns = .absent := by
  rw [builtFrom_eq_rowOf hrow, rowOf_systemColumns, systemBlock, hserde.tooDeep _ hdeep]
  rfl

theorem columns_of_shallow (hserde : SerdeContract crates denotes limit)
    (hrow : BuiltFrom crates rec row) (hv : denotes rec.data = some v)
    (hdeep : ¬ limit ≤ nesting rec.data) :
    row.systemColumns = .ofSystem (systemOf v) := by
  rw [builtFrom_eq_rowOf hrow, rowOf_systemColumns, systemBlock,
    hserde.faithful _ v (Nat.lt_of_not_le hdeep) hv]
  rfl

theorem lifted_columns_agree_iff (hserde : SerdeContract crates denotes limit)
    (hrow₁ : BuiltFrom crates rec₁ row₁) (hrow₂ : BuiltFrom crates rec₂ row₂)
    (hv₁ : denotes rec₁.data = some v₁) (hv₂ : denotes rec₂.data = some v₂)
    (hsys : Option.Rel SameValue (systemOf v₁) (systemOf v₂)) :
    row₁.systemColumns = row₂.systemColumns ↔
      (limit ≤ nesting rec₁.data ↔ limit ≤ nesting rec₂.data) ∨
        SystemColumns.ofSystem (systemOf v₁) = .absent := by
  have hsame := ofSystem_same hsys
  by_cases hd₁ : limit ≤ nesting rec₁.data <;> by_cases hd₂ : limit ≤ nesting rec₂.data
  · simp [columns_of_tooDeep hserde hrow₁ hd₁, columns_of_tooDeep hserde hrow₂ hd₂, hd₁, hd₂]
  · rw [columns_of_tooDeep hserde hrow₁ hd₁, columns_of_shallow hserde hrow₂ hv₂ hd₂, ← hsame]
    simp [hd₁, hd₂, eq_comm]
  · rw [columns_of_shallow hserde hrow₁ hv₁ hd₁, columns_of_tooDeep hserde hrow₂ hd₂]
    simp [hd₁, hd₂]
  · rw [columns_of_shallow hserde hrow₁ hv₁ hd₁, columns_of_shallow hserde hrow₂ hv₂ hd₂, hsame]
    simp [hd₁, hd₂]

def ColumnsFollowSystem (crates : Crates) (denotes : String → Option Value) : Prop :=
  ∀ rec₁ rec₂ row₁ row₂ v₁ v₂, BuiltFrom crates rec₁ row₁ → BuiltFrom crates rec₂ row₂ →
    denotes rec₁.data = some v₁ → denotes rec₂.data = some v₂ → systemOf v₁ = systemOf v₂ →
    row₁.systemColumns = row₂.systemColumns

def logonText : String := "\x7b\"Event\":\x7b\"System\":\x7b\"EventID\":4624\x7d,\"EventData\":"

def brackets (n : Nat) : String := String.ofList (List.replicate n '[' ++ List.replicate n ']')

def nestedText (n : Nat) : String := logonText ++ brackets n ++ "\x7d\x7d"

def logonSystem : Value := .object [("EventID", .number (.posInt 4624))]

def arrays : Nat → Value
  | 0 => .array []
  | n + 1 => .array [arrays n]

def nestedEvent (n : Nat) : Value :=
  .object [("Event", .object [("System", logonSystem), ("EventData", arrays n)])]

theorem systemOf_nestedEvent (n : Nat) : systemOf (nestedEvent n) = some logonSystem := rfl

def nestedDenotes (text : String) : Option Value :=
  if text = nestedText 200 then some (nestedEvent 199)
  else if text = nestedText 1 then some (nestedEvent 0)
  else none

def deepRecord : SerializedRecord := ⟨1, ⟨0⟩, nestedText 200⟩

def flatRecord : SerializedRecord := ⟨2, ⟨0⟩, nestedText 1⟩

def nestedCrates : Crates where
  fromBuffer _ := .ret (some ⟨[.ok deepRecord, .ok flatRecord]⟩)
  fromStr text := if 128 ≤ nesting text then none else nestedDenotes text

theorem nestedCrates_contract : SerdeContract nestedCrates nestedDenotes 128 where
  tooDeep text h := if_pos h
  faithful text v h hv := by
    rw [← hv]
    exact if_neg (Nat.not_le_of_lt h)

theorem logonText_scan : logonText.toList.foldl Scan.next ⟨0, 0, false, false⟩ =
    ⟨2, 3, false, false⟩ := by decide +kernel

theorem le_nesting_nestedText (n : Nat) : n ≤ nesting (nestedText n) := by
  have hopen := deepest_of_open n ⟨2, 3, false, false⟩ rfl (by decide)
  simp only [nesting, nestedText, brackets, String.toList_append, String.toList_ofList,
    List.foldl_append, logonText_scan]
  exact (Nat.le_add_left n 2).trans
    (hopen.trans ((deepest_le_foldl _ _).trans (deepest_le_foldl _ _)))

theorem nesting_flat : nesting (nestedText 1) = 3 := by decide +kernel

theorem flat_ne_deep : nestedText 1 ≠ nestedText 200 := by
  intro h
  have hdeep := le_nesting_nestedText 200
  rw [← h, nesting_flat] at hdeep
  omega

theorem deep_builtFrom :
    BuiltFrom nestedCrates deepRecord (rowOf nestedCrates.fromStr deepRecord) :=
  @builtFrom_rowOf nestedCrates _ [] _ 0 rfl (by simp [maxRecords]) (by decide) rfl

theorem flat_builtFrom :
    BuiltFrom nestedCrates flatRecord (rowOf nestedCrates.fromStr flatRecord) :=
  @builtFrom_rowOf nestedCrates _ [] _ 1 rfl (by simp [maxRecords]) (by decide) rfl

theorem same_system : systemOf (nestedEvent 199) = systemOf (nestedEvent 0) := by
  rw [systemOf_nestedEvent, systemOf_nestedEvent]

theorem denotes_deep : nestedDenotes deepRecord.data = some (nestedEvent 199) := if_pos rfl

theorem denotes_flat : nestedDenotes flatRecord.data = some (nestedEvent 0) := by
  rw [nestedDenotes, flatRecord, if_neg flat_ne_deep, if_pos rfl]

theorem deep_columns_absent :
    (rowOf nestedCrates.fromStr deepRecord).systemColumns = .absent :=
  columns_of_tooDeep nestedCrates_contract deep_builtFrom
    (le_trans (by decide) (le_nesting_nestedText 200))

theorem flat_columns_lifted :
    (rowOf nestedCrates.fromStr flatRecord).systemColumns = .lift logonSystem :=
  columns_of_shallow nestedCrates_contract flat_builtFrom denotes_flat
    (by rw [flatRecord, nesting_flat]; decide)

theorem systemColumns_eventId (row : EvtxRow) : row.systemColumns.eventId = row.eventId := rfl

theorem payload_blanks_columns :
    SerdeContract nestedCrates nestedDenotes 128 ∧
    (rowOf nestedCrates.fromStr deepRecord).eventId = none ∧
    (rowOf nestedCrates.fromStr flatRecord).eventId = some 4624 ∧
    ¬ ColumnsFollowSystem nestedCrates nestedDenotes := by
  refine ⟨nestedCrates_contract, ?_, ?_, ?_⟩
  · rw [← systemColumns_eventId, deep_columns_absent]
    rfl
  · rw [← systemColumns_eventId, flat_columns_lifted]
    decide
  intro h
  have hcols := h _ _ _ _ _ _ deep_builtFrom flat_builtFrom denotes_deep denotes_flat
    same_system
  rw [deep_columns_absent, flat_columns_lifted] at hcols
  exact absurd hcols (by decide)

theorem lifted_columns_agree_nested :
    (rowOf nestedCrates.fromStr deepRecord).systemColumns =
        (rowOf nestedCrates.fromStr flatRecord).systemColumns ↔
      (128 ≤ nesting deepRecord.data ↔ 128 ≤ nesting flatRecord.data) ∨
        SystemColumns.ofSystem (systemOf (nestedEvent 199)) = .absent := by
  have hsys : Option.Rel SameValue (systemOf (nestedEvent 199)) (systemOf (nestedEvent 0)) :=
    .some (sameValue_refl logonSystem)
  exact lifted_columns_agree_iff nestedCrates_contract deep_builtFrom flat_builtFrom denotes_deep
    denotes_flat hsys

end EvtxWorker.Parse
