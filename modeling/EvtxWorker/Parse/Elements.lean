import EvtxWorker.Library.Lists
import EvtxWorker.Parse.Coercion
import EvtxWorker.Parse.Lifting

namespace EvtxWorker.Parse
open Unwinding Unwind Json Lists

inductive TextElement
  | eventID | level | channel | computer

def TextElement.key : TextElement → String
  | .eventID => "EventID"
  | .level => "Level"
  | .channel => "Channel"
  | .computer => "Computer"

inductive ObjectForm (v : Value) : List (String × Value) → Prop
  | textFirst (attributes : List (String × Value)) :
      ObjectForm v [("#text", v), ("#attributes", .object attributes)]
  | attributesFirst (attributes : List (String × Value)) :
      ObjectForm v [("#attributes", .object attributes), ("#text", v)]

def LiftsAlike : TextElement → Value → Prop
  | .eventID, _ => True
  | .level, v => ∀ z, Denotes v z → ¬ InI32 z
  | .channel, v => ∀ s, v ≠ .string s
  | .computer, v => ∀ s, v ≠ .string s

def SameTextColumns (row row' : EvtxRow) : Prop :=
  row.eventId = row'.eventId ∧ row.level = row'.level ∧ row.channel = row'.channel ∧
    row.computer = row'.computer

variable {system system' v : Value} {form members : List (String × Value)}

theorem objectForm_text (h : ObjectForm v form) : form.lookup "#text" = some v := by
  cases h <;> rfl

theorem extractEventId_alike (hs : Scalar v) (htext : form.lookup "#text" = some v)
    (hv : system.get "EventID" = some v) (hw : system'.get "EventID" = some (.object form)) :
    extractEventId system = extractEventId system' := by
  rw [extractEventId_bare hs hv, extractEventId_text htext hw]

theorem intField_alike_iff {key : String} (hv : system.get key = some v)
    (hw : system'.get key = some (.object form)) :
    intField system key = intField system' key ↔ ∀ z, Denotes v z → ¬ InI32 z := by
  have hnone : intField system' key = none := by
    rw [intField, hw]
    rfl
  rw [hnone, intField, hv, Option.bind_some, valueAsI32_eq_none]

theorem stringField_alike_iff {key : String} (hv : system.get key = some v)
    (hw : system'.get key = some (.object form)) :
    stringField system key = stringField system' key ↔ ∀ s, v ≠ .string s := by
  have hnone : stringField system' key = none := by
    rw [stringField, hw]
    rfl
  rw [hnone, stringField, hv, Option.bind_some]
  cases v <;> simp [Value.asStr]

def SameLift (system system' : Value) : Prop :=
  extractEventId system = extractEventId system' ∧
    intField system "Level" = intField system' "Level" ∧
    stringField system "Channel" = stringField system' "Channel" ∧
    stringField system "Computer" = stringField system' "Computer"

theorem sameLift_iff {element : TextElement} (hs : Scalar v)
    (htext : form.lookup "#text" = some v) (hv : system.get element.key = some v)
    (hw : system'.get element.key = some (.object form))
    (hother : ∀ other, other ≠ element.key → system'.get other = system.get other) :
    SameLift system system' ↔ LiftsAlike element v := by
  have heid (h : "EventID" ≠ element.key) : extractEventId system = extractEventId system' := by
    rw [extractEventId, extractEventId, hother _ h]
  have hint {key : String} (h : key ≠ element.key) :
      intField system key = intField system' key := by
    rw [intField, intField, hother _ h]
  have hstring {key : String} (h : key ≠ element.key) :
      stringField system key = stringField system' key := by
    rw [stringField, stringField, hother _ h]
  cases element with
  | eventID =>
    refine ⟨fun _ => trivial, fun _ => ⟨extractEventId_alike hs htext hv hw, ?_, ?_, ?_⟩⟩
    · exact hint (by decide)
    · exact hstring (by decide)
    · exact hstring (by decide)
  | level =>
    refine (and_iff_right (heid (by decide))).trans ?_
    refine (and_iff_left ⟨hstring (by decide), hstring (by decide)⟩).trans ?_
    exact intField_alike_iff hv hw
  | channel =>
    refine (and_iff_right (heid (by decide))).trans ?_
    refine (and_iff_right (hint (by decide))).trans ?_
    refine (and_iff_left (hstring (by decide))).trans ?_
    exact stringField_alike_iff hv hw
  | computer =>
    refine (and_iff_right (heid (by decide))).trans ?_
    refine (and_iff_right (hint (by decide))).trans ?_
    refine (and_iff_right (hstring (by decide))).trans ?_
    exact stringField_alike_iff hv hw

variable {crates : Crates} {rec rec' : SerializedRecord} {row row' : EvtxRow}

theorem systemColumns_of_block (hrow : BuiltFrom crates rec row)
    (hsys : systemBlock crates.fromStr rec.data = some system) :
    row.systemColumns = .lift system := by
  rw [builtFrom_eq_rowOf hrow, rowOf_systemColumns, hsys]
  rfl

theorem sameTextColumns_iff (hcols : row.systemColumns = .lift system)
    (hcols' : row'.systemColumns = .lift system') :
    SameTextColumns row row' ↔ SameLift system system' := by
  cases row
  cases row'
  obtain ⟨rfl, -, rfl, rfl, rfl⟩ := SystemColumns.mk.inj hcols
  obtain ⟨rfl, -, rfl, rfl, rfl⟩ := SystemColumns.mk.inj hcols'
  rfl

theorem text_columns_agree_iff {element : TextElement} (hs : Scalar v)
    (hv : members.lookup element.key = some v) (htext : form.lookup "#text" = some v)
    (hrow : BuiltFrom crates rec row) (hrow' : BuiltFrom crates rec' row')
    (hsys : systemBlock crates.fromStr rec.data = some (.object members))
    (hsys' : systemBlock crates.fromStr rec'.data =
      some (.object (replaceValue element.key (.object form) members))) :
    SameTextColumns row row' ↔ LiftsAlike element v := by
  rw [sameTextColumns_iff (systemColumns_of_block hrow hsys) (systemColumns_of_block hrow' hsys')]
  apply sameLift_iff hs htext
  · exact hv
  · exact lookup_replaceValue _ hv
  · exact fun other h => lookup_replaceValue_ne h _ members

def AttributesIrrelevant (crates : Crates) : Prop :=
  ∀ (element : TextElement) v form members rec rec' row row', Scalar v →
    members.lookup element.key = some v → ObjectForm v form →
    BuiltFrom crates rec row → BuiltFrom crates rec' row' →
    systemBlock crates.fromStr rec.data = some (.object members) →
    systemBlock crates.fromStr rec'.data =
      some (.object (replaceValue element.key (.object form) members)) →
    SameTextColumns row row'

def bareText : String :=
  "\x7b\"Event\":\x7b\"System\":\x7b\"Channel\":\"Security\"\x7d\x7d\x7d"

def attributedText : String :=
  "\x7b\"Event\":\x7b\"System\":\x7b\"Channel\":" ++
    "\x7b\"#attributes\":\x7b\"Id\":1\x7d,\"#text\":\"Security\"\x7d\x7d\x7d\x7d"

def bareMembers : List (String × Value) := [("Channel", .string "Security")]

def attributedChannel : List (String × Value) :=
  [("#attributes", .object [("Id", .number (.posInt 1))]), ("#text", .string "Security")]

theorem attributed_form : ObjectForm (.string "Security") attributedChannel := .attributesFirst _

def attributedMembers : List (String × Value) :=
  replaceValue "Channel" (.object attributedChannel) bareMembers

def eventOf (members : List (String × Value)) : Value :=
  .object [("Event", .object [("System", .object members)])]

def bareRecord : SerializedRecord := ⟨1, ⟨0⟩, bareText⟩

def attributedRecord : SerializedRecord := ⟨2, ⟨0⟩, attributedText⟩

def channelCrates : Crates where
  fromBuffer _ := .ret (some ⟨[.ok bareRecord, .ok attributedRecord]⟩)
  fromStr text :=
    if text = bareText then some (eventOf bareMembers)
    else if text = attributedText then some (eventOf attributedMembers)
    else none

theorem bare_builtFrom :
    BuiltFrom channelCrates bareRecord (rowOf channelCrates.fromStr bareRecord) :=
  @builtFrom_rowOf channelCrates _ [] _ 0 rfl (by simp [maxRecords]) (by decide) rfl

theorem attributed_builtFrom :
    BuiltFrom channelCrates attributedRecord (rowOf channelCrates.fromStr attributedRecord) :=
  @builtFrom_rowOf channelCrates _ [] _ 1 rfl (by simp [maxRecords]) (by decide) rfl

theorem bare_block :
    systemBlock channelCrates.fromStr bareRecord.data = some (.object bareMembers) := rfl

theorem attributed_block :
    systemBlock channelCrates.fromStr attributedRecord.data = some (.object attributedMembers) := by
  have hne : attributedText ≠ bareText := by decide
  have hstr : channelCrates.fromStr attributedText = some (eventOf attributedMembers) := by
    simp only [channelCrates, if_neg hne, if_true]
  rw [systemBlock, attributedRecord, hstr]
  rfl

theorem bare_channel :
    (rowOf channelCrates.fromStr bareRecord).channel = some "Security" :=
  congrArg SystemColumns.channel (systemColumns_of_block bare_builtFrom bare_block)

theorem attributed_channel :
    (rowOf channelCrates.fromStr attributedRecord).channel = none :=
  congrArg SystemColumns.channel (systemColumns_of_block attributed_builtFrom attributed_block)

theorem attributes_hide_channel :
    (rowOf channelCrates.fromStr bareRecord).channel = some "Security" ∧
    (rowOf channelCrates.fromStr attributedRecord).channel = none ∧
    ¬ AttributesIrrelevant channelCrates := by
  refine ⟨bare_channel, attributed_channel, ?_⟩
  intro h
  obtain ⟨-, -, hchannel, -⟩ := h .channel _ _ _ _ _ _ _ (.string "Security") rfl attributed_form
    bare_builtFrom attributed_builtFrom bare_block attributed_block
  rw [bare_channel, attributed_channel] at hchannel
  cases hchannel

theorem text_columns_agree_channel :
    SameTextColumns (rowOf channelCrates.fromStr bareRecord)
        (rowOf channelCrates.fromStr attributedRecord) ↔
      LiftsAlike .channel (.string "Security") :=
  text_columns_agree_iff (.string "Security") rfl (objectForm_text attributed_form)
    bare_builtFrom attributed_builtFrom bare_block attributed_block

end EvtxWorker.Parse
