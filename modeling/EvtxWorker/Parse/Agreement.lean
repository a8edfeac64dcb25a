import EvtxWorker.Parse.Outcomes

namespace EvtxWorker.Parse
open Unwinding Unwind Json

def CountAgrees (crates : Crates) (bytes : Bytes) : Prop :=
  ∃ rows n, parseRecords crates bytes = .ret rows ∧ recordCount crates bytes = .ret n ∧
    n.toInt = rows.length

variable {crates : Crates} {bytes : Bytes} {parser : EvtxParser}

theorem overrun_maxRecords_iff {ps : List (Pull SerializedRecord)} :
    Overrun maxRecords ps ↔ .panic ∉ window maxRecords ps ∧ .panic ∈ reached maxRecords ps :=
  overrun_iff

theorem countAgrees_unopened (h : ∀ parser, ¬ Opens crates bytes parser) :
    CountAgrees crates bytes :=
  ⟨[], 0, parseRecords_unopened h, recordCount_unopened h, rfl⟩

theorem countAgrees_calm (ho : Opens crates bytes parser)
    (h : .panic ∉ reached maxRecords parser.recordsJson) : CountAgrees crates bytes := by
  have hw : .panic ∉ window maxRecords parser.recordsJson :=
    fun hw => h (List.mem_append_left _ hw)
  obtain ⟨n, hcount, hn⟩ := recordCount_calm ho hw
  exact ⟨_, n, parseRecords_calm ho h, hcount, by rw [hn, imageOf_length]⟩

theorem countAgrees_panic (ho : Opens crates bytes parser)
    (h : .panic ∈ window maxRecords parser.recordsJson) : CountAgrees crates bytes :=
  ⟨[], 0, parseRecords_panic ho (List.mem_append_left _ h), recordCount_panic ho h, rfl⟩

theorem overrun_counts (ho : Opens crates bytes parser)
    (h : Overrun maxRecords parser.recordsJson) :
    parseRecords crates bytes = .ret [] ∧
      ∃ n, recordCount crates bytes = .ret n ∧ n.toInt = maxRecords := by
  obtain ⟨hw, hr⟩ := overrun_maxRecords_iff.mp h
  refine ⟨parseRecords_panic ho hr, ?_⟩
  obtain ⟨n, hcount, hn⟩ := recordCount_calm ho hw
  obtain ⟨pre, a, post, hps, -, hlen⟩ := h
  refine ⟨n, hcount, ?_⟩
  rw [hn, Nat.min_eq_left]
  rw [hps]
  simp only [oks_append, oks_ok, oks_panic, List.length_append, List.length_cons]
  omega

theorem not_countAgrees_overrun (ho : Opens crates bytes parser)
    (h : Overrun maxRecords parser.recordsJson) : ¬ CountAgrees crates bytes := by
  rintro ⟨rows, n, hrows, hn, hlen⟩
  obtain ⟨hparse, m, hcount, hm⟩ := overrun_counts ho h
  obtain rfl : rows = [] := ret_unique hrows hparse
  obtain rfl : n = m := ret_unique hn hcount
  rw [hm] at hlen
  exact absurd hlen (by decide)

theorem count_agrees_iff (crates : Crates) (bytes : Bytes) :
    CountAgrees crates bytes ↔
      ∀ parser, Opens crates bytes parser → ¬ Overrun maxRecords parser.recordsJson := by
  constructor
  · intro h parser ho hover
    exact not_countAgrees_overrun ho hover h
  · intro h
    rcases opens_or_never crates bytes with ⟨parser, ho⟩ | hno
    · have hover := h parser ho
      rw [overrun_maxRecords_iff, not_and] at hover
      by_cases hwindow : .panic ∈ window maxRecords parser.recordsJson
      · exact countAgrees_panic ho hwindow
      · exact countAgrees_calm ho (hover hwindow)
    · exact countAgrees_unopened hno

def panicAfterCap : List (Pull SerializedRecord) :=
  List.replicate 4999999 (.ok emptyRecord) ++ [.ok emptyRecord, .panic]

theorem panicAfterCap_overrun : Overrun maxRecords panicAfterCap := by
  refine ⟨List.replicate 4999999 (.ok emptyRecord), emptyRecord, [], rfl,
    panic_not_mem_replicate _ _, ?_⟩
  rw [oks_replicate, List.length_replicate]
  rfl

theorem count_disagrees_after_cap :
    parseRecords (cratesYielding panicAfterCap) elfFileMagic = .ret [] ∧
    (∃ n, recordCount (cratesYielding panicAfterCap) elfFileMagic = .ret n ∧
      n.toInt = 5000000) ∧
    ¬ CountAgrees (cratesYielding panicAfterCap) elfFileMagic := by
  have ho := opens_yielding panicAfterCap
  obtain ⟨hparse, hcount⟩ := overrun_counts ho panicAfterCap_overrun
  exact ⟨hparse, hcount, not_countAgrees_overrun ho panicAfterCap_overrun⟩

theorem parseRecords_bounded (crates : Crates) (bytes : Bytes) :
    ∃ rows, parseRecords crates bytes = .ret rows ∧ rows.length ≤ maxRecords ∧
      (rows ≠ [] → ∃ parser, Opens crates bytes parser) := by
  rcases parseRecords_cases crates bytes with ⟨parser, ho, -, hrun⟩ | hrun
  · refine ⟨_, hrun, ?_, fun _ => ⟨parser, ho⟩⟩
    rw [imageOf_length]
    exact Nat.min_le_left _ _
  · exact ⟨[], hrun, Nat.zero_le _, fun h => absurd rfl h⟩

theorem recordCount_bounded (crates : Crates) (bytes : Bytes) :
    ∃ n, recordCount crates bytes = .ret n ∧ n.toInt ≤ maxRecords ∧
      (n ≠ 0 → ∃ parser, Opens crates bytes parser) := by
  rcases recordCount_cases crates bytes with ⟨parser, n, ho, hrun, hn⟩ | hrun
  · refine ⟨n, hrun, ?_, fun _ => ⟨parser, ho⟩⟩
    rw [hn]
    exact_mod_cast Nat.min_le_left _ _
  · exact ⟨0, hrun, by decide, fun h => absurd rfl h⟩

theorem not_opens_of_rejected (h : rejected bytes = true) (parser : EvtxParser) :
    ¬ Opens crates bytes parser := by
  intro ho
  simp [ho.1] at h

theorem rejected_of_gate (h : maxInputBytes < bytes.length ∨ ¬ elfFileMagic <+: bytes) :
    rejected bytes = true := by
  by_contra hr
  obtain ⟨hlen, hmagic⟩ := (rejected_eq_false_iff bytes).mp (by simpa using hr)
  rcases h with h | h
  · omega
  · exact h hmagic

theorem validity_gates_entry_points (crates : Crates) (bytes : Bytes) :
    ∃ rows n valid, parseRecords crates bytes = .ret rows ∧ recordCount crates bytes = .ret n ∧
      isValid crates bytes = .ret valid ∧
      (rows ≠ [] ∨ 0 < n → valid = true) ∧ rows.length ≤ maxRecords ∧ n.toInt ≤ maxRecords ∧
      (maxInputBytes < bytes.length ∨ ¬ elfFileMagic <+: bytes →
        rows = [] ∧ n = 0 ∧ valid = false) := by
  obtain ⟨rows, hrows, hlen, hopen⟩ := parseRecords_bounded crates bytes
  obtain ⟨n, hn, hmax, hopen'⟩ := recordCount_bounded crates bytes
  obtain ⟨valid, hvalid, hiff⟩ := isValid_cases crates bytes
  refine ⟨rows, n, valid, hrows, hn, hvalid, ?_, hlen, hmax, ?_⟩
  · rintro (h | h)
    · exact hiff.mpr (hopen h)
    · refine hiff.mpr (hopen' ?_)
      rintro rfl
      exact absurd h (by decide)
  · intro hgate
    have hno : ¬ ∃ parser, Opens crates bytes parser := by
      rintro ⟨parser, ho⟩
      exact not_opens_of_rejected (rejected_of_gate hgate) parser ho
    refine ⟨?_, ?_, ?_⟩
    · by_contra h
      exact hno (hopen h)
    · by_contra h
      exact hno (hopen' h)
    · simpa using mt hiff.mp hno

end EvtxWorker.Parse
