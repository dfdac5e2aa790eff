import ReferenceData.BankEntities
import ReferenceData.DeployedBenefits
import ReferenceData.UnderwritingEntities

namespace ReferenceData

open Sql StableSort

section Answers

variable (types : BenefitMapTypes) (collation : EquivalenceCollation)
  (apart : CodesApart collation.toCollation) (tables : SqlDatabase) (scripts : List DBScript)

def ticketColumns : List String :=
  [quotesIntegrationApi_WaitingPeriod, quotesIntegration_ClaimExtender]

/-- A row which can be read after the ticket: what it writes need not have been readable. -/
def ReadableAfter (collation : Collation) (written : Prop) (columns : List String)
    (row : Row SqlValue) : Prop :=
  ∀ column ∈ benefitMapMapping, Readable column.2 (cellsOf columns row column.1) ∨
    (written ∧ column.1 ∈ ticketColumns ∧ ∃ entry ∈ benefitCodes, HasCode collation columns row entry)

def AnswersAfter (collation : Collation) (written : Prop) (tables : SqlDatabase) : Prop :=
  ∃ stored, tables benefitMap = some stored ∧
    (∀ column ∈ benefitMapColumns, column ∈ stored.columns) ∧
    ∀ row ∈ stored.rows, ReadableAfter collation written stored.columns row

theorem ticketed_readable (columns : List String) (row later : Row SqlValue) (entry : BenefitCode)
    (ticketed : Ticketed columns row later entry)
    (complete : ∀ column ∈ benefitMapColumns, column ∈ columns) :
    (∀ column ∈ benefitMapMapping, Readable column.2 (cellsOf columns later column.1)) ↔
      ∀ column ∈ benefitMapMapping, Readable column.2 (cellsOf columns row column.1) ∨
        column.1 ∈ ticketColumns := by
  have writes : ∀ column ∈ benefitMapMapping, column.1 ∈ ticketColumns →
      Readable column.2 (cellsOf columns later column.1) := by
    simp only [benefitMapMapping, List.forall_mem_cons, List.not_mem_nil, false_implies, implies_true,
      and_true, Readable, ticketed.waitingPeriod, ticketed.claimExtender]
    simp [ticketColumns, quotesIntegrationApi_WaitingPeriod, quotesIntegration_ClaimExtender,
      quotesIntegrationApi_BenefitCode, quoteOrPolicy_BenefitCode]
  apply forall₂_congr
  intro column mapped
  by_cases written : column.1 ∈ ticketColumns
  · exact iff_of_true (writes column mapped written) (Or.inr written)
  · have present : column.1 ∈ columns := complete column.1 (List.mem_map_of_mem mapped)
    rw [ticketed.others column.1 present written]
    simp [written]

include apart in
theorem finished_readable (columns : List String) (bound : benefitUpdates.Bound columns)
    (row : Row SqlValue) (width : row.length = columns.length)
    (complete : ∀ column ∈ benefitMapColumns, column ∈ columns) :
    (∃ benefit, BenefitMap.read types (cellsOf columns
        (benefitUpdates.finish (sqlEquals collation.toCollation) columns row)) = some benefit) ↔
      ReadableAfter collation.toCollation True columns row := by
  rw [read_exists_iff]
  rcases finished_cases collation apart columns bound row width with
    ⟨uncoded, stays⟩ | ⟨entry, listed, coded, ticketed⟩
  · have none : ¬ ∃ entry ∈ benefitCodes, HasCode collation.toCollation columns row entry := by
      intro some
      rcases some with ⟨entry, listed, coded⟩
      exact uncoded entry listed coded
    simp [stays, ReadableAfter, none]
  · rw [ticketed_readable columns row _ entry ticketed complete]
    have some : ∃ entry ∈ benefitCodes, HasCode collation.toCollation columns row entry :=
      ⟨entry, listed, coded⟩
    simp [ReadableAfter, some]

theorem getBenefitMapList_exists_iff :
    (∃ benefits, getBenefitMapList types tables = some benefits) ↔
      AnswersAfter collation.toCollation False tables := by
  rw [getBenefitMapList, materialise_exists_iff _ _ _ _ (benefitMap_readsOnly types)]
  simp only [read_exists_iff, AnswersAfter, ReadableAfter, false_and, or_false]

include apart in
theorem deploy_answers :
    (∃ benefits, getBenefitMapList types (deploy collation.toCollation tables .tkt1044) =
      some benefits) ↔ AnswersAfter collation.toCollation True tables := by
  rw [getBenefitMapList, materialise_exists_iff _ _ _ _ (benefitMap_readsOnly types), AnswersAfter]
  cases found : tables benefitMap with
  | none =>
      have missing := deploy_benefitMap_columns collation.toCollation tables .tkt1044
      rw [found, Option.map_none, Option.map_eq_none_iff] at missing
      simp [missing]
  | some before =>
      by_cases complete : ∀ column ∈ benefitMapColumns, column ∈ before.columns
      · have bound := benefitMapColumns_bound before.columns complete
        rw [deploy_tkt1044_bound collation.toCollation tables before found bound,
          Function.update_self]
        have rows : (benefitUpdates.onTable (sqlEquals collation.toCollation) before).rows =
            before.rows.map
              (benefitUpdates.finish (sqlEquals collation.toCollation) before.columns) := rfl
        simp only [Option.some.injEq, exists_eq_left']
        refine and_congr Iff.rfl ?_
        rw [rows, List.forall_mem_map]
        apply forall₂_congr
        intro row member
        exact finished_readable types collation apart before.columns bound row
          (before.rows_width row member) complete
      · have columns := deploy_benefitMap_columns collation.toCollation tables .tkt1044
        rw [found] at columns
        rcases Option.map_eq_some_iff.mp columns with ⟨current, reached, same⟩
        rw [reached]
        simp only [Option.some.injEq, exists_eq_left', same, complete, false_and]

theorem deployAll_bankList_exists_iff :
    (∃ listed, getBankList collation.toCollation
        (deployAll collation.toCollation scripts tables) = some listed) ↔
      ∃ stored, tables banks = some stored ∧
        (∀ column ∈ bankColumnsBefore, column ∈ stored.columns) ∧
        (bankCode ∈ stored.columns ∨ DBScript.addBankCodeColumn ∈ scripts) ∧
        ∀ row ∈ stored.rows, ∀ column ∈ bankMapping,
          Readable column.2 (cellsOf stored.columns row column.1) := by
  cases found : tables banks with
  | none => simp [deployAll_bankList_missing collation.toCollation tables scripts found]
  | some stored =>
      rw [deployAll_bankList collation.toCollation tables scripts stored found]
      simp only [Option.some.injEq, exists_eq_left']
      have readable := ResultSet.loaded_exists_iff
        (fun row => Bank.read (cellsOf stored.columns row)) stored.rows
      simp only [bank_read_exists_iff] at readable
      rw [← readable]
      split
      · rename_i ready
        simp only [Option.map_eq_some_iff, banksOf]
        constructor
        · intro answers
          rcases answers with ⟨_, loaded, read, _⟩
          exact ⟨ready.1, ready.2, loaded, read⟩
        · intro answers
          rcases answers with ⟨_, _, loaded, read⟩
          exact ⟨_, loaded, read, rfl⟩
      · rename_i unready
        simp only [reduceCtorEq, exists_false, false_iff]
        intro answers
        exact unready ⟨answers.1, answers.2.1⟩

/-- When the three endpoints answer after a deployment. The benefit map needs all its columns from
the start, for no script creates one that lasts, and TKT-1044 only makes up for cells it writes;
banks need the column for their codes; and TKT-643 leaves underwriting an empty list. -/
theorem deployAll_serves (apart : CodesApart collation.toCollation) :
    ((∃ benefits, getBenefitMapList types (deployAll collation.toCollation scripts tables) =
        some benefits) ↔
      AnswersAfter collation.toCollation (DBScript.tkt1044 ∈ scripts) tables) ∧
    ((∃ listed, getBankList collation.toCollation
        (deployAll collation.toCollation scripts tables) = some listed) ↔
      ∃ stored, tables banks = some stored ∧
        (∀ column ∈ bankColumnsBefore, column ∈ stored.columns) ∧
        (bankCode ∈ stored.columns ∨ DBScript.addBankCodeColumn ∈ scripts) ∧
        ∀ row ∈ stored.rows, ∀ column ∈ bankMapping,
          Readable column.2 (cellsOf stored.columns row column.1)) ∧
    getUnderwritingRequirementsMapList (deployAll collation.toCollation scripts tables) =
      (if DBScript.tkt643 ∈ scripts then some [] else getUnderwritingRequirementsMapList tables) := by
  refine ⟨?_, deployAll_bankList_exists_iff collation tables scripts,
    deployAll_underwritingRequirementsMap collation.toCollation tables scripts⟩
  rw [deployAll_benefitMap types collation apart tables scripts]
  by_cases member : DBScript.tkt1044 ∈ scripts
  · rw [if_pos member, eq_true member]
    exact deploy_answers types collation apart tables
  · rw [if_neg member, eq_false member]
    exact getBenefitMapList_exists_iff types collation tables

section Mock

def unreadableMock : SqlTable where
  columns := benefitMapColumns
  rows := [overheadRow none none]
  columns_nodup := benefitMapColumns_nodup
  rows_width := by decide

def brokenMock : SqlDatabase :=
  fun name => if name = banks then some banksMock else storing unreadableMock name

example : getBenefitMapList .mapped brokenMock = none := by rfl

theorem deployAll_serves_mock :
    (∃ benefits, getBenefitMapList .mapped (deployAll asciiEquivalence.toCollation
      [.tkt643, .tkt1044, .addBankCodeColumn] brokenMock) = some benefits) ∧
    (∃ listed, getBankList asciiEquivalence.toCollation (deployAll asciiEquivalence.toCollation
      [.tkt643, .tkt1044, .addBankCodeColumn] brokenMock) = some listed) ∧
    getUnderwritingRequirementsMapList (deployAll asciiEquivalence.toCollation
      [.tkt643, .tkt1044, .addBankCodeColumn] brokenMock) = some [] := by
  have serves := deployAll_serves .mapped asciiEquivalence brokenMock
    [.tkt643, .tkt1044, .addBankCodeColumn] codesApart_ascii
  refine ⟨serves.1.mpr ⟨unreadableMock, rfl, by decide, ?_⟩,
    serves.2.1.mpr ⟨banksMock, rfl, by decide, Or.inr (by decide), by decide⟩, serves.2.2⟩
  intro row member column mapped
  rw [List.mem_singleton.mp member]
  have cells : ∀ column ∈ benefitMapMapping,
      Readable column.2 (cellsOf benefitMapColumns (overheadRow none none) column.1) ∨
        column.1 ∈ ticketColumns := by decide
  rcases cells column mapped with readable | written
  · exact Or.inl readable
  · exact Or.inr ⟨by decide, written, ⟨"BOP14", "14", ""⟩, by decide, "BOP14", rfl, by decide⟩

end Mock

end Answers

section Readers

variable (types : BenefitMapTypes) (collation : EquivalenceCollation) (tables : SqlDatabase)
  (scripts : List DBScript)

/-- Whoever reads while scripts are run, given up and run again, in any order, is served: the
banks as they were, and every benefit as it was or as the ticket wants it. -/
theorem deploying_serves (apart : CodesApart collation.toCollation) (tablesAfter : SqlDatabase)
    (attempts : Relation.ReflTransGen
      (Convergence.Attempts (InterruptedScript collation.toCollation) scripts) tables tablesAfter) :
    (∀ listed, getBankList collation.toCollation tables = some listed →
      getBankList collation.toCollation tablesAfter = some listed) ∧
    (∀ benefits, getBenefitMapList types tables = some benefits →
      ∃ served, getBenefitMapList types tablesAfter = some served ∧
        List.Forall₂ (fun benefit later => later = benefit ∨
          later = afterTicket types collation.toCollation benefit) benefits served) := by
  have alone := Convergence.attempts_alone DBScript.table (InterruptedScript collation.toCollation)
    (interruptedScript_confined collation.toCollation) DBScript.table_injective scripts
  constructor
  · intro listed loaded
    rcases Option.map_eq_some_iff.mp loaded with ⟨unsorted, read, _⟩
    rcases materialise_some tables banks bankColumns Bank.read bank_readsOnly unsorted read with
      ⟨stored, found, complete, _⟩
    rcases alone .addBankCodeColumn tables tablesAfter attempts with ⟨reached, run, same⟩
    rw [interrupted_present collation.toCollation tables stored found (complete bankCode (by decide))
      reached run] at same
    rw [getBankList, materialise_congr tables banks bankColumns Bank.read tablesAfter same.symm]
    exact loaded
  · intro benefits loaded
    rcases alone .tkt1044 tables tablesAfter attempts with ⟨reached, run, same⟩
    rcases interrupted_benefits types collation apart tables reached benefits loaded run with
      ⟨served, read, related⟩
    refine ⟨served, ?_, related⟩
    rw [← read]
    exact materialise_congr reached benefitMap benefitMapColumns (BenefitMap.read types) tablesAfter
      same.symm

section Mock

def codedBanksMock : SqlTable where
  columns := bankColumns
  rows := [[some (.int 10), some (.nvarchar "ABSA Bank"), some (.int 3), some (.nvarchar "632005")]]
  columns_nodup := by decide
  rows_width := by decide

def staleMock : SqlTable where
  columns := benefitMapColumns
  rows := [adminRow, overheadRow none (some (.nvarchar "Y"))]
  columns_nodup := benefitMapColumns_nodup
  rows_width := by decide

def servedMock : SqlDatabase :=
  fun name => if name = banks then some codedBanksMock else storing staleMock name

/-- The connection was lost behind the fifth update of TKT-1044. -/
def interruptedMock : SqlDatabase :=
  disconnect (advance (sqlEquals asciiCollation.toCollation) 13
    ⟨tkt1044, Session.connect servedMock⟩).session

theorem interruptedMock_attempt : Convergence.Attempts (InterruptedScript asciiCollation.toCollation)
    [.addBankCodeColumn, .tkt1044] servedMock interruptedMock :=
  ⟨.tkt1044, by decide, interruptedFile_advance _ tkt1044 servedMock 13 (by decide)⟩

example : getBenefitMapList .mapped interruptedMock = some [adminBenefit, overheadBenefit] := by rfl

theorem deploying_serves_mock :
    getBankList asciiEquivalence.toCollation interruptedMock =
      some [⟨10, "ABSA Bank", 3, some "632005"⟩] ∧
    ∃ served, getBenefitMapList .mapped interruptedMock = some served ∧
      List.Forall₂ (fun benefit later => later = benefit ∨
        later = afterTicket .mapped asciiEquivalence.toCollation benefit)
        [adminBenefit, { overheadBenefit with
          quotesIntegrationApi_WaitingPeriod := none
          quotesIntegration_ClaimExtender := "Y" }] served := by
  have serves := deploying_serves .mapped asciiEquivalence servedMock [.addBankCodeColumn, .tkt1044]
    codesApart_ascii interruptedMock (.single interruptedMock_attempt)
  exact ⟨serves.1 _ rfl, serves.2 _ rfl⟩

end Mock

end Readers

end ReferenceData
