import ReferenceData.DeploymentRestart
import ReferenceData.EntityMapping
import ReferenceData.Service

namespace ReferenceData

open Sql StableSort

section Reading

def bankMappingBefore : List (String × ColumnKind) :=
  [("BankId", .int), ("BankName", .required), ("DisplayOrder", .int)]

def bankMapping : List (String × ColumnKind) := bankMappingBefore ++ [(bankCode, .optional)]

def bankColumnsBefore : List String := bankMappingBefore.map Prod.fst
def bankColumns : List String := bankMapping.map Prod.fst

def Bank.read (cell : String → Option SqlValue) : Option Bank := do
  let bankId ← readInt (cell "BankId")
  let bankName ← readRequired (cell "BankName")
  let displayOrder ← readInt (cell "DisplayOrder")
  let code ← readOptional (cell ReferenceData.bankCode)
  return ⟨bankId, bankName, displayOrder, code⟩

/-- `GetBanks` over the stored table: the service sorts what the query reads. -/
def getBankList (collation : Collation) (tables : SqlDatabase) : Option (List Bank) :=
  (materialise tables banks bankColumns Bank.read).map
    (fun rows => getBanks collation { ReferenceDataDbContext.empty with banks := rows })

theorem bank_readsOnly : ReadsOnly bankColumns Bank.read := by
  intro first second same
  simp only [bankColumns, bankMapping, bankMappingBefore, List.cons_append, List.nil_append,
    List.map_cons, List.forall_mem_cons] at same
  simp only [Bank.read, same]

theorem bank_read_exists_iff (cell : String → Option SqlValue) :
    (∃ bank, Bank.read cell = some bank) ↔
      ∀ column ∈ bankMapping, Readable column.2 (cell column.1) := by
  simp only [bankMapping, bankMappingBefore, List.cons_append, List.nil_append,
    List.forall_mem_cons, List.not_mem_nil, false_implies, implies_true, and_true,
    readable_optional_iff]
  constructor
  · intro loaded
    rcases loaded with ⟨bank, loaded⟩
    rcases Option.bind_eq_some_iff.mp loaded with ⟨id, idRead, loaded⟩
    rcases Option.bind_eq_some_iff.mp loaded with ⟨name, nameRead, loaded⟩
    rcases Option.bind_eq_some_iff.mp loaded with ⟨order, orderRead, loaded⟩
    rcases Option.bind_eq_some_iff.mp loaded with ⟨code, codeRead, _⟩
    exact ⟨⟨id, (readInt_iff _ _).mp idRead⟩, ⟨name, (readRequired_iff _ _).mp nameRead⟩,
      ⟨order, (readInt_iff _ _).mp orderRead⟩, code, codeRead⟩
  · intro readable
    rcases readable with ⟨⟨id, idCell⟩, ⟨name, nameCell⟩, ⟨order, orderCell⟩, code, codeRead⟩
    refine ⟨⟨id, name, order, code⟩, ?_⟩
    rw [Bank.read, (readInt_iff _ _).mpr idCell, (readRequired_iff _ _).mpr nameCell,
      (readInt_iff _ _).mpr orderCell, codeRead]
    rfl

/-- The banks of a table, with no code where it has no column for the codes. -/
def banksOf (stored : SqlTable) : Option (List Bank) :=
  stored.rows.mapM (fun row => Bank.read (cellsOf stored.columns row))

theorem banksOf_added (stored : SqlTable) (fresh : bankCode ∉ stored.columns) :
    banksOf (stored.addColumn bankCode true (.nvarchar "") fresh) = banksOf stored := by
  rw [banksOf, banksOf, Table.addColumn, List.mapM_map]
  apply ResultSet.loaded_congr
  intro row member
  have same := cellsOf_added stored.columns row bankCode (stored.rows_width row member)
  exact congrArg Bank.read same

end Reading

section Deployed

variable (collation : Collation) (tables : SqlDatabase) (scripts : List DBScript)

theorem bankColumns_bound (columns : List String) : (∀ column ∈ bankColumns, column ∈ columns) ↔
    (∀ column ∈ bankColumnsBefore, column ∈ columns) ∧ bankCode ∈ columns := by
  simp [bankColumns, bankMapping, bankColumnsBefore, bankMappingBefore, and_assoc]

theorem bankColumns_added (columns : List String) :
    (∀ column ∈ bankColumns, column ∈ columns ++ [bankCode]) ↔
      ∀ column ∈ bankColumnsBefore, column ∈ columns := by
  simp [bankColumns, bankMapping, bankColumnsBefore, bankMappingBefore, bankCode]

theorem deployAll_banks_stored (stored : SqlTable) (found : tables banks = some stored) :
    ∃ current, deployAll collation scripts tables banks = some current ∧
      (current = stored ∨ ∃ fresh : bankCode ∉ stored.columns,
        current = stored.addColumn bankCode true (.nvarchar "") fresh) ∧
      ((∀ column ∈ bankColumns, column ∈ current.columns) ↔
        (∀ column ∈ bankColumnsBefore, column ∈ stored.columns) ∧
          (bankCode ∈ stored.columns ∨ DBScript.addBankCodeColumn ∈ scripts)) := by
  have whole := deployAll_at collation tables scripts .addBankCodeColumn
    (addBankCodeColumn_repeatable collation)
  rw [DBScript.table] at whole
  rw [whole]
  by_cases member : DBScript.addBankCodeColumn ∈ scripts
  · rw [if_pos member]
    rcases deploy_addBankCodeColumn collation tables with
      ⟨stays, present⟩ | ⟨other, fresh, same, added⟩
    · refine ⟨stored, by rw [stays, found], Or.inl rfl, ?_⟩
      rw [bankColumns_bound]
      simp [present stored found]
    · rw [found] at same
      cases same
      refine ⟨stored.addColumn bankCode true (.nvarchar "") fresh, ?_, Or.inr ⟨fresh, rfl⟩, ?_⟩
      · rw [added]
        exact Function.update_self banks _ tables
      · rw [Table.addColumn, bankColumns_added]
        simp [member]
  · rw [if_neg member]
    refine ⟨stored, found, Or.inl rfl, ?_⟩
    rw [bankColumns_bound]
    simp [member]

theorem deployAll_banks_missing (missing : tables banks = none) :
    deployAll collation scripts tables banks = none := by
  have whole := deployAll_at collation tables scripts .addBankCodeColumn
    (addBankCodeColumn_repeatable collation)
  rw [DBScript.table] at whole
  rw [whole]
  split
  · rcases deploy_addBankCodeColumn collation tables with ⟨stays, _⟩ | ⟨stored, _, found, _⟩
    · rw [stays, missing]
    · rw [missing] at found
      cases found
  · exact missing

/-- The banks endpoint after any deployment: the banks as they were, without codes where they
had none, once the column for the codes is there; and a failing query until then. -/
theorem deployAll_bankList (stored : SqlTable) (found : tables banks = some stored) :
    getBankList collation (deployAll collation scripts tables) =
      if (∀ column ∈ bankColumnsBefore, column ∈ stored.columns) ∧
          (bankCode ∈ stored.columns ∨ DBScript.addBankCodeColumn ∈ scripts) then
        (banksOf stored).map (orderBy (collation.order.comap Bank.bankName))
      else none := by
  rcases deployAll_banks_stored collation tables scripts stored found with
    ⟨current, reached, change, complete⟩
  have same : banksOf current = banksOf stored := by
    rcases change with rfl | ⟨fresh, rfl⟩
    · rfl
    · exact banksOf_added stored fresh
  split
  · rename_i ready
    rw [getBankList, materialise_of _ _ _ _ bank_readsOnly current reached (complete.mpr ready),
      ← same]
    rfl
  · rename_i unready
    rw [getBankList, materialise_none]
    · rfl
    · intro answered
      rcases answered with ⟨other, foundOther, bound⟩
      rw [reached] at foundOther
      cases foundOther
      exact unready (complete.mp bound)

theorem deployAll_bankList_mock :
    getBankList asciiCollation.toCollation (deployAll asciiCollation.toCollation
        [.tkt643, .addBankCodeColumn] deploymentMock) = some [⟨10, "ABSA Bank", 3, none⟩] :=
  deployAll_bankList asciiCollation.toCollation deploymentMock [.tkt643, .addBankCodeColumn]
    banksMock rfl

theorem deployAll_bankList_missing (missing : tables banks = none) :
    getBankList collation (deployAll collation scripts tables) = none := by
  rw [getBankList, materialise_none, Option.map_none]
  intro answered
  rcases answered with ⟨stored, found, _⟩
  rw [deployAll_banks_missing collation tables scripts missing] at found
  cases found

theorem interrupted_present (stored : SqlTable) (found : tables banks = some stored)
    (present : bankCode ∈ stored.columns) (tablesAfter : SqlDatabase)
    (stops : Relation.ReflTransGen (InterruptedScript collation .addBankCodeColumn)
      tables tablesAfter) : tablesAfter = tables := by
  induction stops with
  | refl => rfl
  | tail _ stopped ih =>
      rw [ih] at stopped
      rcases interruptedScript_addBankCodeColumn collation tables _ stopped with stays | added
      · exact stays
      · rw [added, deploy_addBankCodeColumn_present collation tables stored found present]

end Deployed

end ReferenceData
