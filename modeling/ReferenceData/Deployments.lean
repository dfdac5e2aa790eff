import ReferenceData.BenefitMapMigration

namespace ReferenceData

open Sql

def banks : String := "dbo.Banks"
def underwritingRequirementsMap : String := "dbo.UnderwritingRequirementsMap"
def bankCode : String := "BankCode"

def underwritingRequirementsMapColumns : List String :=
  ["Id", "LegacyPkMedicalId", "Description", "LegacyCode", "K2Code", "AURACode",
    "QuoteRequirementCode", "QuoteRequirementName", "Category", "SubCategory", "FilePath",
    "HalfCostsApply", "UWTypes", "DefaultUWType", "SetOops", "IsActive"]

theorem underwritingRequirementsMapColumns_nodup : underwritingRequirementsMapColumns.Nodup := by
  decide

/-- `TKT-643-Recreate-UnderwritingRequirementsMap.sql`. Behind its last GO a comment is opened
twice and never closed. -/
def tkt643 : List SqlBatch :=
  [.dropTableIfExists underwritingRequirementsMap, .setOption "ANSI_NULLS",
    .setOption "QUOTED_IDENTIFIER",
    .createTable underwritingRequirementsMap underwritingRequirementsMapColumns
      underwritingRequirementsMapColumns_nodup,
    .unterminatedComment]

/-- `Add BankCode Column.sql`: `ALTER TABLE dbo.Banks ADD BankCode CHAR(6) NULL`, so that no row
takes the default. -/
def addBankCodeColumn : List SqlBatch :=
  [.statements [.act (.addColumn banks bankCode true (.nvarchar ""))]]

inductive DBScript where
  | addBankCodeColumn
  | tkt1044
  | tkt643
  deriving DecidableEq, Repr

namespace DBScript

def batches : DBScript → List SqlBatch
  | .addBankCodeColumn => ReferenceData.addBankCodeColumn
  | .tkt1044 => tkt1044Batches
  | .tkt643 => ReferenceData.tkt643

def table : DBScript → String
  | .addBankCodeColumn => banks
  | .tkt1044 => benefitMap
  | .tkt643 => underwritingRequirementsMap

theorem table_injective : Function.Injective table := by
  intro first second same
  cases first <;> cases second <;> first | rfl | exact absurd same (by decide)

theorem rolledBack_within : ∀ stmt ∈ rolledBack schemaChanges, Within benefitMap stmt := by
  simp [rolledBack, schemaChanges, createColumns, renameBenefitCode, renameGuarded,
    selectBenefitMap, createWaitingPeriod, createClaimExtender, Stmt.block, Within, Action.Within]

theorem tkt1044_within : ∀ stmt ∈ ReferenceData.tkt1044, Within benefitMap stmt := by
  intro stmt member
  rw [tkt1044_eq] at member
  rcases List.mem_append.mp member with opening | updating
  · exact rolledBack_within stmt opening
  · rcases List.mem_map.mp updating with ⟨update, _, rfl⟩
    rfl

theorem batches_within (script : DBScript) : ∀ batch ∈ script.batches, batch.Within script.table := by
  cases script with
  | addBankCodeColumn =>
      simp [batches, ReferenceData.addBankCodeColumn, table, Batch.Within, Within, Action.Within]
  | tkt1044 => simpa [batches, tkt1044Batches, table, Batch.Within] using tkt1044_within
  | tkt643 => simp [batches, ReferenceData.tkt643, table, Batch.Within]

end DBScript

/-- What one script leaves in the database, whether or not it reports errors. -/
def deploy (collation : Collation) (tables : SqlDatabase) (script : DBScript) : SqlDatabase :=
  (runFile (sqlEquals collation) script.batches tables).1

def deployAll (collation : Collation) (scripts : List DBScript) (tables : SqlDatabase) :
    SqlDatabase :=
  scripts.foldl (deploy collation) tables

section Order

variable (collation : Collation)

theorem deploy_placed : Convergence.Placed DBScript.table (deploy collation) where
  confined script := runFile_confined script.table (sqlEquals collation) script.batches
    script.batches_within
  apart := DBScript.table_injective

/-- In whatever order the scripts are run, they leave the same database. -/
theorem deployAll_perm (left right : List DBScript) (reordered : left.Perm right)
    (tables : SqlDatabase) : deployAll collation left tables = deployAll collation right tables :=
  Convergence.foldl_perm (deploy collation)
    (Convergence.placed_commuting DBScript.table (deploy collation) (deploy_placed collation))
    left right reordered tables

end Order

section Mock

def banksMock : SqlTable where
  columns := ["BankId", "BankName", "DisplayOrder"]
  rows := [[some (.int 10), some (.nvarchar "ABSA Bank"), some (.int 3)]]
  columns_nodup := by decide
  rows_width := by decide

def deploymentMock : SqlDatabase :=
  fun name => if name = banks then some banksMock else storing migratedMock name

theorem deployAll_perm_mock :
    deployAll asciiCollation.toCollation [.tkt643, .tkt1044, .addBankCodeColumn] deploymentMock =
      deployAll asciiCollation.toCollation [.addBankCodeColumn, .tkt643, .tkt1044] deploymentMock :=
  deployAll_perm asciiCollation.toCollation _ _ (by decide) deploymentMock

end Mock

end ReferenceData
