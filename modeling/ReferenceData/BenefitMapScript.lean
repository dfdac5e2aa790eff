import ReferenceData.Entities
import ReferenceData.Library.Sql.Batch
import ReferenceData.Library.Sql.Evolution
import ReferenceData.Library.Sql.KeyedUpdates

namespace ReferenceData

open Sql

inductive SqlValue where
  | nvarchar (value : String)
  | int (value : Int32)
  | bit (value : Bool)
  | uniqueidentifier (value : Guid)
  deriving DecidableEq

/-- `=` between two cells that are not NULL. -/
def sqlEquals (collation : Collation) : SqlValue → SqlValue → Bool
  | .nvarchar left, .nvarchar right => collation.eq left right
  | .int left, .int right => left == right
  | .bit left, .bit right => left == right
  | .uniqueidentifier left, .uniqueidentifier right => left == right
  | _, _ => false

abbrev SqlDatabase := Database String SqlValue
abbrev SqlTable := Table String SqlValue
abbrev SqlScript := List (Stmt String SqlValue)
abbrev SqlBatch := Batch String SqlValue

def benefitMap : String := "dbo.BenefitMap"

def quotesIntegrationApi_BenefiCode : String := "QuotesIntegrationApi_BenefiCode"
def quotesIntegrationApi_BenefitCode : String := "QuotesIntegrationApi_BenefitCode"
def quotesIntegrationApi_WaitingPeriod : String := "QuotesIntegrationApi_WaitingPeriod"
def quotesIntegration_ClaimExtender : String := "QuotesIntegration_ClaimExtender"
def quoteOrPolicy_BenefitCode : String := "QuoteOrPolicy_BenefitCode"

structure BenefitCode where
  code : String
  waitingPeriod : String
  claimExtender : String
  deriving DecidableEq

def benefitCodes : List BenefitCode :=
  [⟨"CILS", "", "Y"⟩, ⟨"CILSA", "", "Y"⟩, ⟨"CILSAFIP", "", "Y"⟩, ⟨"CILSFIP", "", "Y"⟩,
    ⟨"BOP14", "14", ""⟩, ⟨"BOPFIP14", "14", ""⟩, ⟨"CI14", "14", ""⟩,
    ⟨"TIP14", "14", ""⟩, ⟨"TIPFIP14", "14", ""⟩, ⟨"TIPWOP14", "14", ""⟩,
    ⟨"LIADULTNRA3", "3", ""⟩,
    ⟨"BOP30", "30", ""⟩, ⟨"BOPFIP30", "30", ""⟩, ⟨"CI30", "30", ""⟩,
    ⟨"TIP30", "30", ""⟩, ⟨"TIPFIP30", "30", ""⟩, ⟨"TIPWOP30", "30", ""⟩,
    ⟨"BOP7", "7", ""⟩, ⟨"BOPFIP7", "7", ""⟩, ⟨"CI7", "7", ""⟩,
    ⟨"TIP7", "7", ""⟩, ⟨"TIPFIP7", "7", ""⟩, ⟨"TIPWOP7", "7", ""⟩,
    ⟨"TIP75", "75", ""⟩,
    ⟨"BOP90", "90", ""⟩, ⟨"BOPFIP90", "90", ""⟩, ⟨"CI90", "90", ""⟩,
    ⟨"TIP90", "90", ""⟩, ⟨"TIPFIP90", "90", ""⟩, ⟨"TIPWOP90", "90", ""⟩]

def BenefitCode.update (entry : BenefitCode) : KeyedUpdate String SqlValue where
  key := .nvarchar entry.code
  assignments := [(quotesIntegrationApi_WaitingPeriod, .nvarchar entry.waitingPeriod),
    (quotesIntegration_ClaimExtender, .nvarchar entry.claimExtender)]

def benefitUpdates : UpdatePlan String SqlValue where
  table := benefitMap
  keyColumn := quoteOrPolicy_BenefitCode
  updates := benefitCodes.map BenefitCode.update
  keeps_key update member := by
    rcases List.mem_map.mp member with ⟨entry, _, rfl⟩
    simp [BenefitCode.update, KeyedUpdate.assigned, quoteOrPolicy_BenefitCode,
      quotesIntegrationApi_WaitingPeriod, quotesIntegration_ClaimExtender]
  assigns_once update member := by
    rcases List.mem_map.mp member with ⟨entry, _, rfl⟩
    simp [BenefitCode.update, KeyedUpdate.assigned, quotesIntegrationApi_WaitingPeriod,
      quotesIntegration_ClaimExtender]

/-- The constants all fit the columns they are assigned to, so that none is truncated. -/
theorem benefitCodes_fit : ∀ entry ∈ benefitCodes,
    nvarcharLength entry.waitingPeriod ≤ 2 ∧ nvarcharLength entry.claimExtender ≤ 1 := by decide

def renameBenefitCode : Stmt String SqlValue :=
  renameGuarded benefitMap quotesIntegrationApi_BenefiCode quotesIntegrationApi_BenefitCode
    "Renaming column 'QuotesIntegrationApi_BenefiCode'"

/-- `NVARCHAR(2) NULL DEFAULT('')` -/
def createWaitingPeriod : Stmt String SqlValue :=
  .ifColumn false benefitMap quotesIntegrationApi_WaitingPeriod (.block
    [.act (.print "Creating column 'QuotesIntegrationApi_WaitingPeriod'"),
      .act (.addColumn benefitMap quotesIntegrationApi_WaitingPeriod true (.nvarchar ""))])

/-- `NVARCHAR(1) NOT NULL DEFAULT('')` -/
def createClaimExtender : Stmt String SqlValue :=
  .ifColumn false benefitMap quotesIntegration_ClaimExtender (.block
    [.act (.print "Creating column 'QuotesIntegration_ClaimExtender'"),
      .act (.addColumn benefitMap quotesIntegration_ClaimExtender false (.nvarchar ""))])

def selectBenefitMap : Stmt String SqlValue := .act (.selectAll benefitMap)

def createColumns : SqlScript :=
  [selectBenefitMap, createWaitingPeriod, selectBenefitMap, createClaimExtender, selectBenefitMap]

def schemaChanges : SqlScript := renameBenefitCode :: createColumns

def tkt1044 : SqlScript :=
  [.act .beginTran] ++ schemaChanges ++ [.act .rollbackTran] ++ benefitUpdates.script

/-- `TKT-1044-HTTP-524-Error-on-WFI-ReferenceData.sql`, which has no GO. -/
def tkt1044Batches : List SqlBatch := [.statements tkt1044]

theorem tkt1044_eq : tkt1044 = rolledBack schemaChanges ++ benefitUpdates.script := by
  simp [tkt1044, rolledBack]

end ReferenceData
