import ReferenceData.BenefitMapEntities
import ReferenceData.DeploymentRestart

namespace ReferenceData

open Sql

section Benefits

variable (types : BenefitMapTypes) (collation : EquivalenceCollation)
  (apart : CodesApart collation.toCollation) (tables : SqlDatabase)

include apart

theorem interrupted_benefits (tablesAfter : SqlDatabase) (benefits : List BenefitMap)
    (loaded : getBenefitMapList types tables = some benefits)
    (stops : Relation.ReflTransGen
      (InterruptedScript collation.toCollation .tkt1044) tables tablesAfter) :
    ∃ served, getBenefitMapList types tablesAfter = some served ∧
      List.Forall₂ (fun benefit later => later = benefit ∨
        later = afterTicket types collation.toCollation benefit) benefits served := by
  rcases materialise_some tables benefitMap benefitMapColumns (BenefitMap.read types)
    (benefitMap_readsOnly types) benefits loaded with ⟨before, found, complete, _⟩
  have bound := benefitMapColumns_bound before.columns complete
  rcases interrupted_runs collation tables before apart found tablesAfter stops with
    ⟨⟨current, rfl, halfway⟩, _⟩
  apply materialise_related tables benefitMap benefitMapColumns (BenefitMap.read types)
    (benefitMap_readsOnly types) _ before current found (Function.update_self benefitMap _ _)
    halfway.columns _ halfway.rows _ _ benefits loaded
  intro row later benefit width moved loadedRow
  rcases moved with stays | finished
  · rw [stays]
    exact ⟨benefit, loadedRow, Or.inl rfl⟩
  · rw [finished]
    exact ⟨_, read_finished types collation apart before.columns bound row width complete benefit
      loadedRow, Or.inr rfl⟩

theorem deploy_benefits (benefits : List BenefitMap)
    (loaded : getBenefitMapList types tables = some benefits) :
    getBenefitMapList types (deploy collation.toCollation tables .tkt1044) =
      some (benefits.map (afterTicket types collation.toCollation)) := by
  rcases materialise_some tables benefitMap benefitMapColumns (BenefitMap.read types)
    (benefitMap_readsOnly types) benefits loaded with ⟨before, found, complete, _⟩
  have bound := benefitMapColumns_bound before.columns complete
  let finish := benefitUpdates.finish (sqlEquals collation.toCollation) before.columns
  have reached : deploy collation.toCollation tables .tkt1044 benefitMap =
      some (benefitUpdates.onTable (sqlEquals collation.toCollation) before) := by
    rw [deploy_tkt1044_bound collation.toCollation tables before found bound]
    exact Function.update_self benefitMap _ _
  have rows : List.Forall₂ (fun row later => later = finish row) before.rows
      (benefitUpdates.onTable (sqlEquals collation.toCollation) before).rows :=
    List.forall₂_map_right_iff.mpr (List.forall₂_same.mpr (fun _ _ => rfl))
  rcases materialise_related tables benefitMap benefitMapColumns (BenefitMap.read types)
    (benefitMap_readsOnly types) _ before _ found reached rfl _ rows
    (fun benefit later => later = afterTicket types collation.toCollation benefit)
    (by
      intro row later benefit width moved loadedRow
      rw [moved]
      exact ⟨_, read_finished types collation apart before.columns bound row width complete
        benefit loadedRow, rfl⟩)
    benefits loaded with ⟨served, ran, changed⟩
  have same : served = benefits.map (afterTicket types collation.toCollation) := by
    rw [← List.forall₂_eq_eq_eq, List.forall₂_map_right_iff]
    exact changed.flip
  rw [← same]
  exact ran

theorem deployAll_benefitMap (scripts : List DBScript) :
    getBenefitMapList types (deployAll collation.toCollation scripts tables) =
      if DBScript.tkt1044 ∈ scripts then
        getBenefitMapList types (deploy collation.toCollation tables .tkt1044)
      else getBenefitMapList types tables := by
  have whole := deployAll_at collation.toCollation tables scripts .tkt1044
    (tkt1044_repeatable collation apart)
  rw [DBScript.table] at whole
  split
  · rename_i member
    rw [if_pos member] at whole
    exact materialise_congr _ _ _ _ _ whole
  · rename_i absent
    rw [if_neg absent] at whole
    exact materialise_congr _ _ _ _ _ whole

/-- The endpoint after any deployment: the ticket applied to every benefit if its script was
among those run, and the benefits as they were if it was not. -/
theorem deployAll_benefits (scripts : List DBScript) (benefits : List BenefitMap)
    (loaded : getBenefitMapList types tables = some benefits) :
    getBenefitMapList types (deployAll collation.toCollation scripts tables) =
      some (if DBScript.tkt1044 ∈ scripts then
        benefits.map (afterTicket types collation.toCollation) else benefits) := by
  rw [deployAll_benefitMap types collation apart tables scripts]
  split
  · exact deploy_benefits types collation apart tables benefits loaded
  · exact loaded

end Benefits

section Mock

def adminRow : Row SqlValue :=
  [some (.uniqueidentifier 0x2ece45d5a205ec11b563281878db514c), some (.nvarchar "n/a"),
    some (.nvarchar "n/a"), some (.nvarchar "No"), some (.nvarchar "No"), some (.nvarchar "Charges"),
    some (.nvarchar "Policy Fee"), some (.nvarchar "Fixed Policy Fee"), some (.nvarchar "N"),
    some (.nvarchar "ADMIN"), some (.nvarchar "ADMIN"), some (.nvarchar ""), some (.nvarchar " "),
    some (.nvarchar "n/a")]

def overheadRow (waitingPeriod claimExtender : Option SqlValue) : Row SqlValue :=
  [some (.uniqueidentifier 0x2fce45d5a205ec11b563281878db514c), some (.nvarchar "Base"),
    some (.nvarchar "BOP14"), some (.nvarchar "Yes"), some (.nvarchar "Yes"),
    some (.nvarchar "Income Protection"), some (.nvarchar "Business Overhead Protector"),
    some (.nvarchar "Business Overhead Protector - 14 day waiting period"), some (.nvarchar "N"),
    some (.nvarchar "BOP14"), some (.nvarchar "BOP"), waitingPeriod, claimExtender,
    some (.nvarchar "Cover Amount")]

def benefitsMock : SqlTable where
  columns := benefitMapColumns
  rows := [adminRow, overheadRow (some (.nvarchar "14")) (some (.nvarchar " "))]
  columns_nodup := benefitMapColumns_nodup
  rows_width := by decide

def adminBenefit : BenefitMap :=
  ⟨0x2ece45d5a205ec11b563281878db514c, some "n/a", some "n/a", some "No", some "No",
    some "Charges", some "Policy Fee", some "Fixed Policy Fee", "N", "ADMIN", some "ADMIN", some "",
    " ", some "n/a"⟩

def overheadBenefit : BenefitMap :=
  ⟨0x2fce45d5a205ec11b563281878db514c, some "Base", some "BOP14", some "Yes", some "Yes",
    some "Income Protection", some "Business Overhead Protector",
    some "Business Overhead Protector - 14 day waiting period", "N", "BOP14", some "BOP", some "14",
    " ", some "Cover Amount"⟩

theorem benefitsMock_loaded : getBenefitMapList .mapped (storing benefitsMock) =
    some [adminBenefit, overheadBenefit] := by rfl

example : afterTicket .created asciiCollation.toCollation overheadBenefit =
    { overheadBenefit with quotesIntegration_ClaimExtender := "" } := by decide

/-- What the tests serve is what the ticket leaves as it is, blanks included. -/
theorem deployAll_benefits_mock :
    getBenefitMapList .mapped (deployAll asciiEquivalence.toCollation [.tkt643, .tkt1044]
      (storing benefitsMock)) = some [adminBenefit, overheadBenefit] :=
  deployAll_benefits .mapped asciiEquivalence codesApart_ascii (storing benefitsMock)
    [.tkt643, .tkt1044] _ benefitsMock_loaded

end Mock

end ReferenceData
