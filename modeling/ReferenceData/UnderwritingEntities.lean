import ReferenceData.DeploymentOutcomes
import ReferenceData.EntityMapping
import ReferenceData.Service

namespace ReferenceData

open Sql

def UnderwritingRequirementsMap.read (cell : String → Option SqlValue) :
    Option (UnderwritingRequirementsMap String) := do
  let id ← readGuid (cell "Id")
  let legacyPkMedicalId ← readNullableInt (cell "LegacyPkMedicalId")
  let description ← readRequired (cell "Description")
  let legacyCode ← readRequired (cell "LegacyCode")
  let k2Code ← readRequired (cell "K2Code")
  let auraCode ← readRequired (cell "AURACode")
  let quoteRequirementCode ← readOptional (cell "QuoteRequirementCode")
  let quoteRequirementName ← readOptional (cell "QuoteRequirementName")
  let category ← readOptional (cell "Category")
  let subCategory ← readOptional (cell "SubCategory")
  let filePath ← readRequired (cell "FilePath")
  let halfCostsApply ← readBit (cell "HalfCostsApply")
  let uwTypes ← readRequired (cell "UWTypes")
  let defaultUWType ← readRequired (cell "DefaultUWType")
  let setOops ← readBit (cell "SetOops")
  let isActive ← readBit (cell "IsActive")
  return ⟨id, legacyPkMedicalId, description, legacyCode, k2Code, auraCode, quoteRequirementCode,
    quoteRequirementName, category, subCategory, filePath, halfCostsApply, uwTypes, defaultUWType,
    setOops, isActive⟩

/-- `GetUnderwritingRequirementsMap` over the stored table. -/
def getUnderwritingRequirementsMapList (tables : SqlDatabase) :
    Option (List (UnderwritingRequirementsMap (List String))) :=
  (materialise tables underwritingRequirementsMap underwritingRequirementsMapColumns
      UnderwritingRequirementsMap.read).map
    (fun rows => getUnderwritingRequirementsMap
      { ReferenceDataDbContext.empty with underwritingRequirementsMap := rows })

theorem underwritingRequirementsMap_readsOnly :
    ReadsOnly underwritingRequirementsMapColumns UnderwritingRequirementsMap.read := by
  intro first second same
  simp only [underwritingRequirementsMapColumns, List.forall_mem_cons] at same
  simp only [UnderwritingRequirementsMap.read, same]

theorem getUnderwritingRequirementsMapList_congr (before after : SqlDatabase)
    (same : after underwritingRequirementsMap = before underwritingRequirementsMap) :
    getUnderwritingRequirementsMapList after = getUnderwritingRequirementsMapList before := by
  rw [getUnderwritingRequirementsMapList, getUnderwritingRequirementsMapList,
    materialise_congr before _ _ _ after same]

theorem getUnderwritingRequirementsMapList_emptied (tables : SqlDatabase)
    (emptied : tables underwritingRequirementsMap = some
      (.empty underwritingRequirementsMapColumns underwritingRequirementsMapColumns_nodup)) :
    getUnderwritingRequirementsMapList tables = some [] := by
  rw [getUnderwritingRequirementsMapList, materialise_of _ _ _ _
    underwritingRequirementsMap_readsOnly _ emptied (fun _ member => member)]
  rfl

theorem deployAll_underwritingRequirementsMap (collation : Collation) (tables : SqlDatabase)
    (scripts : List DBScript) :
    getUnderwritingRequirementsMapList (deployAll collation scripts tables) =
      if DBScript.tkt643 ∈ scripts then some [] else getUnderwritingRequirementsMapList tables := by
  have whole := deployAll_at collation tables scripts .tkt643 (tkt643_repeatable collation)
  split
  · rename_i member
    rw [if_pos member, deploy_tkt643] at whole
    exact getUnderwritingRequirementsMapList_emptied _
      (whole.trans (Function.update_self underwritingRequirementsMap _ tables))
  · rename_i absent
    rw [if_neg absent] at whole
    exact getUnderwritingRequirementsMapList_congr tables _ whole

end ReferenceData
