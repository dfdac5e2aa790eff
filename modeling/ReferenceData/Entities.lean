import ReferenceData.Library.ResultSet
import ReferenceData.Runtime

namespace ReferenceData

abbrev Guid := BitVec 128

structure Bank where
  bankId : Int32
  bankName : String
  displayOrder : Int32
  bankCode : Option String
  deriving DecidableEq

structure BankBranches where
  bankBranchId : Int32
  bankId : Int32
  branchName : String
  branchCode : Option String
  deriving DecidableEq

structure Occupation where
  occupationId : Guid
  code : Int32
  description : String
  rating : Int32
  set : Int32
  manualDuties : Option String
  eventClass : Option String
  displayOrder : Int32
  deriving DecidableEq

structure EducationLevel where
  id : Int32
  description : String
  sortOrder : Int32
  displayOrder : Int32
  deriving DecidableEq

structure Industry where
  id : Int32
  description : String
  displayOrder : Int32
  deriving DecidableEq

structure Nationality where
  nationalityId : Int32
  nationalityName : String
  displayOrder : Int32
  deriving DecidableEq

structure InsuranceCompany where
  id : Int32
  name : String
  displayOrder : Int32
  deriving DecidableEq

/-- One row, stored with `UWTypes` as a text and served with it as a list. -/
structure UnderwritingRequirementsMap (UWTypes : Type) where
  id : Guid
  legacyPkMedicalId : Option Int32
  description : String
  legacyCode : String
  k2Code : String
  auraCode : String
  quoteRequirementCode : Option String
  quoteRequirementName : Option String
  category : Option String
  subCategory : Option String
  filePath : String
  halfCostsApply : Bool
  uwTypes : UWTypes
  defaultUWType : String
  setOops : Bool
  isActive : Bool
  deriving DecidableEq

/-- `HasConversion`, from the model to the column. -/
def encodeUWTypes (v : List String) : String := stringJoin ',' v

def decodeUWTypes (v : String) : List String := splitRemoveEmpty ',' v

namespace UnderwritingRequirementsMap

def load (row : UnderwritingRequirementsMap String) : UnderwritingRequirementsMap (List String) :=
  { row with uwTypes := decodeUWTypes row.uwTypes }

def store (entity : UnderwritingRequirementsMap (List String)) : UnderwritingRequirementsMap String :=
  { entity with uwTypes := encodeUWTypes entity.uwTypes }

end UnderwritingRequirementsMap

structure ReferenceDataDbContext where
  occupations : List Occupation
  educationLevels : List EducationLevel
  industry : List Industry
  banks : List Bank
  bankBranches : List BankBranches
  nationalities : List Nationality
  insuranceCompany : List InsuranceCompany
  underwritingRequirementsMap : List (UnderwritingRequirementsMap String)

def ReferenceDataDbContext.empty : ReferenceDataDbContext := ⟨[], [], [], [], [], [], [], []⟩

/-- A context whose two bank tables honour the primary keys of the entity mapping. -/
structure KeyedDbContext extends ReferenceDataDbContext where
  banks_keyed : ResultSet.Keyed Bank.bankId banks
  bankBranches_keyed : ResultSet.Keyed BankBranches.bankBranchId bankBranches

instance : Coe KeyedDbContext ReferenceDataDbContext := ⟨KeyedDbContext.toReferenceDataDbContext⟩

end ReferenceData
