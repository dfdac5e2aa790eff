import ReferenceData.Entities

namespace ReferenceData

open StableSort ResultSet

def int32Order : TotalPreorder Int32 where
  le a b := decide (a.toInt ≤ b.toInt)
  trans a b c first second := by
    simp only [decide_eq_true_eq] at first second ⊢
    exact Int.le_trans first second
  total a b := by
    simp only [decide_eq_true_eq]
    exact Int.le_total _ _

section Service

variable (collation : Collation) (text : TextInfo) (context : ReferenceDataDbContext)

/-- `Where(o => o.Rating < 6 && o.Event_Class != "E999")` -/
def eligible (o : Occupation) : Bool :=
  decide (o.rating < 6) && !collation.eqNullable o.eventClass "E999"

def getOccupations : List Occupation :=
  orderBy (collation.order.comap Occupation.description)
    (context.occupations.filter (eligible collation))

def getOccupationsFiltered (filter : String) : List Occupation :=
  let lowered := text.toLower filter
  orderBy (collation.order.comap Occupation.description)
    (context.occupations.filter (fun o =>
      collation.contains (text.toLower o.description) lowered
        && decide (o.rating < 6)
        && !collation.eqNullable o.eventClass "E999"))

def getOccupation (id : Guid) : Option Occupation :=
  context.occupations.find? (fun o => o.occupationId == id)

def getEducationLevels : List EducationLevel :=
  orderBy (collation.order.comap EducationLevel.description) context.educationLevels

def getEducationLevel (id : Int32) : Option EducationLevel :=
  context.educationLevels.find? (fun o => o.id == id)

def getIndustries : List Industry :=
  orderBy (collation.order.comap Industry.description) context.industry

def getBanks : List Bank :=
  orderBy (collation.order.comap Bank.bankName) context.banks

def getNationalities : List Nationality :=
  orderBy (int32Order.comap Nationality.displayOrder) context.nationalities

def getInsuranceCompanies : List InsuranceCompany :=
  orderBy (int32Order.comap InsuranceCompany.displayOrder) context.insuranceCompany

def getUnderwritingRequirementsMap : List (UnderwritingRequirementsMap (List String)) :=
  context.underwritingRequirementsMap.map UnderwritingRequirementsMap.load

def sameBranch (a b : BankBranches) : Bool :=
  a.bankBranchId == b.bankBranchId && a.bankId == b.bankId &&
    collation.eq a.branchName b.branchName && collation.sameNullable a.branchCode b.branchCode

/-- `FirstOrDefaultAsync(b => b.BankName == bankName)` -/
def findBank (bankName : String) : Option Bank :=
  context.banks.find? (fun b => collation.eq b.bankName bankName)

def getBankBranchesByBankName (bankName : String) : Option (List BankBranches) :=
  match findBank collation context bankName with
  | none => none
  | some bank => some (distinct (sameBranch collation)
      (context.bankBranches.filter (fun b => b.bankId == bank.bankId)))

def getBankBranchesByBankIdAndFilter (bankId : Int32) (filter : Option String) :
    Option (List BankBranches) :=
  if isNullOrEmpty filter then
    some (context.bankBranches.filter (fun b => b.bankId == bankId))
  else
    some (distinct (sameBranch collation) (context.bankBranches.filter (fun b =>
      b.bankId == bankId && collation.containsParameter b.branchName filter)))

/-- The bank found only decides between null and a list; the query does not name it. -/
def getBankBranchesByBankNameAndFilter (bankName : String) (filter : Option String) :
    Option (List BankBranches) :=
  match findBank collation context bankName with
  | none => none
  | some _ => some (context.bankBranches.filter (fun b =>
      collation.containsParameter b.branchName filter))

def getBankBranch (bankBranchId : Int32) : Option BankBranches :=
  (context.bankBranches.filter (fun b => b.bankBranchId == bankBranchId)).head?

def getBankBranchesByBankId (bankId : Int32) : Option (List BankBranches) :=
  some (distinct (sameBranch collation) (context.bankBranches.filter (fun b => b.bankId == bankId)))

def getBankBranches : Option (List BankBranches) :=
  some (distinct (sameBranch collation) context.bankBranches)

end Service

end ReferenceData
