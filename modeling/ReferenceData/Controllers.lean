import ReferenceData.Service

namespace ReferenceData

section Controllers

variable (collation : Collation) (context : ReferenceDataDbContext)

/-- GET bank/branches?bankName= -/
def getBankBranchesListAsync (bankName : Option String) : ActionResult (List BankBranches) :=
  match bankName with
  | none => okOrNotFound (getBankBranches collation context)
  | some name =>
      if isNullOrEmpty (some name) then okOrNotFound (getBankBranches collation context)
      else
        match intTryParse name with
        | some bankId => okOrNotFound (getBankBranchesByBankId collation context bankId)
        | none => okOrNotFound (getBankBranchesByBankName collation context name)

/-- GET bank/{bankIdOrName}/branches?filter=, on the texts the action receives. -/
def filterBankBranchesForBankIdAsync (bankIdOrName : String) (filter : Option String) :
    ActionResult (List BankBranches) :=
  match intTryParse bankIdOrName with
  | some bankId =>
      if isNullOrEmpty filter then okOrNotFound (getBankBranchesByBankId collation context bankId)
      else okOrNotFound (getBankBranchesByBankIdAndFilter collation context bankId filter)
  | none =>
      if isNullOrEmpty filter then
        okOrNotFound (getBankBranchesByBankName collation context bankIdOrName)
      else okOrNotFound (getBankBranchesByBankNameAndFilter collation context bankIdOrName filter)

def getBankBranchAsync (bankBranchId : Int32) : ActionResult BankBranches :=
  okOrNotFound (getBankBranch context bankBranchId)

/-- GET bank/{bankId}/branches/{bankBranchId}: the template has two segments, the action
binds the second. -/
def bankBranchRoute (_bankId : String) (bankBranchId : Int32) : ActionResult BankBranches :=
  getBankBranchAsync context bankBranchId

end Controllers

end ReferenceData
