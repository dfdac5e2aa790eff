import Mathlib.Data.List.Pairwise
import ReferenceData.BenefitMapMigration
import ReferenceData.EntityMapping
import ReferenceData.Library.Sql.Restart

namespace ReferenceData

open Sql

structure BenefitMap where
  id : Guid
  aura_BenefitType : Option String
  aura_ProductCode : Option String
  aura_SendForCurrentDCA : Option String
  aura_SendForOtherFMIPolicies : Option String
  benefitCategory : Option String
  benefitGroup : Option String
  benefitKnownAs : Option String
  comboBenefit : String
  quoteOrPolicy_BenefitCode : String
  quotesIntegrationApi_BenefitCode : Option String
  quotesIntegrationApi_WaitingPeriod : Option String
  quotesIntegration_ClaimExtender : String
  relevantAmountField : Option String
  deriving DecidableEq

/-- The types of the two columns which the mapping has as texts of a fixed length. -/
structure BenefitMapTypes where
  comboBenefit : TextType
  claimExtender : TextType

namespace BenefitMapTypes

/-- `HasMaxLength(1)` and `IsFixedLength(true)` -/
def mapped : BenefitMapTypes := ⟨.fixed 1, .fixed 1⟩

/-- With the second column as the script creates it, `NVARCHAR(1)`. -/
def created : BenefitMapTypes := ⟨.fixed 1, .varying⟩

end BenefitMapTypes

def benefitMapMapping : List (String × ColumnKind) :=
  [("Id", .uniqueidentifier), ("AURA_BenefitType", .optional), ("AURA_ProductCode", .optional),
    ("AURA_SendForCurrentDCA", .optional), ("AURA_SendForOtherFMIPolicies", .optional),
    ("BenefitCategory", .optional), ("BenefitGroup", .optional), ("BenefitKnownAs", .optional),
    ("ComboBenefit", .required), (quoteOrPolicy_BenefitCode, .required),
    (quotesIntegrationApi_BenefitCode, .optional), (quotesIntegrationApi_WaitingPeriod, .optional),
    (quotesIntegration_ClaimExtender, .required), ("RelevantAmountField", .optional)]

def benefitMapColumns : List String := benefitMapMapping.map Prod.fst

theorem benefitMapColumns_nodup : benefitMapColumns.Nodup := by decide

section Reading

variable (types : BenefitMapTypes)

/-- One entity from the cells of one row; where a cell cannot be read the request fails. -/
def BenefitMap.read (cell : String → Option SqlValue) : Option BenefitMap := do
  let id ← readGuid (cell "Id")
  let benefitType ← readOptional (cell "AURA_BenefitType")
  let productCode ← readOptional (cell "AURA_ProductCode")
  let currentDCA ← readOptional (cell "AURA_SendForCurrentDCA")
  let otherPolicies ← readOptional (cell "AURA_SendForOtherFMIPolicies")
  let category ← readOptional (cell "BenefitCategory")
  let group ← readOptional (cell "BenefitGroup")
  let knownAs ← readOptional (cell "BenefitKnownAs")
  let comboBenefit ← readRequired (cell "ComboBenefit")
  let benefitCode ← readRequired (cell ReferenceData.quoteOrPolicy_BenefitCode)
  let apiBenefitCode ← readOptional (cell ReferenceData.quotesIntegrationApi_BenefitCode)
  let waitingPeriod ← readOptional (cell ReferenceData.quotesIntegrationApi_WaitingPeriod)
  let claimExtender ← readRequired (cell ReferenceData.quotesIntegration_ClaimExtender)
  let relevantAmountField ← readOptional (cell "RelevantAmountField")
  return ⟨id, benefitType, productCode, currentDCA, otherPolicies, category, group, knownAs,
    types.comboBenefit.kept comboBenefit, benefitCode, apiBenefitCode, waitingPeriod,
    types.claimExtender.kept claimExtender, relevantAmountField⟩

/-- `_context.BenefitMap.ToListAsync()` -/
def getBenefitMapList (tables : SqlDatabase) : Option (List BenefitMap) :=
  materialise tables benefitMap benefitMapColumns (BenefitMap.read types)

def afterTicket (collation : Collation) (benefit : BenefitMap) : BenefitMap :=
  match benefitCodes.find? (fun entry =>
      collation.eq benefit.quoteOrPolicy_BenefitCode entry.code) with
  | none => benefit
  | some entry =>
      { benefit with
        quotesIntegrationApi_WaitingPeriod := some entry.waitingPeriod
        quotesIntegration_ClaimExtender := types.claimExtender.kept entry.claimExtender }

structure BenefitMap.Reads (cell : String → Option SqlValue) (benefit : BenefitMap) : Prop where
  id : cell "Id" = some (.uniqueidentifier benefit.id)
  benefitType : cell "AURA_BenefitType" = benefit.aura_BenefitType.map .nvarchar
  productCode : cell "AURA_ProductCode" = benefit.aura_ProductCode.map .nvarchar
  currentDCA : cell "AURA_SendForCurrentDCA" = benefit.aura_SendForCurrentDCA.map .nvarchar
  otherPolicies : cell "AURA_SendForOtherFMIPolicies" =
    benefit.aura_SendForOtherFMIPolicies.map .nvarchar
  category : cell "BenefitCategory" = benefit.benefitCategory.map .nvarchar
  group : cell "BenefitGroup" = benefit.benefitGroup.map .nvarchar
  knownAs : cell "BenefitKnownAs" = benefit.benefitKnownAs.map .nvarchar
  comboBenefit : ∃ text, cell "ComboBenefit" = some (.nvarchar text) ∧
    types.comboBenefit.kept text = benefit.comboBenefit
  benefitCode : cell ReferenceData.quoteOrPolicy_BenefitCode =
    some (.nvarchar benefit.quoteOrPolicy_BenefitCode)
  apiBenefitCode : cell ReferenceData.quotesIntegrationApi_BenefitCode =
    benefit.quotesIntegrationApi_BenefitCode.map .nvarchar
  waitingPeriod : cell ReferenceData.quotesIntegrationApi_WaitingPeriod =
    benefit.quotesIntegrationApi_WaitingPeriod.map .nvarchar
  claimExtender : ∃ text, cell ReferenceData.quotesIntegration_ClaimExtender =
      some (.nvarchar text) ∧
    types.claimExtender.kept text = benefit.quotesIntegration_ClaimExtender
  relevantAmountField : cell "RelevantAmountField" = benefit.relevantAmountField.map .nvarchar

theorem read_iff (cell : String → Option SqlValue) (benefit : BenefitMap) :
    BenefitMap.read types cell = some benefit ↔ BenefitMap.Reads types cell benefit := by
  constructor
  · intro loaded
    rcases Option.bind_eq_some_iff.mp loaded with ⟨id, idRead, loaded⟩
    rcases Option.bind_eq_some_iff.mp loaded with ⟨benefitType, typeRead, loaded⟩
    rcases Option.bind_eq_some_iff.mp loaded with ⟨productCode, productRead, loaded⟩
    rcases Option.bind_eq_some_iff.mp loaded with ⟨currentDCA, currentRead, loaded⟩
    rcases Option.bind_eq_some_iff.mp loaded with ⟨otherPolicies, otherRead, loaded⟩
    rcases Option.bind_eq_some_iff.mp loaded with ⟨category, categoryRead, loaded⟩
    rcases Option.bind_eq_some_iff.mp loaded with ⟨group, groupRead, loaded⟩
    rcases Option.bind_eq_some_iff.mp loaded with ⟨knownAs, knownRead, loaded⟩
    rcases Option.bind_eq_some_iff.mp loaded with ⟨combo, comboRead, loaded⟩
    rcases Option.bind_eq_some_iff.mp loaded with ⟨code, codeRead, loaded⟩
    rcases Option.bind_eq_some_iff.mp loaded with ⟨apiCode, apiRead, loaded⟩
    rcases Option.bind_eq_some_iff.mp loaded with ⟨waiting, waitingRead, loaded⟩
    rcases Option.bind_eq_some_iff.mp loaded with ⟨extender, extenderRead, loaded⟩
    rcases Option.bind_eq_some_iff.mp loaded with ⟨amount, amountRead, loaded⟩
    cases loaded
    simp only [readGuid_iff, readRequired_iff, readOptional_iff] at *
    exact ⟨idRead, typeRead, productRead, currentRead, otherRead, categoryRead, groupRead, knownRead,
      ⟨combo, comboRead, rfl⟩, codeRead, apiRead, waitingRead, ⟨extender, extenderRead, rfl⟩,
      amountRead⟩
  · intro reads
    rcases reads.comboBenefit with ⟨combo, comboRead, comboKept⟩
    rcases reads.claimExtender with ⟨extender, extenderRead, extenderKept⟩
    rw [BenefitMap.read, (readGuid_iff _ _).mpr reads.id, (readOptional_iff _ _).mpr reads.benefitType,
      (readOptional_iff _ _).mpr reads.productCode, (readOptional_iff _ _).mpr reads.currentDCA,
      (readOptional_iff _ _).mpr reads.otherPolicies, (readOptional_iff _ _).mpr reads.category,
      (readOptional_iff _ _).mpr reads.group, (readOptional_iff _ _).mpr reads.knownAs,
      (readRequired_iff _ _).mpr comboRead, (readRequired_iff _ _).mpr reads.benefitCode,
      (readOptional_iff _ _).mpr reads.apiBenefitCode, (readOptional_iff _ _).mpr reads.waitingPeriod,
      (readRequired_iff _ _).mpr extenderRead, (readOptional_iff _ _).mpr reads.relevantAmountField]
    simp [comboKept, extenderKept]

theorem read_exists_iff (cell : String → Option SqlValue) :
    (∃ benefit, BenefitMap.read types cell = some benefit) ↔
      ∀ column ∈ benefitMapMapping, Readable column.2 (cell column.1) := by
  simp only [benefitMapMapping, List.forall_mem_cons, List.not_mem_nil, false_implies, implies_true,
    and_true, readable_optional_iff, readOptional_iff]
  constructor
  · intro loaded
    rcases loaded with ⟨benefit, read⟩
    have reads := (read_iff types cell benefit).mp read
    rcases reads.comboBenefit with ⟨combo, comboRead, _⟩
    rcases reads.claimExtender with ⟨extender, extenderRead, _⟩
    exact ⟨⟨_, reads.id⟩, ⟨_, reads.benefitType⟩, ⟨_, reads.productCode⟩, ⟨_, reads.currentDCA⟩,
      ⟨_, reads.otherPolicies⟩, ⟨_, reads.category⟩, ⟨_, reads.group⟩, ⟨_, reads.knownAs⟩,
      ⟨_, comboRead⟩, ⟨_, reads.benefitCode⟩, ⟨_, reads.apiBenefitCode⟩, ⟨_, reads.waitingPeriod⟩,
      ⟨_, extenderRead⟩, ⟨_, reads.relevantAmountField⟩⟩
  · intro readable
    rcases readable with ⟨⟨id, idRead⟩, ⟨benefitType, typeRead⟩, ⟨productCode, productRead⟩,
      ⟨currentDCA, currentRead⟩, ⟨otherPolicies, otherRead⟩, ⟨category, categoryRead⟩,
      ⟨group, groupRead⟩, ⟨knownAs, knownRead⟩, ⟨combo, comboRead⟩, ⟨code, codeRead⟩,
      ⟨apiCode, apiRead⟩, ⟨waiting, waitingRead⟩, ⟨extender, extenderRead⟩, ⟨amount, amountRead⟩⟩
    refine ⟨⟨id, benefitType, productCode, currentDCA, otherPolicies, category, group, knownAs,
      types.comboBenefit.kept combo, code, apiCode, waiting, types.claimExtender.kept extender,
      amount⟩, (read_iff types cell _).mpr ?_⟩
    exact ⟨idRead, typeRead, productRead, currentRead, otherRead, categoryRead, groupRead, knownRead,
      ⟨combo, comboRead, rfl⟩, codeRead, apiRead, waitingRead, ⟨extender, extenderRead, rfl⟩,
      amountRead⟩

theorem benefitMap_readsOnly : ReadsOnly benefitMapColumns (BenefitMap.read types) := by
  intro first second same
  simp only [benefitMapColumns, benefitMapMapping, List.map_cons, List.forall_mem_cons] at same
  simp only [BenefitMap.read, same]

theorem benefitMapColumns_bound (columns : List String)
    (complete : ∀ column ∈ benefitMapColumns, column ∈ columns) : benefitUpdates.Bound columns := by
  have mapped : ∀ column ∈ updateColumns, column ∈ benefitMapColumns := by decide
  exact (updateColumns_bound columns).mpr (fun column named => complete column (mapped column named))

end Reading

section Rows

/-- The columns of a listed code with its two values written, and no other change. -/
structure Ticketed (columns : List String) (row later : Row SqlValue) (entry : BenefitCode) :
    Prop where
  waitingPeriod : cellsOf columns later quotesIntegrationApi_WaitingPeriod =
    some (.nvarchar entry.waitingPeriod)
  claimExtender : cellsOf columns later quotesIntegration_ClaimExtender =
    some (.nvarchar entry.claimExtender)
  others : ∀ column ∈ columns,
    column ∉ [quotesIntegrationApi_WaitingPeriod, quotesIntegration_ClaimExtender] →
    cellsOf columns later column = cellsOf columns row column

variable (collation : EquivalenceCollation) (apart : CodesApart collation.toCollation)
  (columns : List String) (bound : benefitUpdates.Bound columns) (row : Row SqlValue)
  (width : row.length = columns.length)

include bound width in
theorem assigned_ticketed (entry : BenefitCode) (listed : entry ∈ benefitCodes) :
    Ticketed columns row (assign columns entry.update.assignments row) entry := by
  have member : entry.update ∈ benefitUpdates.updates := List.mem_map_of_mem listed
  have assigned := cellAt_assign_self columns entry.update.assignments row width
    (benefitUpdates.assigns_once entry.update member)
    (fun assignment inside => bound.2 entry.update member _ (List.mem_map_of_mem inside))
  constructor
  · have waits := assigned (quotesIntegrationApi_WaitingPeriod, .nvarchar entry.waitingPeriod)
      (by simp [BenefitCode.update])
    rw [cellsOf, waits]
    rfl
  · have extending := assigned (quotesIntegration_ClaimExtender, .nvarchar entry.claimExtender)
      (by simp [BenefitCode.update])
    rw [cellsOf, extending]
    rfl
  · intro column present other
    rw [cellsOf, cellsOf, cellAt_assign_other columns entry.update.assignments row column present
      other]

include apart bound width in
theorem finished_cases :
    ((∀ entry ∈ benefitCodes, ¬ HasCode collation.toCollation columns row entry) ∧
      benefitUpdates.finish (sqlEquals collation.toCollation) columns row = row) ∨
    ∃ entry ∈ benefitCodes, HasCode collation.toCollation columns row entry ∧
      Ticketed columns row
        (benefitUpdates.finish (sqlEquals collation.toCollation) columns row) entry := by
  rcases UpdatePlan.runOn_cases (sqlEquals collation.toCollation) columns quoteOrPolicy_BenefitCode
      benefitUpdates.updates row bound.1 benefitUpdates.keeps_key
      (benefitUpdates_apart collation apart) with
    ⟨unselected, stays⟩ | ⟨update, member, selected, written⟩
  · refine Or.inl ⟨?_, stays⟩
    intro entry listed coded
    have missed := unselected entry.update (List.mem_map_of_mem listed)
    rw [(selects_code_iff collation.toCollation columns row entry).mpr coded] at missed
    cases missed
  · rcases List.mem_map.mp member with ⟨entry, listed, rfl⟩
    refine Or.inr ⟨entry, listed,
      (selects_code_iff collation.toCollation columns row entry).mp selected, ?_⟩
    have ticketed := assigned_ticketed columns bound row width entry listed
    rw [← written] at ticketed
    exact ticketed

include apart in
theorem find_code (text : String) (entry : BenefitCode) (listed : entry ∈ benefitCodes)
    (coded : collation.eq text entry.code = true) :
    benefitCodes.find? (fun other => collation.eq text other.code) = some entry := by
  cases found : benefitCodes.find? (fun other => collation.eq text other.code) with
  | none =>
      have missed := List.find?_eq_none.mp found entry listed
      exact absurd coded missed
  | some other =>
      have otherCoded : collation.eq text other.code = true := by
        simpa using List.find?_some found
      have same : collation.eq other.code entry.code = true :=
        collation.eq_trans _ _ _ (collation.eq_symm _ _ otherCoded) coded
      have symm : Std.Symm (fun first second : BenefitCode =>
          collation.eq first.code second.code = false) := by
        constructor
        intro first second differ
        by_contra equal
        rw [Bool.not_eq_false] at equal
        rw [collation.eq_symm _ _ equal] at differ
        cases differ
      by_contra different
      have distinct : other ≠ entry := fun equal => different (congrArg some equal)
      have differ := List.Pairwise.forall apart (List.mem_of_find?_eq_some found) listed distinct
      rw [same] at differ
      cases differ

end Rows

section Tickets

variable (types : BenefitMapTypes) (collation : EquivalenceCollation)

theorem hasCode_read (columns : List String) (row : Row SqlValue) (benefit : BenefitMap)
    (reads : BenefitMap.Reads types (cellsOf columns row) benefit) (entry : BenefitCode) :
    HasCode collation.toCollation columns row entry ↔
      collation.eq benefit.quoteOrPolicy_BenefitCode entry.code = true := by
  have stored : cellAt columns row quoteOrPolicy_BenefitCode =
      some (some (.nvarchar benefit.quoteOrPolicy_BenefitCode)) :=
    Option.join_eq_some_iff.mp reads.benefitCode
  rw [HasCode, stored]
  simp

theorem read_ticketed (columns : List String) (row later : Row SqlValue) (entry : BenefitCode)
    (ticketed : Ticketed columns row later entry)
    (complete : ∀ column ∈ benefitMapColumns, column ∈ columns) (benefit : BenefitMap)
    (reads : BenefitMap.Reads types (cellsOf columns row) benefit) :
    BenefitMap.Reads types (cellsOf columns later)
      { benefit with
        quotesIntegrationApi_WaitingPeriod := some entry.waitingPeriod
        quotesIntegration_ClaimExtender := types.claimExtender.kept entry.claimExtender } := by
  have kept : ∀ column ∈ benefitMapColumns,
      column ∉ [quotesIntegrationApi_WaitingPeriod, quotesIntegration_ClaimExtender] →
      cellsOf columns later column = cellsOf columns row column :=
    fun column mapped other => ticketed.others column (complete column mapped) other
  exact {
    id := by rw [kept _ (by decide) (by decide), reads.id]
    benefitType := by rw [kept _ (by decide) (by decide), reads.benefitType]
    productCode := by rw [kept _ (by decide) (by decide), reads.productCode]
    currentDCA := by rw [kept _ (by decide) (by decide), reads.currentDCA]
    otherPolicies := by rw [kept _ (by decide) (by decide), reads.otherPolicies]
    category := by rw [kept _ (by decide) (by decide), reads.category]
    group := by rw [kept _ (by decide) (by decide), reads.group]
    knownAs := by rw [kept _ (by decide) (by decide), reads.knownAs]
    comboBenefit := by rw [kept _ (by decide) (by decide)]; exact reads.comboBenefit
    benefitCode := by rw [kept _ (by decide) (by decide), reads.benefitCode]
    apiBenefitCode := by rw [kept _ (by decide) (by decide), reads.apiBenefitCode]
    waitingPeriod := ticketed.waitingPeriod
    claimExtender := ⟨entry.claimExtender, ticketed.claimExtender, rfl⟩
    relevantAmountField := by rw [kept _ (by decide) (by decide), reads.relevantAmountField] }

theorem read_finished (apart : CodesApart collation.toCollation) (columns : List String)
    (bound : benefitUpdates.Bound columns) (row : Row SqlValue)
    (width : row.length = columns.length)
    (complete : ∀ column ∈ benefitMapColumns, column ∈ columns) (benefit : BenefitMap)
    (loaded : BenefitMap.read types (cellsOf columns row) = some benefit) :
    BenefitMap.read types (cellsOf columns
        (benefitUpdates.finish (sqlEquals collation.toCollation) columns row)) =
      some (afterTicket types collation.toCollation benefit) := by
  have reads := (read_iff types _ benefit).mp loaded
  have coded := hasCode_read types collation columns row benefit reads
  rcases finished_cases collation apart columns bound row width with
    ⟨uncoded, stays⟩ | ⟨entry, listed, hasCode, ticketed⟩
  · have unlisted : benefitCodes.find? (fun entry =>
        collation.eq benefit.quoteOrPolicy_BenefitCode entry.code) = none := by
      apply List.find?_eq_none.mpr
      intro entry listed same
      exact uncoded entry listed ((coded entry).mpr same)
    rw [afterTicket, unlisted, stays]
    exact loaded
  · rw [afterTicket, find_code collation apart _ entry listed ((coded entry).mp hasCode)]
    exact (read_iff types _ _).mpr
      (read_ticketed types columns row _ entry ticketed complete benefit reads)

end Tickets

end ReferenceData
