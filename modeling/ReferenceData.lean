import ReferenceData.Library.StableSort
import ReferenceData.Library.Delimited
import ReferenceData.Library.DecimalText
import ReferenceData.Library.HexText
import ReferenceData.Library.ResultSet
import ReferenceData.Library.Convergence
import ReferenceData.Library.Sql.Table
import ReferenceData.Library.Sql.Script
import ReferenceData.Library.Sql.Rules
import ReferenceData.Library.Sql.KeyedUpdates
import ReferenceData.Library.Sql.Evolution
import ReferenceData.Library.Sql.SmallStep
import ReferenceData.Library.Sql.Restart
import ReferenceData.Library.Sql.Frames
import ReferenceData.Library.Sql.Batch
import ReferenceData.Library.Sql.Interruption
import ReferenceData.Library.Sql.Materialise
import ReferenceData.Runtime
import ReferenceData.Entities
import ReferenceData.Service
import ReferenceData.Controllers
import ReferenceData.BankListing
import ReferenceData.BranchItem
import ReferenceData.BankDirectory
import ReferenceData.UWTypesConversion
import ReferenceData.OccupationSearch
import ReferenceData.Listings
import ReferenceData.GuidText
import ReferenceData.GuidCase
import ReferenceData.GuidFormats
import ReferenceData.GuidLetters
import ReferenceData.OccupationRoute
import ReferenceData.BenefitMapScript
import ReferenceData.BenefitMapTarget
import ReferenceData.BenefitMapSchema
import ReferenceData.BenefitMapMigration
import ReferenceData.BenefitMapRestart
import ReferenceData.Deployments
import ReferenceData.DeploymentOutcomes
import ReferenceData.DeploymentRestart
import ReferenceData.EntityMapping
import ReferenceData.BenefitMapEntities
import ReferenceData.DeployedBenefits
import ReferenceData.BankEntities
import ReferenceData.UnderwritingEntities
import ReferenceData.DeployedEndpoints
