import CliStatus.Value
import CliStatus.Unstructured
import CliStatus.FieldAccess
import CliStatus.Condition
import CliStatus.Legacy.Apps
import CliStatus.Legacy.Core
import CliStatus.Legacy.BatchPolicy
import CliStatus.Dispatch
import CliStatus.ApiVersion
import CliStatus.Kinds
import CliStatus.Invariants
import CliStatus.StatusDo
import CliStatus.Permutation
import CliStatus.ResourceConfig
import CliStatus.Reports
import CliStatus.ReadSet
import CliStatus.KeyOrder
import CliStatus.ConditionTypes
import CliStatus.Generations
import CliStatus.EntryFields
