import KeyCustody.Binding
import KeyCustody.Buffer
import KeyCustody.Curve.Arith
import KeyCustody.Curve.Der
import KeyCustody.Curve.Ed25519
import KeyCustody.Curve.P256
import KeyCustody.Decimal.Binary
import KeyCustody.Decimal.Shortest
import KeyCustody.Error
import KeyCustody.Facet
import KeyCustody.Facet.Json
import KeyCustody.FunctionKey
import KeyCustody.Hash.Sha256
import KeyCustody.Hash.Sha512
import KeyCustody.Json.Cursor
import KeyCustody.Json.Error
import KeyCustody.Json.Read
import KeyCustody.Json.Scalar
import KeyCustody.Key
import KeyCustody.Memory
import KeyCustody.Pool.Basic
import KeyCustody.Pool.Bitset
import KeyCustody.Pool.Config
import KeyCustody.Pool.Metrics
import KeyCustody.Pool.Slab
import KeyCustody.Proofs.Allocation
import KeyCustody.Proofs.Arena
import KeyCustody.Proofs.Binding
import KeyCustody.Proofs.CapacityTiers
import KeyCustody.Proofs.ContentEquality
import KeyCustody.Proofs.Custody
import KeyCustody.Proofs.Directory
import KeyCustody.Proofs.DirectoryInvariant
import KeyCustody.Proofs.KeyLoading
import KeyCustody.Proofs.KeyIdentification
import KeyCustody.Proofs.Keys
import KeyCustody.Proofs.LeaseIsolation
import KeyCustody.Proofs.Masking
import KeyCustody.Proofs.PoolCalls
import KeyCustody.Proofs.PoolContract
import KeyCustody.Proofs.PoolGrowth
import KeyCustody.Proofs.PoolInvariant
import KeyCustody.Proofs.PoolMetrics
import KeyCustody.Proofs.PoolOperations
import KeyCustody.Proofs.PoolRent
import KeyCustody.Proofs.PoolTrim
import KeyCustody.Proofs.RegistryResolution
import KeyCustody.Proofs.Release
import KeyCustody.Proofs.RentedBits
import KeyCustody.Proofs.SessionCustody
import KeyCustody.Proofs.SessionInvariant
import KeyCustody.Proofs.Signing
import KeyCustody.Proofs.Slab
import KeyCustody.Proofs.SlabRuns
import KeyCustody.Proofs.StandardSchemes
import KeyCustody.Proofs.TagConstruction
import KeyCustody.Proofs.TagEquality
import KeyCustody.Registry
import KeyCustody.Resolution
import KeyCustody.Schemes
import KeyCustody.Session
import KeyCustody.Session.Step
import KeyCustody.Tag
import KeyCustody.Tag.Presets
import KeyCustody.Text.Hex
import KeyCustody.Text.Printable
import KeyCustody.Text.Quoted
