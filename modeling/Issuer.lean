import Issuer.Lib.Runs
import Issuer.Lib.Store
import Issuer.Lib.ExpiringSet
import Issuer.Lib.Rust
import Issuer.Lib.Json
import Issuer.Lib.Prog
import Issuer.Lib.Except
import Issuer.Lib.Base64
import Issuer.Platform
import Issuer.Identifier
import Issuer.NonceDo
import Issuer.Kek
import Issuer.SigningKey
import Issuer.SigningKeySound
import Issuer.ClientAuth
import Issuer.SandboxCred
import Issuer.SandboxCredSound
import Issuer.NonceDoSound
import Issuer.BlindIssuance
import Issuer.BlindIssuanceSound
import Issuer.NonceDoRefine
import Issuer.ResourceLockDo
import Issuer.ResourceLockDoSound
import Issuer.KeyRotation
import Issuer.KeyRotationSound
import Issuer.KeyRotationRuns
import Issuer.AttestationKey
import Issuer.Jwks
import Issuer.Challenge
import Issuer.ChallengeSound
import Issuer.Limits
import Issuer.Lockout
import Issuer.AuthfailIp
import Issuer.LockSound
import Issuer.LockoutRuns
import Issuer.LockoutSound
import Issuer.FailureSound
import Issuer.JwksSound
import Issuer.Attestation
import Issuer.AttestationSound
import Issuer.AttestationKeySound
import Issuer.KekTool
import Issuer.KekToolSound
import Issuer.Registration
import Issuer.RegistrationSound
import Issuer.KekCoverage
import Issuer.KekResume
import Issuer.KekWindow
import Issuer.KekVerify
import Issuer.LastUsedSound
import Issuer.CliRotation
import Issuer.ConfigStore
import Issuer.ServingSound
import Issuer.ShardedLimit
import Issuer.ShardedLimitSound
import Issuer.ShardedLimitRuns
import Issuer.LockoutLaw
import Issuer.ClearRaceSound
import Issuer.ClearRace
import Issuer.IpHashSalt
import Issuer.CleanUpAlarm
import Issuer.Isolation
import Issuer.RateLimits
import Issuer.AdminAuth
import Issuer.AdminAuthSound
import Issuer.AdminCap
import Issuer.ApiKey
import Issuer.ApiKeySound
import Issuer.BlindBurn
import Issuer.ChallengeRedeem
import Issuer.ChildGuard
import Issuer.KeyDeprecation
import Issuer.OfficerAuth
import Issuer.OfficerAuthSound
import Issuer.RateLimitKeys
import Issuer.ShardedFailClosed
import Issuer.TierCache
import Issuer.TierCacheSound
import Issuer.Cors
import Issuer.CorsSound
import Issuer.KekCache
import Issuer.KekCacheSound
import Issuer.Lib.Percent
import Issuer.PrefixRejection
import Issuer.PrefixRejectionSound
import Issuer.RecordableActors
import Issuer.SchemaUrlSound
import Issuer.Ssrf
import Issuer.SsrfSound
import Issuer.Dispatch
import Issuer.DispatchSound
import Issuer.DispatchTables
import Issuer.GlobalCap
import Issuer.KeyHealth
import Issuer.Lib.Ghost
import Issuer.SecretCache
import Issuer.SecretCacheSound
import Issuer.Lib.Lease
import Issuer.Lib.LeaseOrder
import Issuer.LockedRotation
import Issuer.RotationOrder
import Issuer.AttestationPool
