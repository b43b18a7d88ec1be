import StorageGateway.Gateway.Request
import StorageGateway.Listing.Scripted
import StorageGateway.Mount.Table
import StorageGateway.Proofs.Json.Printed
import StorageGateway.Proofs.Account.Failure
import StorageGateway.Proofs.Gateway.Hidden
import StorageGateway.Proofs.Gateway.MovedAccess
import StorageGateway.Proofs.Gateway.Confined
import StorageGateway.Proofs.Gateway.AdminRole
import StorageGateway.Proofs.Listing.Folding
import StorageGateway.Proofs.Listing.Namesakes
import StorageGateway.Proofs.Listing.Replies
import StorageGateway.Proofs.Listing.Punctual
import StorageGateway.Proofs.Listing.SoftFailure
import StorageGateway.Proofs.Release.Visits
import StorageGateway.Proofs.Release.AtOnce
import StorageGateway.Proofs.Account.Names
import StorageGateway.Proofs.Account.Steps
import StorageGateway.Proofs.Account.BuiltIn
import StorageGateway.Proofs.Account.RoleAnswers
import StorageGateway.Proofs.Account.UserAnswers
import StorageGateway.Proofs.Account.AdminKept
import StorageGateway.Proofs.Account.ProtectedRoles
import StorageGateway.Proofs.Account.Bootstrap
import StorageGateway.Proofs.Storage.Changes
import StorageGateway.Proofs.Storage.Rooted
import StorageGateway.Proofs.Mount.LongestPath
import StorageGateway.Proofs.Listing.Merging
import StorageGateway.Proofs.Mount.Implied
import StorageGateway.Proofs.Mount.Mirrored
import StorageGateway.Proofs.Mount.Table
import StorageGateway.Proofs.Gateway.Listings
import StorageGateway.Proofs.Release.InTime
import StorageGateway.Proofs.Mount.Pools
import StorageGateway.Proofs.Gateway.Opening
import StorageGateway.Proofs.Access.PathLimit
import StorageGateway.Proofs.Release.Fetches
import StorageGateway.Proofs.Release.Memo
import StorageGateway.Proofs.Release.Tags
import StorageGateway.Proofs.Release.Again
import StorageGateway.Proofs.Gateway.Downloads
import StorageGateway.Proofs.Gateway.HiddenPaths
import StorageGateway.Proofs.Account.SameAnswers
import StorageGateway.Proofs.Access.ScopesMoved
import StorageGateway.Proofs.Account.Numbers
import StorageGateway.Proofs.Access.Monotone
import StorageGateway.Proofs.Gateway.Refusals
import StorageGateway.Proofs.Account.CleanPaths
import StorageGateway.Proofs.Release.Conservation
import StorageGateway.Proofs.Path.Splicing
import StorageGateway.Proofs.Access.Visible
import StorageGateway.Proofs.Access.Leave
import StorageGateway.Proofs.Account.BasePaths
import StorageGateway.Proofs.Storage.Sizes
import StorageGateway.Proofs.Storage.Renaming
import StorageGateway.Proofs.Release.Repositories
import StorageGateway.Proofs.Account.Persisted
import StorageGateway.Proofs.Meta.Nearest
import StorageGateway.Proofs.Release.Links
import StorageGateway.Proofs.Listing.Bearings
import StorageGateway.Proofs.Path.Ancestry
