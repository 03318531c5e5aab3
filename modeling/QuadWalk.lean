import QuadWalk.Proofs.Anchoring
import QuadWalk.Proofs.Capping
import QuadWalk.Proofs.Places
import QuadWalk.Proofs.Repeats
import QuadWalk.Proofs.Membership
import QuadWalk.Proofs.Acceptance
import QuadWalk.Proofs.Conditions
import QuadWalk.Proofs.Exports
import QuadWalk.Proofs.Faults
import QuadWalk.Proofs.Listed
import QuadWalk.Proofs.Paired
import QuadWalk.Proofs.Meaning
import QuadWalk.Proofs.NaturalOrder
import QuadWalk.Proofs.Protocol
import QuadWalk.Proofs.Scan
import QuadWalk.Proofs.Undoing
import QuadWalk.Query.Prepared
import QuadWalk.Store.Load
import QuadWalk.Value.Literal
import QuadWalk.Proofs.Alike
import QuadWalk.Proofs.Agreement
import QuadWalk.Proofs.OrderFree
import QuadWalk.Proofs.Insertion
import QuadWalk.Proofs.Rebinding
import QuadWalk.Proofs.Closed
import QuadWalk.Proofs.Joins
import QuadWalk.Proofs.Semijoin
import QuadWalk.Proofs.Inlining
import QuadWalk.Proofs.Contents
import QuadWalk.Proofs.TwoOrders
import QuadWalk.Proofs.Commuting
import QuadWalk.Proofs.Growth
import QuadWalk.Proofs.Positive
import QuadWalk.Proofs.Numbering
import QuadWalk.Proofs.Loading
import QuadWalk.Proofs.Rendering
import QuadWalk.Proofs.Finding
import QuadWalk.Proofs.Measuring
import QuadWalk.Proofs.Likeness
import QuadWalk.Proofs.Trails
import QuadWalk.Proofs.FirstSeen
import QuadWalk.Proofs.Breakers
import QuadWalk.Proofs.Unions
import QuadWalk.Proofs.SetAlgebra
import QuadWalk.Proofs.Gathering
import QuadWalk.Proofs.Reserved
import QuadWalk.Proofs.Nesting
import QuadWalk.Proofs.Combinations
import QuadWalk.Proofs.Integers
import QuadWalk.Proofs.Paging
import QuadWalk.Proofs.Views
import QuadWalk.Proofs.Chains
import QuadWalk.Proofs.Overlay
import QuadWalk.Proofs.Identifiers
