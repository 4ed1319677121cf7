import AuctionHouse.Main
import AuctionHouse.Proofs.Agreement
import AuctionHouse.Proofs.Allocation
import AuctionHouse.Proofs.AuctionLife
import AuctionHouse.Proofs.BallotTable
import AuctionHouse.Proofs.Bidders
import AuctionHouse.Proofs.Capacity
import AuctionHouse.Proofs.ClientFaults
import AuctionHouse.Proofs.Correlation
import AuctionHouse.Proofs.Demonstration
import AuctionHouse.Proofs.Disclosure
import AuctionHouse.Proofs.Exchanges
import AuctionHouse.Proofs.FailedStart
import AuctionHouse.Proofs.HighestBid
import AuctionHouse.Proofs.Independence
import AuctionHouse.Proofs.LeftBehind
import AuctionHouse.Proofs.MissedWrites
import AuctionHouse.Proofs.ModerateWeights
import AuctionHouse.Proofs.NoViewMissed
import AuctionHouse.Proofs.OwnAccounts
import AuctionHouse.Proofs.RepairProvenance
import AuctionHouse.Proofs.RepairTargets
import AuctionHouse.Proofs.Retries
import AuctionHouse.Proofs.Sales
import AuctionHouse.Proofs.SeedFiles
import AuctionHouse.Proofs.SessionPrices
import AuctionHouse.Proofs.SingleReplica
import AuctionHouse.Proofs.StateTransfer
import AuctionHouse.Proofs.TableLines
import AuctionHouse.Proofs.VoteOrder
import AuctionHouse.Proofs.Calm
import AuctionHouse.Proofs.Custody
