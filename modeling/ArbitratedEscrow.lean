import ArbitratedEscrow.Archive.Text
import ArbitratedEscrow.Main
import ArbitratedEscrow.Session
import ArbitratedEscrow.Terminal.Run
import ArbitratedEscrow.Proofs.Directory
import ArbitratedEscrow.Proofs.Ledger.WellFormed
import ArbitratedEscrow.Proofs.Lifecycle.Standing
import ArbitratedEscrow.Proofs.Operation.Grant
import ArbitratedEscrow.Proofs.Archive.RoundTrip
import ArbitratedEscrow.Proofs.Operation.Move
import ArbitratedEscrow.Proofs.Lifecycle.Sound
import ArbitratedEscrow.Proofs.Office.Atomicity
import ArbitratedEscrow.Proofs.Office.Provenance
import ArbitratedEscrow.Proofs.Office.Outsider
import ArbitratedEscrow.Proofs.Office.Restart
import ArbitratedEscrow.Proofs.Ledger.Made
import ArbitratedEscrow.Proofs.Office.Progress
import ArbitratedEscrow.Proofs.Archive.Record
import ArbitratedEscrow.Proofs.Session.Secrecy
import ArbitratedEscrow.Proofs.Office.Independence
import ArbitratedEscrow.Proofs.Office.Resolution
import ArbitratedEscrow.Proofs.Floor.Split
import ArbitratedEscrow.Proofs.Terminal.Run
import ArbitratedEscrow.Proofs.Lifecycle.Parties
import ArbitratedEscrow.Proofs.Ledger.Listing
import ArbitratedEscrow.Proofs.Lifecycle.Seats
import ArbitratedEscrow.Proofs.Contract.Preimage
import ArbitratedEscrow.Proofs.Json.RoundTrip
import ArbitratedEscrow.Proofs.Office.Names
import ArbitratedEscrow.Proofs.Office.Wording
import ArbitratedEscrow.Proofs.Wallet.Rehearsal
import ArbitratedEscrow.Proofs.Json.Entity
import ArbitratedEscrow.Proofs.Office.Identifiers
import ArbitratedEscrow.Proofs.Terminal.Table
