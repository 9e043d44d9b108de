import LeaseKeeper.Keeper.Rehearsal
import LeaseKeeper.Listeners.Named
import LeaseKeeper.Main
import LeaseKeeper.Proofs.Findings.Lines
import LeaseKeeper.Proofs.Flatten.Reading
import LeaseKeeper.Proofs.Flatten.Recovery
import LeaseKeeper.Proofs.Keeper.Agreement
import LeaseKeeper.Proofs.Keeper.Bystanders
import LeaseKeeper.Proofs.Keeper.Chronicle
import LeaseKeeper.Proofs.Keeper.Contract
import LeaseKeeper.Proofs.Keeper.Custody
import LeaseKeeper.Proofs.Keeper.Eligible
import LeaseKeeper.Proofs.Keeper.Errored
import LeaseKeeper.Proofs.Keeper.Gauge
import LeaseKeeper.Proofs.Keeper.Interleaving
import LeaseKeeper.Proofs.Keeper.Mirrors
import LeaseKeeper.Proofs.Keeper.Restart
import LeaseKeeper.Proofs.Keeper.Rotation
import LeaseKeeper.Proofs.Keeper.Routine
import LeaseKeeper.Proofs.Keeper.Startup
import LeaseKeeper.Proofs.Keeper.Stocked
import LeaseKeeper.Proofs.Keeper.Stopped
import LeaseKeeper.Proofs.Keeper.Withdrawn
import LeaseKeeper.Proofs.Listeners.Delivery
import LeaseKeeper.Proofs.Renewal.Coherence
import LeaseKeeper.Proofs.Renewal.Overlap
import LeaseKeeper.Proofs.Renewal.Residue
import LeaseKeeper.Proofs.Renewal.Retention
import LeaseKeeper.Proofs.Renewal.Staleness
import LeaseKeeper.Proofs.Response.RoundTrip
import LeaseKeeper.Proofs.Session.Cadence
import LeaseKeeper.Proofs.Session.Calendar
import LeaseKeeper.Proofs.Session.Turns
import LeaseKeeper.Proofs.Settings.Blanks
import LeaseKeeper.Renewal.Rehearsal
import LeaseKeeper.Session.Rehearsal
