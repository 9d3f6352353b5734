import LocalSwarm.Connection.Exchange
import LocalSwarm.Connection.Serving
import LocalSwarm.Document.Outcomes
import LocalSwarm.Document.Scripts
import LocalSwarm.Document.Services
import LocalSwarm.Document.Settings
import LocalSwarm.Document.Tables
import LocalSwarm.Main
import LocalSwarm.Proofs.Activities.Blame
import LocalSwarm.Proofs.Activities.Refreshing
import LocalSwarm.Proofs.Activities.Safety
import LocalSwarm.Proofs.Activities.Wording
import LocalSwarm.Proofs.Batches
import LocalSwarm.Proofs.Bootstraps.Course
import LocalSwarm.Proofs.Commands.Grammar
import LocalSwarm.Proofs.Components
import LocalSwarm.Proofs.Connections.Answers
import LocalSwarm.Proofs.Connections.Awaiting
import LocalSwarm.Proofs.Connections.Room
import LocalSwarm.Proofs.Connections.Streams
import LocalSwarm.Proofs.Discovery.Filters
import LocalSwarm.Proofs.Discovery.Interfaces
import LocalSwarm.Proofs.Discovery.Reach
import LocalSwarm.Proofs.Discovery.Windows
import LocalSwarm.Proofs.Downloads.Account
import LocalSwarm.Proofs.Downloads.Chunks
import LocalSwarm.Proofs.Downloads.Conduct
import LocalSwarm.Proofs.Downloads.Content
import LocalSwarm.Proofs.Downloads.Course
import LocalSwarm.Proofs.Downloads.Cuts
import LocalSwarm.Proofs.Downloads.Folders
import LocalSwarm.Proofs.Downloads.Honest
import LocalSwarm.Proofs.Downloads.Interleavings
import LocalSwarm.Proofs.Downloads.Rounds
import LocalSwarm.Proofs.Downloads.Steps
import LocalSwarm.Proofs.Downloads.Tree
import LocalSwarm.Proofs.Downloads.Whole
import LocalSwarm.Proofs.InTurn
import LocalSwarm.Proofs.Lookups.Conduct
import LocalSwarm.Proofs.Lookups.Contacts
import LocalSwarm.Proofs.Lookups.Course
import LocalSwarm.Proofs.Lookups.Knowledge
import LocalSwarm.Proofs.Lookups.Nearest
import LocalSwarm.Proofs.Lookups.Values
import LocalSwarm.Proofs.Observations
import LocalSwarm.Proofs.PartFiles
import LocalSwarm.Proofs.Probes
import LocalSwarm.Proofs.Ranges
import LocalSwarm.Proofs.SharedFiles
import LocalSwarm.Proofs.SharedReads
import LocalSwarm.Proofs.Tables.Ages
import LocalSwarm.Proofs.Tables.Challenges
import LocalSwarm.Proofs.Tables.Closest
import LocalSwarm.Proofs.Tables.Effects
import LocalSwarm.Proofs.Tables.Exchanges
import LocalSwarm.Proofs.Tables.Hearsay
import LocalSwarm.Proofs.Tables.Refreshes
import LocalSwarm.Proofs.Tables.Stories
import LocalSwarm.Proofs.Tables.Turns
import LocalSwarm.Proofs.Transfers
import LocalSwarm.Proofs.Trees
import LocalSwarm.Proofs.Values.History
import LocalSwarm.Proofs.Wire.Messages
import LocalSwarm.Proofs.Wire.Shortening
import LocalSwarm.Proofs.Wire.Sizes
import LocalSwarm.Simulation.Cluster
import LocalSwarm.Snapshot
