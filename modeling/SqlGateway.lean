import SqlGateway.Import.Csv
import SqlGateway.Live.Provider
import SqlGateway.Main
import SqlGateway.Proofs.Client.Flags
import SqlGateway.Proofs.Client.Interchange
import SqlGateway.Proofs.Client.Interference
import SqlGateway.Proofs.Client.Passwords
import SqlGateway.Proofs.Client.Requests
import SqlGateway.Proofs.CommandLine.Imports
import SqlGateway.Proofs.CommandLine.Levels
import SqlGateway.Proofs.CommandLine.Outcomes
import SqlGateway.Proofs.CommandLine.Reading
import SqlGateway.Proofs.Http.Words
import SqlGateway.Proofs.Import.Descriptor
import SqlGateway.Proofs.Import.Registry
import SqlGateway.Proofs.Live.History
import SqlGateway.Proofs.Live.Operations
import SqlGateway.Proofs.Query.Envelope
import SqlGateway.Proofs.Query.Recoding
import SqlGateway.Proofs.Query.Words
import SqlGateway.Proofs.Text.Order
import SqlGateway.Proofs.Text.Quoted
