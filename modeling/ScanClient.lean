import ScanClient.Main
import ScanClient.Rehearsal
import ScanClient.Proofs.Outcome
import ScanClient.Proofs.Consistency
import ScanClient.Proofs.Schedule
import ScanClient.Proofs.Scan
import ScanClient.Proofs.Transitions
import ScanClient.Proofs.Return
import ScanClient.Proofs.StatusRequest
import ScanClient.Proofs.ExitCode
import ScanClient.Proofs.Progress
import ScanClient.Proofs.JsonOutput
import ScanClient.Proofs.Gregorian
import ScanClient.Proofs.ScanDates
import ScanClient.Proofs.ServiceAddress
import ScanClient.Proofs.ResultRecord
import ScanClient.Proofs.Checking
import ScanClient.Proofs.Grammar
import ScanClient.Proofs.Skipping
import ScanClient.Proofs.Values
import ScanClient.Proofs.Records
import ScanClient.Proofs.Fields
import ScanClient.Proofs.StatusField
import ScanClient.Proofs.ScanIdentifier
import ScanClient.Proofs.Paths
import ScanClient.Proofs.Contents
import ScanClient.Proofs.CompleteResults
import ScanClient.Proofs.Decoding
import ScanClient.Proofs.Extensions
import ScanClient.Proofs.Answers
import ScanClient.Proofs.Trimming
import ScanClient.Proofs.BaseAddresses
import ScanClient.Proofs.UploadRules
import ScanClient.Proofs.Encoding
import ScanClient.Proofs.NumericSettings
import ScanClient.Proofs.PollBudget
import ScanClient.Proofs.Looks
import ScanClient.Proofs.Observations
import ScanClient.Proofs.EventLog
