import FailureAlarm.Alarm.Run
import FailureAlarm.Main
import FailureAlarm.Rehearsal
import FailureAlarm.Service.Session
import FailureAlarm.Proofs.Window
import FailureAlarm.Proofs.Interleaving
import FailureAlarm.Proofs.Threshold
import FailureAlarm.Proofs.Ledger
import FailureAlarm.Proofs.Sensitivity
import FailureAlarm.Proofs.Burst
import FailureAlarm.Proofs.Lifecycle
import FailureAlarm.Proofs.Delivery
import FailureAlarm.Proofs.Polling
import FailureAlarm.Proofs.Separation
import FailureAlarm.Proofs.Poisoning
import FailureAlarm.Proofs.Anonymity
import FailureAlarm.Proofs.Metering
import FailureAlarm.Proofs.Secrecy
import FailureAlarm.Proofs.Posting
import FailureAlarm.Proofs.Answering
import FailureAlarm.Proofs.Refusal
import FailureAlarm.Proofs.Classification
import FailureAlarm.Proofs.Outcome
import FailureAlarm.Proofs.Wire
import FailureAlarm.Proofs.Saving
import FailureAlarm.Proofs.Limits
import FailureAlarm.Proofs.History
import FailureAlarm.Proofs.Recent
import FailureAlarm.Proofs.Clocks
import FailureAlarm.Proofs.Recovery
