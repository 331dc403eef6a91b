import PaymentService.Model
import PaymentService.Lib.Runs
import PaymentService.Lib.Session
import PaymentService.RetryPolicy
import PaymentService.Database
import PaymentService.Services
import PaymentService.Effects
import PaymentService.Reachable
import PaymentService.Lifecycle
import PaymentService.Finality
import PaymentService.Delivery
import PaymentService.PaymentIds
import PaymentService.History
import PaymentService.Ordering
import PaymentService.Lib.Reduction
import PaymentService.Serializability
import PaymentService.Provider
import PaymentService.Workers
import PaymentService.Agreement
import PaymentService.Independence
import PaymentService.Receipts
import PaymentService.Attempts
import PaymentService.Exclusion
import PaymentService.Requests
import PaymentService.Submission
import PaymentService.Backoff
import PaymentService.FirstAttempt
import PaymentService.Recovery
import PaymentService.Lib.Race
import PaymentService.Creation
import PaymentService.RetryMetadata
import PaymentService.Amounts
import PaymentService.Answers
import PaymentService.Redelivery
import PaymentService.Admission
import PaymentService.Lib.Traced
import PaymentService.WorkerLoop
import PaymentService.Api
import PaymentService.Registry
import PaymentService.Service
import PaymentService.Clients
import PaymentService.Callbacks
import PaymentService.Stories
import PaymentService.Backlog
import PaymentService.Accounting
