import PaymentPlatform.Audit.Journal
import PaymentPlatform.Audit.Merkle
import PaymentPlatform.Auditexport.Worker
import PaymentPlatform.Authz
import PaymentPlatform.Escrow.Agreement
import PaymentPlatform.Escrow.EffectRetries
import PaymentPlatform.Fx.Rounding
import PaymentPlatform.Fx.Runs
import PaymentPlatform.Idgen.Uniqueness
import PaymentPlatform.Messaging.Delivery
import PaymentPlatform.Messaging.Hashes
import PaymentPlatform.Messaging.Records
import PaymentPlatform.Migrator.Order
import PaymentPlatform.Offline.Recovery
import PaymentPlatform.Payment.Counters
import PaymentPlatform.Payment.Schedule
import PaymentPlatform.Pii.Recovery
import PaymentPlatform.Pii.Retention
import PaymentPlatform.Provisioning.References
import PaymentPlatform.Rails.Reports
import PaymentPlatform.Reads.Callbacks
import PaymentPlatform.Reconciliation.Checker
import PaymentPlatform.Saga.Absorption
import PaymentPlatform.Saga.Outputs
import PaymentPlatform.Saga.Ticks
import PaymentPlatform.Schemamigration.Statements
import PaymentPlatform.Signatures
