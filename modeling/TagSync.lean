import TagSync.Main
import TagSync.Readiness
import TagSync.Rehearsal
import TagSync.Watch
import TagSync.Proofs.Absence
import TagSync.Proofs.Cause
import TagSync.Proofs.Choice
import TagSync.Proofs.Completion
import TagSync.Proofs.Contexts
import TagSync.Proofs.Course
import TagSync.Proofs.Failures
import TagSync.Proofs.FilterEntries
import TagSync.Proofs.Finality
import TagSync.Proofs.FixedPoint
import TagSync.Proofs.Guarded
import TagSync.Proofs.Holding
import TagSync.Proofs.Isolation
import TagSync.Proofs.ListedNames
import TagSync.Proofs.Provided
import TagSync.Proofs.PublicReferences
import TagSync.Proofs.Reading
import TagSync.Proofs.Retry
import TagSync.Proofs.RoundTrip
import TagSync.Proofs.Secrecy
import TagSync.Proofs.SelfImport
import TagSync.Proofs.TagNames
import TagSync.Proofs.Waiting
import TagSync.Proofs.Withdrawals
