import ClusterWatch.Runs
import ClusterWatch.Listener.Bulletin
import ClusterWatch.Main
import ClusterWatch.Membership.FreshId
import ClusterWatch.Net.SocketAddress.Reader
import ClusterWatch.Rehearsal.Detection
import ClusterWatch.Rehearsal.Exchange
import ClusterWatch.Rehearsal.Readiness
import ClusterWatch.Responder
import ClusterWatch.Settings.Basic
import ClusterWatch.Settings.Document
import ClusterWatch.Transport.Endpoint
import ClusterWatch.Proofs.Detector.Past
import ClusterWatch.Proofs.Detector.Turn
import ClusterWatch.Proofs.Detector.Reach
import ClusterWatch.Proofs.Detector.Enrolment
import ClusterWatch.Proofs.Detector.Attempts
import ClusterWatch.Proofs.Detector.Burst
import ClusterWatch.Proofs.Detector.SingleFlight
import ClusterWatch.Proofs.Detector.Following
import ClusterWatch.Proofs.Detector.Reports
import ClusterWatch.Proofs.Detector.RetryBudget
import ClusterWatch.Proofs.Detector.Fate
import ClusterWatch.Proofs.Detector.Coverage
import ClusterWatch.Proofs.Detector.Supersession
import ClusterWatch.Proofs.Detector.Pace
import ClusterWatch.Proofs.Detector.Persistence
import ClusterWatch.Proofs.Detector.Lifetime
import ClusterWatch.Proofs.Detector.Attendance
import ClusterWatch.Proofs.Detector.Overtaking
import ClusterWatch.Proofs.Detector.Listening
import ClusterWatch.Proofs.Detector.Facet
import ClusterWatch.Proofs.Detector.Projection
import ClusterWatch.Proofs.Detector.Gates
import ClusterWatch.Proofs.Detector.FacetWork
import ClusterWatch.Proofs.Detector.FacetActions
import ClusterWatch.Proofs.Detector.Isolation
import ClusterWatch.Proofs.Detector.Submission
import ClusterWatch.Proofs.Detector.Tidings
import ClusterWatch.Proofs.Detector.OneTurn
import ClusterWatch.Proofs.Detector.News
import ClusterWatch.Proofs.Detector.Punctuality
import ClusterWatch.Proofs.Detector.Reconciling
import ClusterWatch.Proofs.Detector.Sending
import ClusterWatch.Proofs.Detector.Addresses
import ClusterWatch.Proofs.Detector.FirstMembership
import ClusterWatch.Proofs.Detector.Phases
import ClusterWatch.Proofs.Detector.Gatekeeping
import ClusterWatch.Proofs.Readiness.Outcome
import ClusterWatch.Proofs.Readiness.Progress
import ClusterWatch.Proofs.Readiness.Attainable
import ClusterWatch.Proofs.Text.Numerals
import ClusterWatch.Proofs.Text.Margins
import ClusterWatch.Proofs.Text.Durations
import ClusterWatch.Proofs.Readiness.Spelling
import ClusterWatch.Proofs.Cluster.Publishing
import ClusterWatch.Proofs.Cluster.Subscribing
import ClusterWatch.Proofs.Cluster.Issuing
import ClusterWatch.Proofs.Cluster.Watching
import ClusterWatch.Proofs.Wire.Faithful
import ClusterWatch.Proofs.Transport.Correlation
import ClusterWatch.Proofs.Transport.Crossing
import ClusterWatch.Proofs.Transport.Responding
import ClusterWatch.Proofs.Listener.Delivery
import ClusterWatch.Proofs.Task.Waking
import ClusterWatch.Proofs.Task.Naming
import ClusterWatch.Proofs.CommandLine.Understanding
import ClusterWatch.Proofs.CommandLine.Membership
import ClusterWatch.Proofs.Settings.Documents
