import Rendezvous.Family
import Rendezvous.Guard
import Rendezvous.Unicode.CodePoints
import Rendezvous.Unicode.GeneralCategory
import Rendezvous.Unicode.Script
import Rendezvous.Unicode.Property
import Rendezvous.Unicode.CaseFold
import Rendezvous.Unicode.UpperCase
import Rendezvous.Unicode.Printable
import Rendezvous.Error
import Rendezvous.Capability.Resolver
import Rendezvous.Environment
import Rendezvous.Session
import Rendezvous.Rehearsal
import Rendezvous.Launch.Awaited
import Rendezvous.Exchange
import Rendezvous.Config.Overlay
import Rendezvous.Local.Locations
import Rendezvous.Local.Machine
import Rendezvous.Text.Blank
import Rendezvous.Matcher
import Rendezvous.Report.Coverage
import Rendezvous.Report.MockList
import Rendezvous.Shell.Delegation
import Rendezvous.Local.Process
import Rendezvous.CommandLine.Run
import Rendezvous.Main
import Rendezvous.Proofs.Interleaving
import Rendezvous.Proofs.InterleavingCourse
import Rendezvous.Proofs.InterleavingOwnership
import Rendezvous.Proofs.InterleavingSafety
import Rendezvous.Proofs.LaunchDecoupling
import Rendezvous.Proofs.Reentry
import Rendezvous.Proofs.RegistrationHistory
import Rendezvous.Proofs.Resolution
import Rendezvous.Proofs.SetupDecision
import Rendezvous.Proofs.SetupRetry
import Rendezvous.Proofs.NestedSetups
import Rendezvous.Proofs.LaunchLedger
import Rendezvous.Proofs.TokenIdentity
import Rendezvous.Proofs.CoverageChunks
import Rendezvous.Proofs.JsonLine
import Rendezvous.Proofs.CoverageStream
import Rendezvous.Proofs.FamilyTraces
import Rendezvous.Proofs.FamilyAlone
import Rendezvous.Proofs.FamilySeparation
import Rendezvous.Proofs.CapabilityTree
import Rendezvous.Proofs.StandardOutput
import Rendezvous.Proofs.LocalBootstrap
import Rendezvous.Proofs.InsertionOrder
import Rendezvous.Proofs.LaunchPaths
import Rendezvous.Proofs.JsonSkipping
import Rendezvous.Proofs.MockSources
import Rendezvous.Proofs.ConfigOverlay
import Rendezvous.Proofs.RefusedWrite
import Rendezvous.Proofs.Utf8Decoding
import Rendezvous.Proofs.JsonIgnored
import Rendezvous.Proofs.ParameterOverride
import Rendezvous.Proofs.CommandWords
import Rendezvous.Proofs.RecordRoundTrip
import Rendezvous.Proofs.CommandReading
import Rendezvous.Proofs.GuardLanguage
import Rendezvous.Proofs.StubNames
import Rendezvous.Proofs.CoverageWords
import Rendezvous.Proofs.OutputMerged
