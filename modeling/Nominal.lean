import Nominal.Collection.LinkedMap
import Nominal.Graph.Overloads
import Nominal.Main
import Nominal.Proofs.Guarantees
import Nominal.Yaml.Printer
import Nominal.Proofs.Bootstrapped
import Nominal.Proofs.MirroredChecks
import Nominal.Proofs.MirroredTypes
import Nominal.Proofs.Sessions
import Nominal.Proofs.Refusals
import Nominal.Proofs.HiddenMembers
import Nominal.Proofs.UserFaults
import Nominal.Proofs.FailedLoads
import Nominal.Proofs.Reordering
import Nominal.Proofs.CompletionRuns
import Nominal.Proofs.ReorderedWork
import Nominal.Proofs.NamedSupertypes
import Nominal.Proofs.ReorderedLoads
import Nominal.Proofs.DerivationOrder
import Nominal.Proofs.DeferredBuilds
import Nominal.Proofs.BracketedNames
import Nominal.Proofs.SessionNames
import Nominal.Proofs.Encapsulation
import Nominal.Proofs.AncestorOrder
import Nominal.Proofs.VisibleMembers
import Nominal.Proofs.SequencerCalls
import Nominal.Proofs.UnknownMembers
import Nominal.Proofs.ConstructorChains
import Nominal.Proofs.Acceptance
import Nominal.Proofs.ArrayTypes
import Nominal.Proofs.MemberKeys
import Nominal.Proofs.InheritedAnnotations
import Nominal.Proofs.StrictSignatures
import Nominal.Proofs.ArrayReferences
import Nominal.Proofs.ParentOrder
import Nominal.Proofs.ClosestNames
import Nominal.Proofs.MapContents
