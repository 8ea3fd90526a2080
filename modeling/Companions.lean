import Companions.Companion.Session
import Companions.Eval.Interpreter
import Companions.Source
import Companions.Trace
import Companions.Proofs.Body.References
import Companions.Proofs.Check.Verdict
import Companions.Proofs.Check.ScopeStack
import Companions.Proofs.Check.Approval
import Companions.Proofs.Companion.Forwarding
import Companions.Proofs.Companion.Soundness
import Companions.Proofs.Program.Reachable
import Companions.Proofs.Companion.Making
import Companions.Proofs.Companion.Index
import Companions.Proofs.Companion.Serving
import Companions.Proofs.Companion.Answers
import Companions.Proofs.Eval.Contract
import Companions.Proofs.Eval.Nodes
import Companions.Proofs.Eval.Throwing
import Companions.Proofs.Eval.Approved
import Companions.Proofs.Eval.Linkage
import Companions.Proofs.Eval.Steps
import Companions.Proofs.Companion.Meaning
import Companions.Proofs.Program.Ancestry
import Companions.Proofs.Companion.Calls
import Companions.Proofs.Eval.Scope
import Companions.Proofs.Eval.Safety
import Companions.Proofs.Companion.Partition
import Companions.Proofs.Companion.IndexTables
import Companions.Proofs.Companion.Conversation
import Companions.Proofs.Eval.Agreement
import Companions.Proofs.Companion.Extension
import Companions.Proofs.Companion.Shape
import Companions.Proofs.Companion.Surface
import Companions.Proofs.Companion.Wording
import Companions.Proofs.Companion.Rebuilding
import Companions.Proofs.Companion.Answering
import Companions.Proofs.Companion.Order
import Companions.Eval.Depth
import Companions.Proofs.Eval.Comparing
import Companions.Proofs.Eval.Overflow
import Companions.Proofs.Eval.Depth
import Companions.Proofs.Eval.Cutoff
import Companions.Proofs.Eval.Ending
import Companions.Proofs.Companion.Discovery
import Companions.Proofs.Companion.Minting
import Companions.Proofs.Eval.Resolution
import Companions.Proofs.Companion.Completeness
import Companions.Proofs.Eval.Handling
import Companions.Proofs.Companion.Aliasing
import Companions.Proofs.Eval.Routing
import Companions.Proofs.Pools.TypeLaws
import Companions.Proofs.Companion.SourceText
import Companions.Proofs.Pools.Derivation
import Companions.Proofs.Companion.HostOrder
import Companions.Proofs.Body.Arena
import Companions.Proofs.Program.Store
import Companions.Proofs.Program.History
import Companions.Proofs.Program.Subclassing
import Companions.Proofs.Pools.NameLaws
import Companions.Proofs.Pools.ClassPaths
import Companions.Proofs.Source.Spelling
import Companions.Proofs.Settings.Configuration
import Companions.Proofs.Companion.Predicates
import Companions.Proofs.Eval.Exceptions
import Companions.Proofs.Eval.Lexical
import Companions.Proofs.Eval.Frames
