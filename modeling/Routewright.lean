import Routewright.Code.Document
import Routewright.Console.Sheet
import Routewright.Json.Printer
import Routewright.Main
import Routewright.Session
import Routewright.Target.PythonDraft
import Routewright.Target.RustDraft
import Routewright.World
import Routewright.Proofs.AllOrNothing
import Routewright.Proofs.BuilderCheck
import Routewright.Proofs.Capacity
import Routewright.Proofs.CleanUp
import Routewright.Proofs.Constructors
import Routewright.Proofs.Containment
import Routewright.Proofs.Declaration
import Routewright.Proofs.Derivation
import Routewright.Proofs.Failure
import Routewright.Proofs.MethodChoice
import Routewright.Proofs.PlainTable
import Routewright.Proofs.Repetition
import Routewright.Proofs.SourceLiterals
import Routewright.Proofs.StandardNames
import Routewright.Proofs.Strategy
import Routewright.Proofs.StringLiteral
import Routewright.Proofs.Sublist
import Routewright.Proofs.Summands
import Routewright.Proofs.TemplateFaults
import Routewright.Proofs.TypeSpelling
