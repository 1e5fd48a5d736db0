import ShadingGraph.Codec.DataType
import ShadingGraph.Codec.Definition
import ShadingGraph.Codec.TestCase
import ShadingGraph.Graph.History
import ShadingGraph.Json.Source
import ShadingGraph.Json.Writer
import ShadingGraph.Main
import ShadingGraph.Registry.History
import ShadingGraph.Proofs.Registry
import ShadingGraph.Proofs.Growth
import ShadingGraph.Proofs.Concretization
import ShadingGraph.Proofs.DependencyOrder
import ShadingGraph.Proofs.Store
import ShadingGraph.Proofs.Substitution
import ShadingGraph.Proofs.Settlement
import ShadingGraph.Proofs.Rebuild
import ShadingGraph.Proofs.Feeding
import ShadingGraph.Proofs.Assembly
import ShadingGraph.Proofs.FieldAgreement
import ShadingGraph.Proofs.Noninterference
import ShadingGraph.Proofs.Propagation
import ShadingGraph.Proofs.Shape
import ShadingGraph.Proofs.AssemblyCompleteness
import ShadingGraph.Proofs.PinStability
import ShadingGraph.Proofs.NumericPort
import ShadingGraph.Proofs.SharedDimension
import ShadingGraph.Proofs.DeclaredDefault
import ShadingGraph.Proofs.Failure
import ShadingGraph.Proofs.Resumption
import ShadingGraph.Proofs.Connection
import ShadingGraph.Proofs.WrittenComponent
import ShadingGraph.Proofs.Reload
import ShadingGraph.Proofs.DocumentText
import ShadingGraph.Proofs.TestCaseText
import ShadingGraph.Proofs.FieldWrite
import ShadingGraph.Proofs.IntegerDefault
import ShadingGraph.Proofs.SquareMatrix
import ShadingGraph.Proofs.Adaptation
import ShadingGraph.Proofs.SettingsText
import ShadingGraph.Proofs.Disconnection
import ShadingGraph.Proofs.WrittenInitializer
import ShadingGraph.Proofs.Resizing
import ShadingGraph.Proofs.Address
import ShadingGraph.Proofs.Rendering
