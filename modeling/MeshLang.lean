import MeshLang.Decimal.Significant
import MeshLang.Mesh.Block
import MeshLang.Proofs.AcceptedMeshes
import MeshLang.Proofs.AffineFields
import MeshLang.Proofs.Assignments
import MeshLang.Proofs.BlockMeshes
import MeshLang.Proofs.Broadcasting
import MeshLang.Proofs.ComponentSizes
import MeshLang.Proofs.Conservation
import MeshLang.Proofs.Decomposition
import MeshLang.Proofs.Derivatives
import MeshLang.Proofs.Diagnostics
import MeshLang.Proofs.Diffusion
import MeshLang.Proofs.DimensionTexts
import MeshLang.Proofs.FieldHistory
import MeshLang.Proofs.FieldMapping
import MeshLang.Proofs.ForwardProgress
import MeshLang.Proofs.HistoryTypes
import MeshLang.Proofs.LinePositions
import MeshLang.Proofs.Local.Cut
import MeshLang.Proofs.Local.Places
import MeshLang.Proofs.Local.Plugins
import MeshLang.Proofs.Local.Reductions
import MeshLang.Proofs.Local.Runs
import MeshLang.Proofs.Local.Steps
import MeshLang.Proofs.LongestTokens
import MeshLang.Proofs.LookupTables
import MeshLang.Proofs.MaximumPrinciple
import MeshLang.Proofs.NoRefusals
import MeshLang.Proofs.Noninterference
import MeshLang.Proofs.NumericTokens
import MeshLang.Proofs.OpaqueCalls
import MeshLang.Proofs.PluginExtension
import MeshLang.Proofs.PointAddressing
import MeshLang.Proofs.PrefixCoherence
import MeshLang.Proofs.ReaderIntegers
import MeshLang.Proofs.ReaderPlaces
import MeshLang.Proofs.ReaderTrivia
import MeshLang.Proofs.Reconstruction
import MeshLang.Proofs.Reductions
import MeshLang.Proofs.RegularBlocks
import MeshLang.Proofs.RelocationInvariance
import MeshLang.Proofs.SessionHistory
import MeshLang.Proofs.Shadowing
import MeshLang.Proofs.SignificantTokens
import MeshLang.Proofs.StaticTyping
import MeshLang.Proofs.StoredFields
import MeshLang.Proofs.TensorIdentities
import MeshLang.Proofs.TensorKinds
import MeshLang.Proofs.TruthValues
import MeshLang.Proofs.TypeSoundness
import MeshLang.Proofs.Untagged
import MeshLang.Proofs.VariableTransparency
import MeshLang.Repository.Change
import MeshLang.Scalar.Double
import MeshLang.Session
import MeshLang.Text.Lines
