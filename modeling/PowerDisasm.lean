import PowerDisasm.LogRecord
import PowerDisasm.Main
import PowerDisasm.Proofs.DiagnosticLog
import PowerDisasm.Proofs.Vector128Registers
import PowerDisasm.Proofs.WalkAgreement
import PowerDisasm.Proofs.WordByWord
import PowerDisasm.Proofs.DecodeHistory
import PowerDisasm.Proofs.FormComposition
import PowerDisasm.Proofs.OperandRanges
import PowerDisasm.Proofs.Acceptance
import PowerDisasm.Proofs.CoverageAgreement
import PowerDisasm.Proofs.SeekableAddresses
import PowerDisasm.Proofs.WordCounts
import PowerDisasm.Proofs.ReportedForms
import PowerDisasm.Proofs.ControlFlow
import PowerDisasm.Proofs.BranchTargets
import PowerDisasm.Proofs.FlippedBits
import PowerDisasm.Proofs.OperandLimits
import PowerDisasm.Proofs.SparseNodes
import PowerDisasm.Proofs.ImageParts
import PowerDisasm.Proofs.Summaries
import PowerDisasm.Proofs.NumberGrammar
import PowerDisasm.Proofs.SpecialTables
import PowerDisasm.Proofs.SessionSteps
import PowerDisasm.Proofs.FieldValues
import PowerDisasm.Proofs.PatternChains
