import TermTemplate.FormatString
import TermTemplate.Structured.Printer
import TermTemplate.Template.Nesting
import TermTemplate.Template.Walk
import TermTemplate.Terminal
import TermTemplate.Proofs.CompiledRun
import TermTemplate.Proofs.ReadBack
import TermTemplate.Proofs.NormalForm
import TermTemplate.Proofs.StructuredRun
import TermTemplate.Program.Draft
import TermTemplate.Proofs.DraftSites
import TermTemplate.Proofs.DraftedCode
import TermTemplate.Proofs.ForwardRun
import TermTemplate.Proofs.ViablePrefix
import TermTemplate.Field.Bounded
import TermTemplate.Proofs.FieldReaders
import TermTemplate.Proofs.FieldAgreement
import TermTemplate.Proofs.StaticVariables
import TermTemplate.Checked.Arithmetic
import TermTemplate.Checked.Reading
import TermTemplate.Proofs.CheckedReading
import TermTemplate.Checked.Rendering
import TermTemplate.Checked.Running
import TermTemplate.Proofs.CheckedRendering
import TermTemplate.Proofs.CheckedRun
import TermTemplate.Proofs.RelatedRuns
import TermTemplate.Proofs.Repair
import TermTemplate.Proofs.ParameterReads
import TermTemplate.Proofs.PaddingErasure
import TermTemplate.Proofs.TerminalCompilation
import TermTemplate.Proofs.FormatGrammar
import TermTemplate.Proofs.NumberLayout
import TermTemplate.Proofs.PrintedInteger
import TermTemplate.Proofs.TextLayout
import TermTemplate.Proofs.IntegerConstants
import TermTemplate.Proofs.WrappingArithmetic
import TermTemplate.Proofs.LogicalTests
import TermTemplate.Proofs.Delays
import TermTemplate.Proofs.LeadingInteger
