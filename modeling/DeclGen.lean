import DeclGen.Declaration.Layout
import DeclGen.Declaration.Numbering
import DeclGen.Declaration.PrinterStep
import DeclGen.Main
import DeclGen.Schema.Markup
import DeclGen.Schema.WriterStep
import DeclGen.Proofs.Declaration.Code
import DeclGen.Proofs.Declaration.Emission
import DeclGen.Proofs.Declaration.Layout
import DeclGen.Proofs.Declaration.Recovery
import DeclGen.Proofs.Schema.Generation
import DeclGen.Proofs.Schema.Documentation
import DeclGen.Proofs.Schema.ForeignEncoding
import DeclGen.Proofs.Schema.History
import DeclGen.Proofs.Schema.Offence
import DeclGen.Proofs.Schema.Presence
import DeclGen.Proofs.Schema.RoundTrip
import DeclGen.Proofs.Schema.Unseen
import DeclGen.Proofs.Files.Spelling
import DeclGen.Proofs.Batch.Generate
import DeclGen.Proofs.Batch.Outputs
import DeclGen.Proofs.Batch.Prefix
import DeclGen.Proofs.Batch.ExitCode
import DeclGen.Proofs.Batch.Success
import DeclGen.Proofs.Batch.Repetition
import DeclGen.Proofs.Declaration.Brackets
import DeclGen.Proofs.Files.Beside
import DeclGen.Proofs.Files.NamedFile
import DeclGen.Proofs.Files.Membership
import DeclGen.Proofs.Declaration.Numbering
import DeclGen.Proofs.Schema.DerivedNames
import DeclGen.Proofs.Schema.EmptyTexts
import DeclGen.Proofs.Declaration.Variants
