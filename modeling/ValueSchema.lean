import ValueSchema.Configuration.Document
import ValueSchema.Property.Slots
import ValueSchema.Proofs.CSharp.LiteralGrammar
import ValueSchema.Proofs.Configuration.Building
import ValueSchema.Proofs.Configuration.Loading
import ValueSchema.Proofs.Filter.Run
import ValueSchema.Proofs.Property.Writes
import ValueSchema.Proofs.Registry.Run
import ValueSchema.Proofs.Schema.Surface
import ValueSchema.Proofs.Source.Agreement
import ValueSchema.Proofs.Source.Determination
import ValueSchema.Proofs.Source.MappingText
import ValueSchema.Proofs.Source.Reports
import ValueSchema.Proofs.Source.EnclosingNamespace
import ValueSchema.Proofs.CSharp.NameGrammar
import ValueSchema.Proofs.Customization.Spelling
import ValueSchema.Proofs.Customization.Flag
import ValueSchema.Proofs.Property.ExactCopy
import ValueSchema.Proofs.Filter.AllOrNothing
import ValueSchema.Proofs.CSharp.StandardIdentifier
import ValueSchema.Proofs.CSharp.EscapedRuns
import ValueSchema.Proofs.Decoding.Positional
import ValueSchema.Proofs.Property.Descriptors
import ValueSchema.Proofs.Property.OtherMembers
