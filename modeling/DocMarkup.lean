import DocMarkup.Main
import DocMarkup.Proofs.Compilation.Agreement
import DocMarkup.Proofs.Grammar.Transaction
import DocMarkup.Proofs.Compilation.Completion
import DocMarkup.Proofs.Compilation.EntryPoints
import DocMarkup.Proofs.Compilation.Nesting
import DocMarkup.Proofs.Compilation.OutputSettings
import DocMarkup.Proofs.Compilation.Paragraphs
import DocMarkup.Proofs.Compilation.SectionIds
import DocMarkup.Proofs.Compilation.Placement
import DocMarkup.Proofs.Compilation.Registration
import DocMarkup.Proofs.Compilation.Termination
import DocMarkup.Proofs.Compilation.Verdict
import DocMarkup.Proofs.Compiler.Journal
import DocMarkup.Proofs.Compiler.Numbering
import DocMarkup.Proofs.Encoding.Separation
import DocMarkup.Proofs.Grammar.Conditional
import DocMarkup.Proofs.Grammar.Outline
import DocMarkup.Proofs.Grammar.Stopping
import DocMarkup.Proofs.Grammar.MacroWords
import DocMarkup.Proofs.Grammar.Forgetting
import DocMarkup.Proofs.Grammar.Definition
import DocMarkup.Proofs.Identifier
import DocMarkup.Proofs.Markup.LaidOut
import DocMarkup.Proofs.Markup.Matching
import DocMarkup.Proofs.Markup.Wrapping
import DocMarkup.Proofs.Template.Balance
import DocMarkup.Proofs.Written.Indentation
import DocMarkup.Proofs.Written.Listing
import DocMarkup.Proofs.Written.Table
import DocMarkup.Proofs.Written.Verbatim
