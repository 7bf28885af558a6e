import TextTemplate.Engine.Session
import TextTemplate.Main
import TextTemplate.Proofs.Agreement
import TextTemplate.Proofs.Assigning
import TextTemplate.Proofs.Balance
import TextTemplate.Proofs.Binding
import TextTemplate.Proofs.Blocks
import TextTemplate.Proofs.Causes
import TextTemplate.Proofs.Composition
import TextTemplate.Proofs.Containment
import TextTemplate.Proofs.Counters
import TextTemplate.Proofs.Counting
import TextTemplate.Proofs.DefaultBlocks
import TextTemplate.Proofs.Delivery
import TextTemplate.Proofs.Encoding
import TextTemplate.Proofs.IntegerTexts
import TextTemplate.Proofs.Invariants
import TextTemplate.Proofs.Joining
import TextTemplate.Proofs.JsonData
import TextTemplate.Proofs.JsonFaults
import TextTemplate.Proofs.JsonReading
import TextTemplate.Proofs.Keys
import TextTemplate.Proofs.Legibility
import TextTemplate.Proofs.Leniency
import TextTemplate.Proofs.Lines
import TextTemplate.Proofs.Loading
import TextTemplate.Proofs.LoopStack
import TextTemplate.Proofs.Mirroring
import TextTemplate.Proofs.Navigation
import TextTemplate.Proofs.Nesting
import TextTemplate.Proofs.Numerals
import TextTemplate.Proofs.Opacity
import TextTemplate.Proofs.Outcomes
import TextTemplate.Proofs.Padding
import TextTemplate.Proofs.Paths
import TextTemplate.Proofs.Piecewise
import TextTemplate.Proofs.Plan
import TextTemplate.Proofs.Progress
import TextTemplate.Proofs.Questions
import TextTemplate.Proofs.Reading
import TextTemplate.Proofs.Reconstruction
import TextTemplate.Proofs.Relocation
import TextTemplate.Proofs.RenamedBlocks
import TextTemplate.Proofs.RenamedRun
import TextTemplate.Proofs.RenamedSource
import TextTemplate.Proofs.Scanning
import TextTemplate.Proofs.Sessions
import TextTemplate.Proofs.Slice
import TextTemplate.Proofs.Splitting
import TextTemplate.Proofs.Strictness
import TextTemplate.Proofs.Tokenization
import TextTemplate.Proofs.Tour
import TextTemplate.Proofs.TreeMeaning
import TextTemplate.Proofs.TreeSource
import TextTemplate.Proofs.Trimming
import TextTemplate.Proofs.Unrolling
import TextTemplate.Proofs.Unseen
import TextTemplate.Proofs.Unwinding
import TextTemplate.Proofs.Watch
import TextTemplate.Resolver.Callable
import TextTemplate.Template.Meaning
import TextTemplate.Template.Renaming
import TextTemplate.Token.Scanner
import TextTemplate.Token.Stretch
