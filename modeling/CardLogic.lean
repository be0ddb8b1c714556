import CardLogic.Json.Writer
import CardLogic.Main
import CardLogic.Project.Writing
import CardLogic.Proofs.Card.Encoding
import CardLogic.Proofs.Corpus.Included
import CardLogic.Proofs.Corpus.Repeats
import CardLogic.Proofs.Corpus.Run
import CardLogic.Proofs.Engine.Absence
import CardLogic.Proofs.Engine.Generation
import CardLogic.Proofs.Solver.Output
import CardLogic.Proofs.Solver.ExitCode
import CardLogic.Proofs.Solver.Keys
import CardLogic.Proofs.Solver.Rendered
import CardLogic.Proofs.Corpus.BrokenOff
import CardLogic.Proofs.Corpus.ReadsFirst
import CardLogic.Proofs.Engine.ReadsFirst
import CardLogic.Proofs.Corpus.ReadBack
import CardLogic.Proofs.Corpus.Parts
import CardLogic.Proofs.Project.Written
import CardLogic.Proofs.Engine.Unknown
import CardLogic.Proofs.Program.Confined
import CardLogic.Proofs.Corpus.Confined
import CardLogic.Proofs.Engine.Confined
import CardLogic.Proofs.Program.Parted
import CardLogic.Proofs.Corpus.TakenOut
import CardLogic.Proofs.Corpus.Merging
import CardLogic.Proofs.Corpus.Batches
import CardLogic.Proofs.Project.Slices
import CardLogic.Proofs.Project.FirstFolder
import CardLogic.Proofs.Fact.Layout
import CardLogic.Proofs.Fact.NormalForm
import CardLogic.Proofs.Corpus.AnyOrder
