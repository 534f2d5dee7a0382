import Maskwalk.Engine.Session
import Maskwalk.Main
import Maskwalk.Proofs.Run
import Maskwalk.Proofs.Path.Regular
import Maskwalk.Proofs.World.Ordinary
import Maskwalk.Proofs.Walk.Tour
import Maskwalk.Proofs.Walk.Descent
import Maskwalk.Proofs.Walk.Matching
import Maskwalk.Proofs.Mask.Fitting
import Maskwalk.Proofs.Mask.Inside
import Maskwalk.Proofs.World.Pruned
import Maskwalk.Proofs.Tree.Contents
import Maskwalk.Proofs.Tree.Doomed
import Maskwalk.Proofs.Tree.Removal
import Maskwalk.Proofs.Tree.Remains
import Maskwalk.Proofs.World.Planted
import Maskwalk.Proofs.Tree.Confinement
import Maskwalk.Proofs.Tree.Straying
import Maskwalk.Proofs.Walk.Bounds
import Maskwalk.Proofs.Walk.Reach
import Maskwalk.Proofs.Walk.Names
import Maskwalk.Proofs.Tree.Files
import Maskwalk.Proofs.Tree.Named
import Maskwalk.Proofs.Tree.FirstFailure
import Maskwalk.Proofs.Search.Crawl
import Maskwalk.Proofs.Search.Includes
import Maskwalk.Proofs.Asking
import Maskwalk.Proofs.World.Consistent
import Maskwalk.Proofs.Walk.Keeping
import Maskwalk.Proofs.Tree.Keeping
import Maskwalk.Proofs.Engine.Queries
import Maskwalk.Proofs.Engine.History
import Maskwalk.Proofs.Engine.Running
import Maskwalk.Proofs.Engine.NormalForms
import Maskwalk.Proofs.World.Listed
import Maskwalk.Proofs.Tree.Gone
import Maskwalk.Proofs.Tree.Making
import Maskwalk.Proofs.Search.Steady
import Maskwalk.Proofs.Search.Libraries
import Maskwalk.Proofs.Engine.Clashes
import Maskwalk.Proofs.Engine.Identifiers
import Maskwalk.Proofs.Path.Meaning
import Maskwalk.Proofs.Mask.Pieces
import Maskwalk.Proofs.World.Line
import Maskwalk.Proofs.Walk.Hushed
import Maskwalk.Proofs.Tree.Undoing
import Maskwalk.Proofs.Tree.Course
import Maskwalk.Proofs.Search.Scripts
import Maskwalk.Proofs.Config.Fields
import Maskwalk.Proofs.Config.Loading
import Maskwalk.Proofs.Path.Canonical
import Maskwalk.Proofs.Path.Absolute
import Maskwalk.Proofs.Mask.Literal
import Maskwalk.Proofs.Walk.Pruning
import Maskwalk.Proofs.Mask.Widening
import Maskwalk.Proofs.Walk.Widening
import Maskwalk.Proofs.Tree.Nesting
import Maskwalk.Proofs.Tree.Union
import Maskwalk.Proofs.Path.Joining
import Maskwalk.Proofs.Walk.Ending
import Maskwalk.Proofs.Walk.Failures
import Maskwalk.Proofs.World.Marked
import Maskwalk.Proofs.Tree.Visits
import Maskwalk.Proofs.Tree.Markers
import Maskwalk.Proofs.Mask.Respelling
import Maskwalk.Proofs.Tree.Remaking
import Maskwalk.Proofs.Mask.Shallow
import Maskwalk.Proofs.Tree.Unprotected
import Maskwalk.Proofs.Search.Spelling
import Maskwalk.Proofs.Search.PathLists
import Maskwalk.Proofs.Engine.WordSize
import Maskwalk.Proofs.Cli.Writing
import Maskwalk.Proofs.Cli.Outcomes
