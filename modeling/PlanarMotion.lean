import PlanarMotion.Main
import PlanarMotion.Describe
import PlanarMotion.Proofs.Script.Canonical
import PlanarMotion.Proofs.Script.Saving
import PlanarMotion.Proofs.Script.Editing
import PlanarMotion.Proofs.Script.Runs
import PlanarMotion.Proofs.Handle.Stillness
import PlanarMotion.Proofs.Handle.Placement
import PlanarMotion.Proofs.Handle.Ownership
import PlanarMotion.Proofs.Handle.Roles
import PlanarMotion.Proofs.Handle.Sweep
import PlanarMotion.Proofs.Handle.Repeats
import PlanarMotion.Proofs.Path.Owners
import PlanarMotion.Proofs.Build.Seams
import PlanarMotion.Proofs.Build.Truth
import PlanarMotion.Proofs.Motion.Continuity
import PlanarMotion.Proofs.Motion.Velocity
import PlanarMotion.Proofs.Motion.Owners
import PlanarMotion.Proofs.Build.Tangents
import PlanarMotion.Proofs.Motion.Directions
import PlanarMotion.Proofs.Motion.Downstream
import PlanarMotion.Proofs.Build.Moved
import PlanarMotion.Proofs.Handle.Independence
import PlanarMotion.Proofs.Motion.Forward
import PlanarMotion.Proofs.Path.Hodograph
import PlanarMotion.Proofs.Path.Refinement
import PlanarMotion.Proofs.Script.Offending
import PlanarMotion.Proofs.Script.LongestNumerals
import PlanarMotion.Proofs.Script.MaximalMunch
import PlanarMotion.Proofs.Script.Tokenizer
import PlanarMotion.Proofs.Script.Spacing
