import DeskScript.Demo
import DeskScript.Main
import DeskScript.Signature
import DeskScript.Proofs.Alias
import DeskScript.Proofs.Debugging
import DeskScript.Proofs.Joining
import DeskScript.Proofs.Loops
import DeskScript.Proofs.Sessions
import DeskScript.Proofs.Derivations
import DeskScript.Proofs.Leading
import DeskScript.Proofs.Making
import DeskScript.Proofs.Formed
import DeskScript.Proofs.Printing
import DeskScript.Proofs.Roundtrip
import DeskScript.Proofs.Precedence
import DeskScript.Proofs.Blame
import DeskScript.Proofs.Sharing
import DeskScript.Proofs.StepOver
import DeskScript.Proofs.Imports
import DeskScript.Proofs.Doubles
import DeskScript.Proofs.Endings
import DeskScript.Proofs.Squashing
import DeskScript.Proofs.Recorded
import DeskScript.Proofs.KeyTexts
import DeskScript.Proofs.HeldKeys
import DeskScript.Proofs.Playing
import DeskScript.Proofs.Caching
import DeskScript.Proofs.Capturing
import DeskScript.Proofs.Conditions
import DeskScript.Proofs.Assigning
import DeskScript.Proofs.Negation
import DeskScript.Proofs.Returning
import DeskScript.Proofs.Library
import DeskScript.Proofs.Ticking
import DeskScript.Proofs.Grouping
import DeskScript.Proofs.Closing
import DeskScript.Proofs.Pointing
import DeskScript.Proofs.Combinations
import DeskScript.Proofs.Filtering
