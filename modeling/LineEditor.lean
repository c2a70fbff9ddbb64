import LineEditor.Main
import LineEditor.Proofs.Address
import LineEditor.Proofs.Range
import LineEditor.Proofs.Followed
import LineEditor.Proofs.Action
import LineEditor.Proofs.Slice
import LineEditor.Proofs.Execute
import LineEditor.Proofs.Outcome
import LineEditor.Proofs.Sink
import LineEditor.Proofs.Failure
import LineEditor.Proofs.Bounds
import LineEditor.Proofs.Nested
import LineEditor.Proofs.Quoting
import LineEditor.Proofs.Registered
import LineEditor.Proofs.Editing
import LineEditor.Proofs.Display
import LineEditor.Proofs.Pieces
import LineEditor.Proofs.Session
import LineEditor.Proofs.Files
import LineEditor.Proofs.Terminators
import LineEditor.Proofs.Stored
import LineEditor.Proofs.Sentence
import LineEditor.Proofs.Builtin
import LineEditor.Proofs.Whole
import LineEditor.Proofs.Limited
import LineEditor.Proofs.Origin
import LineEditor.Proofs.Discretion
import LineEditor.Proofs.Calls
import LineEditor.Proofs.Association
import LineEditor.Proofs.Ending
import LineEditor.Proofs.Loading
import LineEditor.Proofs.Descriptors
import LineEditor.Proofs.Behind
import LineEditor.Proofs.Registration
import LineEditor.Proofs.Invocation
import LineEditor.Proofs.Flags
import LineEditor.Proofs.Looking
import LineEditor.Proofs.Decimal
import LineEditor.Proofs.Numbering
import LineEditor.Proofs.Depth
import LineEditor.Proofs.Offset
import LineEditor.Proofs.Loaded
import LineEditor.Proofs.Typed
import LineEditor.Proofs.Readings
import LineEditor.Proofs.Values
import LineEditor.Proofs.Understood
import LineEditor.Proofs.Given
import LineEditor.Proofs.Arguments
import LineEditor.Proofs.Fallbacks
import LineEditor.Proofs.Operations
import LineEditor.Proofs.Configuration
import LineEditor.Proofs.Letters
