import JsonExplorer.CommandLine
import JsonExplorer.Exchange.Decode
import JsonExplorer.Exchange.Encode
import JsonExplorer.Main
import JsonExplorer.Session
import JsonExplorer.Shape.Json
import JsonExplorer.Worker
import JsonExplorer.Proofs.Coordinator.Consistent
import JsonExplorer.Proofs.Coordinator.Latest
import JsonExplorer.Proofs.Session.Traffic
import JsonExplorer.Proofs.Session.Current
import JsonExplorer.Proofs.Entries
import JsonExplorer.Proofs.Shape.Declared
import JsonExplorer.Proofs.Shape.Conforms
import JsonExplorer.Proofs.Value.Nodes
import JsonExplorer.Proofs.Path.Steps
import JsonExplorer.Proofs.Search.Walks
import JsonExplorer.Proofs.Path.Names
import JsonExplorer.Proofs.Path.RoundTrip
import JsonExplorer.Proofs.Search.Matches
import JsonExplorer.Proofs.Search.Reveal
import JsonExplorer.Proofs.Outline.Rows
import JsonExplorer.Proofs.Search.Visible
import JsonExplorer.Proofs.Session.Inline
import JsonExplorer.Proofs.Coordinator.Mislabelled
import JsonExplorer.Proofs.Json.Decoded
import JsonExplorer.Proofs.Json.RoundTrip
import JsonExplorer.Proofs.Exchange.Transport
import JsonExplorer.Proofs.Session.Text
import JsonExplorer.Proofs.Shape.Normal
import JsonExplorer.Proofs.Shape.Registrations
import JsonExplorer.Proofs.Shape.Declarations
import JsonExplorer.Proofs.Shape.Legible
import JsonExplorer.Proofs.Shape.Rendering
import JsonExplorer.Proofs.Coordinator.Published
import JsonExplorer.Proofs.Session.Shown
import JsonExplorer.Proofs.Session.Taken
import JsonExplorer.Proofs.Coordinator.Outcomes
import JsonExplorer.Proofs.Session.Deferred
import JsonExplorer.Proofs.Exchange.Records
import JsonExplorer.Proofs.Shape.SameShape
import JsonExplorer.Proofs.Path.ReadBack
import JsonExplorer.Proofs.Outline.Pages
import JsonExplorer.Proofs.Outline.Blocks
import JsonExplorer.Proofs.Outline.Opening
import JsonExplorer.Proofs.Session.Toggle
import JsonExplorer.Proofs.Session.Cursor
import JsonExplorer.Proofs.Session.Blank
import JsonExplorer.Proofs.Shape.Nesting
import JsonExplorer.Proofs.Shape.Serialized
import JsonExplorer.Proofs.Worker.Stop
import JsonExplorer.Proofs.Search.Case
import JsonExplorer.Proofs.Search.Exact
