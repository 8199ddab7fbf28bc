import Panel.Document
import Panel.Draft
import Panel.Shared
import Panel.Layout.InPlace
import Panel.Proofs.Content.Tree
import Panel.Proofs.Derived.Reading
import Panel.Proofs.Store.Write
import Panel.Proofs.Wire.RoundTrip
import Panel.Proofs.Derived.Refresh
import Panel.Proofs.Content.Declared
import Panel.Proofs.Dependency.Reach
import Panel.Proofs.Derived.OnDemand
import Panel.Proofs.Layout.Extent
import Panel.Proofs.Layout.Marks
import Panel.Proofs.Touch.OnDemand
import Panel.Proofs.Document.Call
import Panel.Proofs.Document.Restart
import Panel.Proofs.Document.Frame
import Panel.Proofs.Dependency.Appearance
import Panel.Proofs.Document.Invalidation
import Panel.Proofs.Document.OnDemand
import Panel.Proofs.Document.Settled
import Panel.Proofs.Paint.Drawn
import Panel.Proofs.Layout.Transpose
import Panel.Proofs.Layout.Gone
import Panel.Proofs.Document.History
import Panel.Proofs.Shared.Conserved
import Panel.Proofs.Draft.Names
import Panel.Proofs.Wire.Cut
import Panel.Proofs.Wire.Allowed
import Panel.Proofs.Store.Indexed
import Panel.Proofs.Store.History
import Panel.Proofs.Content.Valued
import Panel.Proofs.Draft.Loaded
import Panel.Proofs.Document.Target
import Panel.Proofs.Paint.Invisible
import Panel.Layout.Arrays
import Panel.Proofs.Layout.Phases
import Panel.Proofs.Derived.Fixpoint
import Panel.Dependency.Tables
import Panel.Proofs.Dependency.Tables
import Panel.Proofs.Wire.Postfix
import Panel.Guarded.Access
import Panel.Guarded.Cursor
import Panel.Guarded.Decode
import Panel.Proofs.Guarded.Cursor
import Panel.Proofs.Guarded.Decode
import Panel.Guarded.Store
import Panel.Proofs.Guarded.Store
import Panel.Guarded.Arena
import Panel.Proofs.Guarded.Arena
import Panel.Guarded.Layout
import Panel.Proofs.Guarded.Layout
import Panel.Guarded.Screen
import Panel.Proofs.Guarded.Screen
import Panel.Guarded.Stage
import Panel.Proofs.Guarded.Stage
import Panel.Guarded.Player
import Panel.Proofs.Guarded.Player
import Panel.Proofs.Expression.Reads
import Panel.Proofs.Expression.Integers
import Panel.Touch.Delivery
import Panel.Proofs.Touch.Delivery
import Panel.Store.InPlace
import Panel.Proofs.Store.InPlace
import Panel.Proofs.Store.Kept
import Panel.Proofs.Store.Uses
import Panel.Proofs.Single.Extent
import Panel.Proofs.Single.Agreement
import Panel.Proofs.Layout.Measurement
import Panel.Proofs.Layout.Sizes
import Panel.Proofs.Layout.Congruence
import Panel.Proofs.Layout.SideBySide
import Panel.Proofs.Component.Modify
import Panel.Proofs.Layout.Spacing
import Panel.Proofs.Paint.Style
import Panel.OpcodeSet.Words
import Panel.Proofs.OpcodeSet.Words
import Panel.Guarded.Field
import Panel.Proofs.Guarded.Field
import Panel.Proofs.Wire.Blame
import Panel.Proofs.Store.Built
