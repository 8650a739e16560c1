import DocTemplate.Artifact.Digest
import DocTemplate.Artifact.Place
import DocTemplate.Artifact.Slug
import DocTemplate.Binding.Path
import DocTemplate.Binding.Placeholder
import DocTemplate.Calendar.Date
import DocTemplate.Calendar.Iso
import DocTemplate.Calendar.Moment
import DocTemplate.Catalog.DocumentType
import DocTemplate.Catalog.Record
import DocTemplate.Catalog.Sample
import DocTemplate.Catalog.Starter
import DocTemplate.Console.Arguments
import DocTemplate.Console.Disk
import DocTemplate.Console.Session
import DocTemplate.Delivery.Email
import DocTemplate.Format.Amount
import DocTemplate.Format.Basic
import DocTemplate.Html.Body
import DocTemplate.Html.Css
import DocTemplate.Html.Document
import DocTemplate.Html.Node
import DocTemplate.Json.Fault
import DocTemplate.Json.Printer
import DocTemplate.Json.Reader
import DocTemplate.Layout.Checked
import DocTemplate.Layout.Component
import DocTemplate.Layout.Content
import DocTemplate.Layout.Dump
import DocTemplate.Layout.Field
import DocTemplate.Layout.Graph
import DocTemplate.Layout.Load
import DocTemplate.Layout.Namesake
import DocTemplate.Layout.Problem
import DocTemplate.Layout.Same
import DocTemplate.Layout.Visible
import DocTemplate.Main
import DocTemplate.Number.Binary
import DocTemplate.Number.Decimal
import DocTemplate.Number.Exact
import DocTemplate.Number.FloatText
import DocTemplate.Number.Numeral
import DocTemplate.Number.Rounding
import DocTemplate.Number.Shortest
import DocTemplate.Page.Call
import DocTemplate.Page.Color
import DocTemplate.Page.Document
import DocTemplate.Page.Drawing
import DocTemplate.Page.Face
import DocTemplate.Page.File
import DocTemplate.Page.Frame
import DocTemplate.Page.Geometry
import DocTemplate.Page.Glyph
import DocTemplate.Page.Length
import DocTemplate.Page.Op
import DocTemplate.Page.Picture
import DocTemplate.Page.Preset
import DocTemplate.Page.Preview
import DocTemplate.Page.Raster
import DocTemplate.Page.Sheet
import DocTemplate.Page.Sketch
import DocTemplate.Page.Wrap
import DocTemplate.Proofs.Action
import DocTemplate.Proofs.Html.Grammar
import DocTemplate.Proofs.Html.Safety
import DocTemplate.Proofs.Store.Commit
import DocTemplate.Proofs.Store.Consistency
import DocTemplate.Store.Access
import DocTemplate.Store.Basic
import DocTemplate.Store.Column
import DocTemplate.Store.File
import DocTemplate.Store.Show
import DocTemplate.Store.Step
import DocTemplate.Surroundings
import DocTemplate.Text.Blank
import DocTemplate.Text.Compatibility
import DocTemplate.Text.Digit
import DocTemplate.Text.Encoding
import DocTemplate.Text.Entity
import DocTemplate.Text.Printable
import DocTemplate.Text.Quoted
import DocTemplate.Text.Transliteration
import DocTemplate.Value.Basic
import DocTemplate.Value.Equality
import DocTemplate.Value.Failure
import DocTemplate.Value.Plain
import DocTemplate.Value.Size
import DocTemplate.Proofs.Html.Reading
import DocTemplate.Proofs.Html.Strict
import DocTemplate.Proofs.Page.Strict
import DocTemplate.Proofs.Page.Wrapping
import DocTemplate.Proofs.Page.Recording
import DocTemplate.Proofs.Agreement.Depiction
import DocTemplate.Proofs.Agreement.Components
import DocTemplate.Proofs.Json.Plain
import DocTemplate.Proofs.Layout.Yields
import DocTemplate.Proofs.Layout.Loaded
import DocTemplate.Proofs.Layout.ReadBack
import DocTemplate.Proofs.Layout.RoundTrip
import DocTemplate.Proofs.Layout.Cycles
import DocTemplate.Proofs.Layout.Hidden
import DocTemplate.Proofs.Layout.Namesake
import DocTemplate.Proofs.Layout.Reloaded
import DocTemplate.Proofs.Page.Course
import DocTemplate.Proofs.Page.Accounting
import DocTemplate.Proofs.Layout.Written
import DocTemplate.Proofs.Store.Recorded
import DocTemplate.Proofs.Store.Spared
import DocTemplate.Proofs.Store.Shown
import DocTemplate.Proofs.Number.Grain
import DocTemplate.Proofs.Number.Nearest
import DocTemplate.Proofs.Number.Unpacked
import DocTemplate.Proofs.Number.Double
import DocTemplate.Proofs.Page.Act
import DocTemplate.Proofs.Page.Log
import DocTemplate.Proofs.Layout.Sizes
import DocTemplate.Proofs.Page.Performing
import DocTemplate.Proofs.Page.Strokes
import DocTemplate.Proofs.Page.Margin
import DocTemplate.Proofs.Store.Atomic
import DocTemplate.Proofs.Page.Failing
import DocTemplate.Proofs.Store.Keeping
import DocTemplate.Proofs.Store.History
import DocTemplate.Proofs.Calendar.Range
import DocTemplate.Proofs.Format.Precision
import DocTemplate.Proofs.Format.Failing
import DocTemplate.Proofs.Json.Limits
import DocTemplate.Proofs.Layout.Refused
import DocTemplate.Proofs.Number.Finite
import DocTemplate.Proofs.Page.Descent
import DocTemplate.Proofs.Page.Descending
import DocTemplate.Proofs.Page.Bands
import DocTemplate.Proofs.Page.Flow
import DocTemplate.Proofs.Page.Growth
import DocTemplate.Proofs.Html.Containment
import DocTemplate.Proofs.Page.Typeset
import DocTemplate.Proofs.Number.Digits
import DocTemplate.Proofs.Format.Grouping
import DocTemplate.Proofs.Format.Rounding
import DocTemplate.Proofs.Format.Spelling
import DocTemplate.Proofs.Format.Exact
import DocTemplate.Proofs.Format.Significant
import DocTemplate.Proofs.Format.Currency
import DocTemplate.Proofs.Format.HalfCent
import DocTemplate.Proofs.Binding.Interpolation
import DocTemplate.Proofs.Page.Added
import DocTemplate.Proofs.Page.Table
import DocTemplate.Proofs.Page.Chips
import DocTemplate.Proofs.Page.Exact
import DocTemplate.Proofs.Page.Strips
import DocTemplate.Proofs.Page.Boxes
import DocTemplate.Proofs.Page.Border
import DocTemplate.Proofs.Page.Blank
import DocTemplate.Proofs.Calendar.Counting
import DocTemplate.Proofs.Calendar.Typed
import DocTemplate.Proofs.Format.Dates
import DocTemplate.Proofs.Number.Forms
import DocTemplate.Proofs.Number.Alphabet
import DocTemplate.Proofs.Value.Equality
import DocTemplate.Proofs.Value.Plain
import DocTemplate.Proofs.Layout.Readings
import DocTemplate.Proofs.Layout.Schema
import DocTemplate.Proofs.Layout.Unset
import DocTemplate.Proofs.Layout.Spellings
import DocTemplate.Proofs.Layout.Outline
import DocTemplate.Proofs.Layout.Unrolled
import DocTemplate.Proofs.Page.Cursor
import DocTemplate.Proofs.Binding.Route
import DocTemplate.Proofs.Value.Positions
import DocTemplate.Proofs.Agreement.Heads
import DocTemplate.Proofs.Artifact.Placing
import DocTemplate.Proofs.Store.Listing
import DocTemplate.Proofs.Console.Rendering
import DocTemplate.Proofs.Number.Halves
import DocTemplate.Proofs.Page.Fitting
