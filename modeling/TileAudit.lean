import TileAudit.Audit
import TileAudit.Backend
import TileAudit.Binary64.Basic
import TileAudit.Binary64.Literal
import TileAudit.Binary64.Positional
import TileAudit.Binary64.Shortest
import TileAudit.Bytes.Basic
import TileAudit.Bytes.Bits
import TileAudit.Bytes.CanonicalCode
import TileAudit.Bytes.Checksum
import TileAudit.Bytes.Order
import TileAudit.Command.Arguments
import TileAudit.Command.Diagnosis
import TileAudit.Command.Reach
import TileAudit.Command.Request
import TileAudit.Command.Run
import TileAudit.Command.Scanner
import TileAudit.Comparison
import TileAudit.Config.Basic
import TileAudit.Config.Template
import TileAudit.Database.Basic
import TileAudit.Database.Engine
import TileAudit.Database.Selection
import TileAudit.Database.Tables
import TileAudit.Deflate.Inflate
import TileAudit.Deflate.Stored
import TileAudit.Effect
import TileAudit.Event
import TileAudit.ExitStatus
import TileAudit.Fault
import TileAudit.FileTree.Basic
import TileAudit.FileTree.Changes
import TileAudit.FileTree.Operations
import TileAudit.FileTree.PathText
import TileAudit.GeoTiff.Codec
import TileAudit.GeoTiff.Keys
import TileAudit.GeoTiff.Reader
import TileAudit.GeoTiff.Writer
import TileAudit.Geometry.Basic
import TileAudit.Geometry.GeoTransform
import TileAudit.Grid.Address
import TileAudit.Grid.Basic
import TileAudit.Image.Basic
import TileAudit.Image.Codec
import TileAudit.Image.File
import TileAudit.Jpeg.Frame
import TileAudit.Jpeg.Picture
import TileAudit.Jpeg.Scan
import TileAudit.Jpeg.Transform
import TileAudit.Launcher
import TileAudit.Lzw
import TileAudit.Main
import TileAudit.PackBits
import TileAudit.Png.Chunk
import TileAudit.Png.Filter
import TileAudit.Png.Header
import TileAudit.Png.Pass
import TileAudit.Png.Picture
import TileAudit.Process
import TileAudit.Raster.Basic
import TileAudit.Raster.Fault
import TileAudit.Samples
import TileAudit.Sampling
import TileAudit.Scenario
import TileAudit.Seeder
import TileAudit.Shell.Builtins
import TileAudit.Shell.Lexer
import TileAudit.Shell.Parser
import TileAudit.Shell.Run
import TileAudit.Shell.State
import TileAudit.Shell.Syntax
import TileAudit.Store.Basic
import TileAudit.Store.Disk
import TileAudit.Store.Table
import TileAudit.Synthetic
import TileAudit.Text.Blank
import TileAudit.Text.Combining
import TileAudit.Text.Controls
import TileAudit.Text.Numeral
import TileAudit.Text.Quoted
import TileAudit.Text.Substitution
import TileAudit.Text.Unprintable
import TileAudit.Text.Utf8
import TileAudit.Tiff.Codec
import TileAudit.Tiff.Colour
import TileAudit.Tiff.Directory
import TileAudit.Tiff.Layout
import TileAudit.Tiff.Picture
import TileAudit.Tiff.Strips
import TileAudit.Tiff.Writer
import TileAudit.Tile.Basic
import TileAudit.Tile.Normalize
import TileAudit.Workspace
import TileAudit.Zlib
import TileAudit.Proofs.Binary64.Cells
import TileAudit.Proofs.Binary64.Errors
import TileAudit.Proofs.Binary64.Gaps
import TileAudit.Proofs.Binary64.Operations
import TileAudit.Proofs.Binary64.Order
import TileAudit.Proofs.Binary64.Packing
import TileAudit.Proofs.Binary64.Progressions
import TileAudit.Proofs.Binary64.Rounding
import TileAudit.Proofs.Binary64.Scaling
import TileAudit.Proofs.Binary64.Values
import TileAudit.Proofs.Binary64.Zeros
import TileAudit.Proofs.Bytes.Bits
import TileAudit.Proofs.Bytes.Reading
import TileAudit.Proofs.Command.Calls
import TileAudit.Proofs.Command.Order
import TileAudit.Proofs.Command.Residue
import TileAudit.Proofs.Command.Verdicts
import TileAudit.Proofs.Command.ZoomLevels
import TileAudit.Proofs.Comparison.Detection
import TileAudit.Proofs.Comparison.Differences
import TileAudit.Proofs.Comparison.Places
import TileAudit.Proofs.Comparison.Preview
import TileAudit.Proofs.Config.Template
import TileAudit.Proofs.Config.Writing
import TileAudit.Proofs.Database.Queries
import TileAudit.Proofs.Database.Tables
import TileAudit.Proofs.Effect.Run
import TileAudit.Proofs.Effect.Sequence
import TileAudit.Proofs.FileTree.Contents
import TileAudit.Proofs.FileTree.Directories
import TileAudit.Proofs.FileTree.Entries
import TileAudit.Proofs.FileTree.Lookup
import TileAudit.Proofs.FileTree.PathText
import TileAudit.Proofs.FileTree.Settling
import TileAudit.Proofs.FileTree.Surroundings
import TileAudit.Proofs.GeoTiff.Decoding
import TileAudit.Proofs.GeoTiff.Keys
import TileAudit.Proofs.GeoTiff.Refusal
import TileAudit.Proofs.GeoTiff.RoundTrip
import TileAudit.Proofs.Geometry.GeoTransform
import TileAudit.Proofs.Geometry.Orientation
import TileAudit.Proofs.Grid.Address
import TileAudit.Proofs.Grid.Resolution
import TileAudit.Proofs.Lzw
import TileAudit.Proofs.Raster.Addressing
import TileAudit.Proofs.Raster.Corners
import TileAudit.Proofs.Sampling.Agreement
import TileAudit.Proofs.Sampling.Coverage
import TileAudit.Proofs.Sampling.DefaultGrid
import TileAudit.Proofs.Sampling.Drift
import TileAudit.Proofs.Sampling.Equality
import TileAudit.Proofs.Sampling.Inside
import TileAudit.Proofs.Sampling.Painting
import TileAudit.Proofs.Sampling.Pixels
import TileAudit.Proofs.Sampling.Room
import TileAudit.Proofs.Scenario.AllOrNothing
import TileAudit.Proofs.Scenario.Keeping
import TileAudit.Proofs.Scenario.Preparation
import TileAudit.Proofs.Scenario.Progress
import TileAudit.Proofs.Scenario.Verdict
import TileAudit.Proofs.Store.Outcomes
import TileAudit.Proofs.Store.Reading
import TileAudit.Proofs.Store.Rows
import TileAudit.Proofs.Store.TilePaths
import TileAudit.Proofs.Synthetic
import TileAudit.Proofs.Text.Numeral
import TileAudit.Proofs.Text.Substitution
import TileAudit.Proofs.Tiff.Codec
import TileAudit.Proofs.Tiff.Directory
import TileAudit.Proofs.Tiff.Strips
import TileAudit.Proofs.Tiff.Values
import TileAudit.Proofs.Tiff.Written
import TileAudit.Proofs.Tile.Edits
import TileAudit.Proofs.Tile.Images
import TileAudit.Proofs.Tile.Normalization
import TileAudit.Proofs.Tile.Pixels
import TileAudit.Proofs.Workspace.Confinement
import TileAudit.Proofs.Workspace.Settled
import TileAudit.Proofs.Zlib
