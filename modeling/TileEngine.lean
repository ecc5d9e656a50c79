import TileEngine.ActionQueue
import TileEngine.Bitmap.Blit
import TileEngine.Bitmap.Paint
import TileEngine.Cache.Describe
import TileEngine.Cache.Desk
import TileEngine.Cache.Scene
import TileEngine.Config.Reader
import TileEngine.Config.Writer
import TileEngine.Engine
import TileEngine.Event
import TileEngine.Loader.Picture
import TileEngine.Loader.Tagged
import TileEngine.Loader.World
import TileEngine.Proofs.Bitmap.Detour
import TileEngine.Proofs.Cache.Custody
import TileEngine.Proofs.Cache.Shared
import TileEngine.Proofs.Cache.Waiters
import TileEngine.Source.Basic
import TileEngine.Surface
import TileEngine.Text.Identifier
import TileEngine.Text.Quoted
import TileEngine.Tile.Document
import TileEngine.Proofs.Loader.Consistent
import TileEngine.Proofs.Loader.Reports
import TileEngine.Proofs.Cache.Fate
import TileEngine.Proofs.Cache.Leak
import TileEngine.Proofs.Engine.Calls
import TileEngine.Proofs.Engine.Life
import TileEngine.Proofs.Engine.Schedule
import TileEngine.Proofs.Bitmap.Repaint
import TileEngine.Proofs.Tile.Drawing
import TileEngine.Proofs.Tile.Places
import TileEngine.Proofs.ByteStream.Refused
import TileEngine.Proofs.Bitmap.Converted
import TileEngine.Proofs.Bitmap.Move
import TileEngine.Proofs.Bitmap.Total
import TileEngine.Proofs.Bitmap.RoundTrip
import TileEngine.Proofs.Engine.Overflow
import TileEngine.Proofs.Loader.Search
import TileEngine.Proofs.Cache.Taken
import TileEngine.Proofs.Cache.Failed
import TileEngine.Proofs.Cache.Told
import TileEngine.Proofs.Engine.Updates
import TileEngine.Proofs.Cache.Upkeep
import TileEngine.Proofs.Tile.Columns
import TileEngine.Proofs.Engine.Backlog
import TileEngine.Proofs.Text.Utf8
import TileEngine.Proofs.ByteStream.Lines
import TileEngine.Proofs.Json.Blanks
import TileEngine.Proofs.Loader.Prefixed
import TileEngine.Proofs.Geometry.Intersection
import TileEngine.Proofs.Bitmap.Exchange
import TileEngine.Proofs.Source.Steps
import TileEngine.Proofs.Source.Confined
import TileEngine.Proofs.Ron.Written
import TileEngine.Proofs.Config.Saved
import TileEngine.Proofs.Palette.Search
import TileEngine.Proofs.Bitmap.Pixels
