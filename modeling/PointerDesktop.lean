import PointerDesktop.Desktop.Operation
import PointerDesktop.Ports.Bringup
import PointerDesktop.Ports.Script
import PointerDesktop.Proofs.EdgeSpans
import PointerDesktop.Proofs.FocusFollow
import PointerDesktop.Proofs.MinimumSize
import PointerDesktop.Proofs.WindowInv
import PointerDesktop.Proofs.WholeDrag
import PointerDesktop.Proofs.StackRuns
import PointerDesktop.Proofs.GestureLife
import PointerDesktop.Proofs.WholeResize
import PointerDesktop.Proofs.ClickOrDrag
import PointerDesktop.Proofs.Refusals
import PointerDesktop.Proofs.Deliveries
import PointerDesktop.Proofs.EventRouting
import PointerDesktop.Proofs.GivenIds
import PointerDesktop.Proofs.Recency
import PointerDesktop.Proofs.SizeNotices
import PointerDesktop.Proofs.PacketEncoding
import PointerDesktop.Proofs.DrainedSamples
import PointerDesktop.Proofs.PaintOrder
import PointerDesktop.Proofs.OnScreen
import PointerDesktop.Proofs.WindowSteps
import PointerDesktop.Proofs.PixelOrigins
import PointerDesktop.Proofs.SparedAxes
import PointerDesktop.Proofs.WindowLife
import PointerDesktop.Proofs.CursorTrail
import PointerDesktop.Proofs.Locality
import PointerDesktop.Proofs.Commuting
import PointerDesktop.Proofs.CheckedParts
import PointerDesktop.Proofs.CheckedRuns
import PointerDesktop.Proofs.SeenGrabs
import PointerDesktop.Proofs.Handshake
import PointerDesktop.Proofs.HiddenFocus
import PointerDesktop.Proofs.ClientArea
import PointerDesktop.Proofs.TitlebarHits
import PointerDesktop.Proofs.LocalPlaces
import PointerDesktop.Proofs.ByteFates
import PointerDesktop.Proofs.Realignment
import PointerDesktop.Proofs.RepeatedDrains
import PointerDesktop.Proofs.SinkRegisters
