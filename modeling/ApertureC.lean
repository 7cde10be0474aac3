import ApertureC.TrackingBuffer
import ApertureC.FrameDelivery
import ApertureC.MediaPipeline
import ApertureC.MediaLoop
import ApertureC.EncoderLabels
import ApertureC.ClientThreads
import ApertureC.TunnelTeardown
import ApertureC.InOrderCodec
import ApertureC.DuplexSplit
import ApertureC.BackendTask
import ApertureC.Lib.SplitStream
import ApertureC.TunnelDispatch
import ApertureC.TunnelOrder
import ApertureC.TunnelLocalClose
import ApertureC.TunnelServerClose
import ApertureC.DrawOrder
import ApertureC.EuclidMap
import ApertureC.ClientUi
import ApertureC.UiScreen
import ApertureC.UiSession
import ApertureC.UiDrawing
import ApertureC.UiFreshness
import ApertureC.FrameConservation
import ApertureC.CursorShown
import ApertureC.FrameReplay
import ApertureC.FrameWake
import ApertureC.Lib.Tiling
import ApertureC.PartitionTiling
import ApertureC.Datagram
import ApertureC.DatagramDelivery
import ApertureC.TunnelCloseOnce
import ApertureC.SessionLoop
import ApertureC.SessionTeardown
import ApertureC.DisplayConfigWire
import ApertureC.PartitionShares
import ApertureC.EncoderTermination
import ApertureC.InOrderHostile
import ApertureC.JxlInput
import ApertureC.JxlOutput
import ApertureC.DisplaySlots
import ApertureC.AcceptLoop
import ApertureC.TunnelBytes
import ApertureC.TunnelWouldBlock
import ApertureC.Lib.Semaphore
import ApertureC.RateLimit
import ApertureC.CursorTexture
import ApertureC.PointerInput
import ApertureC.EuclidRuns
import ApertureC.SimdEq
import ApertureC.FragmentOnce
import ApertureC.XFrameBuffer
import ApertureC.Lib.IpAddr
import ApertureC.Lib.Utf8Lossy
import ApertureC.TlsMaterial
import ApertureC.Handshake
import ApertureC.Lib.History
import ApertureC.ServerDialogue
import ApertureC.ServerExit
import ApertureC.InputHistory
import ApertureC.DamageStream
import ApertureC.DisplayRequests
import ApertureC.ModesInUse
import ApertureC.ScreenShown
import ApertureC.Lib.Settling
import ApertureC.ServerRest
import ApertureC.ScreenSettles
import ApertureC.FrameChannels
