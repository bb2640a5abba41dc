import AirTizen.Library.Machine
import AirTizen.Library.RetainedLog
import AirTizen.Library.Scan
import AirTizen.Library.Text
import AirTizen.Video.Store
import AirTizen.Video.Stream
import AirTizen.Video.Parts
import AirTizen.Video.Refinement
import AirTizen.Video.Window
import AirTizen.Library.Binary64
import AirTizen.Video.Playlist
import AirTizen.Video.Immutability
import AirTizen.Library.Scanf
import AirTizen.Library.Interaction
import AirTizen.Control.Request
import AirTizen.Control.Route
import AirTizen.Control.Server
import AirTizen.Control.Authorization
import AirTizen.Control.Noninterference
import AirTizen.Video.Groups
import AirTizen.Video.PlaylistText
import AirTizen.Control.PlaylistRoutes
import AirTizen.Control.Fetch
import AirTizen.Mirror.Packet
import AirTizen.Mirror.Session
import AirTizen.Video.Packing
import AirTizen.Mirror.ClockRestart
import AirTizen.Media.Playback
import AirTizen.Media.Photo
import AirTizen.Reverse.Channel
import AirTizen.Reverse.PlaybackEvents
import AirTizen.Presenter.Configuration
import AirTizen.Page.Share
import AirTizen.Page.Seek
import AirTizen.Page.Photo
import AirTizen.Page.Players
import AirTizen.Page.Sessions
import AirTizen.Audio.Queue
import AirTizen.Audio.Fifo
import AirTizen.Audio.Host
import AirTizen.Media.PhotoCache
import AirTizen.Media.PhotoInvariant
import AirTizen.Media.PinnedPhoto
import AirTizen.Video.SlidingWindow
import AirTizen.Receiver.Activation
import AirTizen.Presenter.Agreement
import AirTizen.Receiver.Lifecycle
import AirTizen.Receiver.Stopped
import AirTizen.Library.Pool
import AirTizen.Library.WholeNumber
import AirTizen.Page.MseVideo
import AirTizen.Page.MseChain
import AirTizen.Page.MsePrecision
import AirTizen.Media.Uploads
import AirTizen.Library.Buffer
import AirTizen.Mirror.H264
import AirTizen.Video.Outcomes
import AirTizen.Mirror.ParameterSets
import AirTizen.Presenter.Awaited
import AirTizen.Mirror.Framing
import AirTizen.Reverse.PhotoSessions
import AirTizen.Library.Cursor
import AirTizen.Library.Dns
import AirTizen.Discovery.Announcement
import AirTizen.Library.Utf8
import AirTizen.Library.Json
import AirTizen.Status.Quote
import AirTizen.Library.Printf
import AirTizen.Library.JsonShape
import AirTizen.Status.Document
import AirTizen.Status.Complete
import AirTizen.Discovery.Names
import AirTizen.Discovery.Query
import AirTizen.Discovery.Reply
import AirTizen.Library.TagLength
import AirTizen.Metadata.Dmap
import AirTizen.Mirror.StartCodes
import AirTizen.Status.QuoteBuffer
import AirTizen.Library.StringArray
import AirTizen.Control.RequestBuffer
import AirTizen.Audio.Delivery
import AirTizen.Mirror.Closing
import AirTizen.Library.Base64
import AirTizen.Media.ImageHeader
import AirTizen.Receiver.AppleChallenge
import AirTizen.Audio.Decoders
import AirTizen.Audio.Parameters
import AirTizen.Status.LogExport
import AirTizen.Control.MediaRoutes
import AirTizen.Library.ReorderWindow
import AirTizen.Audio.JitterBuffer
import AirTizen.Audio.JitterWindow
import AirTizen.Audio.Playout
import AirTizen.Audio.Gaps
import AirTizen.Library.Words
import AirTizen.Library.BlockCipher
import AirTizen.Library.KeyStream
import AirTizen.Crypto.Aes2
import AirTizen.Crypto.Aes
import AirTizen.Crypto.Rounds
import AirTizen.Crypto.CounterMode
import AirTizen.Crypto.MirrorStream
import AirTizen.Audio.Encrypted
import AirTizen.Page.Commands
