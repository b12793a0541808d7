import Protun.Agent.Shown
import Protun.Agent.Stats
import Protun.Android.Binder
import Protun.Android.Cache
import Protun.Android.Config
import Protun.Android.Networks
import Protun.Android.Ticks
import Protun.Android.Wishes
import Protun.CaptureFile
import Protun.Client.Impl
import Protun.Connection.Acks
import Protun.Connection.Agent
import Protun.Connection.Capture
import Protun.Connection.Deadline
import Protun.Connection.Drained
import Protun.Connection.Interface
import Protun.Connection.Outcomes
import Protun.Connection.PeerTable
import Protun.Connection.Recorder
import Protun.Connection.Recording
import Protun.Connection.Recovering
import Protun.Connection.Sent
import Protun.Connection.Update
import Protun.Recovery.Runs
import Protun.Streams.Registered
import Protun.Streams.Shutdown
import Protun.Streams.WriteLoops
import Protun.Threads.Channel
import Protun.Threads.Wakeup
import Protun.Windows.Addresses
import Protun.Windows.Journal
import Protun.Windows.Session
