import UsbManager.Lib.Prog
import UsbManager.Device
import UsbManager.DescriptorParser
import UsbManager.Search
import UsbManager.Walk
import UsbManager.Managers
import UsbManager.Service
import UsbManager.Config
import UsbManager.Bounds
import UsbManager.Progress
import UsbManager.Attach
import UsbManager.Lib.Run
import UsbManager.Sessions
import UsbManager.Access
import UsbManager.Rights
import UsbManager.Layout
import UsbManager.Block
import UsbManager.Plain
import UsbManager.Settings
import UsbManager.Segments
import UsbManager.Trace
import UsbManager.Endpoints
import UsbManager.DeviceParcel
import UsbManager.RoundTrip
import UsbManager.RightsTable
import UsbManager.Dialogs
import UsbManager.Callers
import UsbManager.Interface
import UsbManager.Proxy
import UsbManager.Stub
import UsbManager.Messages
import UsbManager.Handlers
import UsbManager.Sending
import UsbManager.Transparency
import UsbManager.Replies
import UsbManager.Hostile
import UsbManager.Lib.Words
import UsbManager.Shifts
import UsbManager.Client
import UsbManager.DeviceReplies
import UsbManager.Restarts
import UsbManager.DeviceManager
import UsbManager.Lib.Table
import UsbManager.PortManager
import UsbManager.Lib.Heap
import UsbManager.Store
import UsbManager.DeviceEvents
import UsbManager.StoreRaces
import UsbManager.DeviceJson
import UsbManager.Attached
import UsbManager.Forwarding
import UsbManager.Identity
import UsbManager.MaxPower
import UsbManager.Lib.Unicode
import UsbManager.DeviceStrings
import UsbManager.Closing
import UsbManager.EventFrame
import UsbManager.Functions
import UsbManager.Broadcasts
import UsbManager.Lib.JsonText
import UsbManager.ConsentText
import UsbManager.Napi
import UsbManager.Truncation
import UsbManager.Lib.Simulation
import UsbManager.System
import UsbManager.Requests
import UsbManager.Pointers
import UsbManager.Remote
import UsbManager.Lifecycle
import UsbManager.Lib.Engine
import UsbManager.JsObjects
import UsbManager.JsCalls
import UsbManager.JsTransfers
import UsbManager.JsResults
import UsbManager.BulkCallback
