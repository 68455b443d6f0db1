import Ducknng.Service.Pipes
import Ducknng.Http.ClientStreamDecode
import Ducknng.Rpc.UploadTarget
import Ducknng.Rpc.Prebuilt
import Ducknng.Arrow.Enums
import Ducknng.Arrow.Tables
import Ducknng.Arrow.Nesting
import Ducknng.Service.RequestGate
import Ducknng.Service.Delivery
import Ducknng.Service.IdleCleanup
import Ducknng.Service.AtRest
import Ducknng.Service.ReplyWorker
import Ducknng.Service.SessionSubject
import Ducknng.Http.StreamRoute
import Ducknng.Client.FetchTable
import Ducknng.Client.QueryScan
import Ducknng.Client.StreamLifetime
import Ducknng.Quack.Sequence
import Ducknng.Quack.TypeEquality
import Ducknng.Quack.Selection
import Ducknng.Quack.TwoPass
import Ducknng.Quack.Varint
import Ducknng.Quack.Budget
import Ducknng.Service.BatchSize
import Ducknng.Http.StreamRegistration
import Ducknng.Http.StaticFiles
import Ducknng.Body.Codecs
import Ducknng.Arrow.Temporal
import Ducknng.Http.EventRelay
