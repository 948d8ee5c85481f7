import Chttp.Hpack.HuffmanCode
import Chttp.Hpack.ListLimit
import Chttp.H2.Retry
import Chttp.H2.Segmentation
import Chttp.H2.FlowControl
import Chttp.H2.Credit
import Chttp.H2.Body
import Chttp.H2.SourceError
import Chttp.H2.Recycling
import Chttp.H2.Admission
import Chttp.Server.BufferBudget
import Chttp.Server.Head
import Chttp.Server.Owners
import Chttp.Server.Stages
import Chttp.Server.Upgrade
import Chttp.Server.Deferred.Deadline
import Chttp.Server.RateLimit.Refinement
import Chttp.Server.Session.Rollback
import Chttp.App.Upload.Transaction
import Chttp.App.Assets.Containment
import Chttp.App.Auth.ReturnTarget
import Chttp.App.Auth.Fixation
import Chttp.Server.EntityTags
import Chttp.Server.Session.Cookie
import Chttp.S3.Resume
import Chttp.App.Service.Views
import Chttp.App.FormPlan
