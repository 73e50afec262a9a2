import UtilsFramework.EventLoop.InterestCoherence
import UtilsFramework.EventLoop.StaleEvents
import UtilsFramework.EventLoop.StopRequests
import UtilsFramework.EventLoop.PendingWork
import UtilsFramework.EventLoop.ReportedEvents
import UtilsFramework.EventLoop.Progress
import UtilsFramework.EventLoop.ClientView
import UtilsFramework.ItcPubSub.HandlerLifetime
import UtilsFramework.ItcPubSub.Subscriptions
import UtilsFramework.Timer.Accounting
import UtilsFramework.Timer.ExpiryOrder
import UtilsFramework.Timer.Periodical
import UtilsFramework.Timer.DeadlineArithmetic
import UtilsFramework.ActiveObject.Termination
import UtilsFramework.ActiveObject.ServedQueue
import UtilsFramework.ActiveObject.SkippedEvents
import UtilsFramework.Startup.StartedOnce
import UtilsFramework.Startup.Timeouts
import UtilsFramework.Startup.Readiness
import UtilsFramework.ThreadLocal.PrivateInstances
import UtilsFramework.Components.Descriptors
import UtilsFramework.Components.Confinement
import UtilsFramework.Components.DueTimers
