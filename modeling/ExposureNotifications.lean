import ExposureNotifications.Database.Store
import ExposureNotifications.Database.Lock
import ExposureNotifications.Database.Federation
import ExposureNotifications.Database.APIConfig
import ExposureNotifications.Runs.LockRuns
import ExposureNotifications.Runs.FederationRuns
import ExposureNotifications.Tools.SetFederationQuery
import ExposureNotifications.Runs.Separation
import ExposureNotifications.Refinement.Registry
