import OpenCord.Attachments.Accounting
import OpenCord.Attachments.Linking
import OpenCord.Attachments.Ownership
import OpenCord.Auth.AssertionPayload
import OpenCord.Auth.Endpoints
import OpenCord.Auth.ProviderChoice
import OpenCord.Auth.SsoEnforcement
import OpenCord.Billing.PlanAgreement
import OpenCord.Calendars.ConcurrentSyncs
import OpenCord.Compat.Messages
import OpenCord.Conversations.Files
import OpenCord.Conversations.Followers
import OpenCord.Exports.Services
import OpenCord.Gateway.FrameOrder
import OpenCord.Gateway.Payloads
import OpenCord.Gateway.ReplayPages
import OpenCord.Gateway.ResumableNumbers
import OpenCord.Gateway.ResumeReplay
import OpenCord.Gateway.SequenceNumbers
import OpenCord.Jobs.Settlement
import OpenCord.Meetings.Cancellation
import OpenCord.Meetings.DrainedReminders
import OpenCord.Meetings.EscapedText
import OpenCord.Meetings.InviteLines
import OpenCord.Meetings.PositiveLength
import OpenCord.Meetings.ReminderTimes
import OpenCord.Messages.Deletion
import OpenCord.Messages.NormalizedEmbeds
import OpenCord.Presence.Agreement
import OpenCord.Queue.Kafka
import OpenCord.RateLimits.RetryAfter
import OpenCord.Retention.DryRuns
import OpenCord.Retention.Expiry
import OpenCord.Retention.FailingStores
import OpenCord.Server.AuditTrails
import OpenCord.Server.CredentialRotation
import OpenCord.Server.DeactivatedAccess
import OpenCord.Server.EventIsolation
import OpenCord.Server.FailedMessages
import OpenCord.Server.Grants
import OpenCord.Server.InteractionLifecycle
import OpenCord.Server.InteractionTokens
import OpenCord.Server.Invitations
import OpenCord.Server.LiveConnections
import OpenCord.Server.MediaTokens
import OpenCord.Server.MentionResolution
import OpenCord.Server.MissedEvents
import OpenCord.Server.Reactivation
import OpenCord.Server.ScimAgreement
import OpenCord.Server.Visibility
import OpenCord.Tenancy.CanonicalSlugs
import OpenCord.Tenancy.CustomDomains
import OpenCord.Tenancy.PermissionResolution
import OpenCord.Tenancy.PrivateChannels
import OpenCord.Tenancy.SpaceOwners
