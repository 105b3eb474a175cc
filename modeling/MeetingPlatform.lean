import MeetingPlatform.Lib.Table
import MeetingPlatform.Lib.Runs
import MeetingPlatform.Lib.Guards
import MeetingPlatform.Lib.HalfOpen
import MeetingPlatform.Lib.ExpiringStore
import MeetingPlatform.Lib.CallPool
import MeetingPlatform.Booking.Store
import MeetingPlatform.Booking.Errors
import MeetingPlatform.Booking.Config
import MeetingPlatform.Booking.Edits
import MeetingPlatform.Booking.Review
import MeetingPlatform.Booking.Live
import MeetingPlatform.Booking.Dossier
import MeetingPlatform.Booking.Handlers
import MeetingPlatform.Booking.Lifecycle
import MeetingPlatform.Booking.Operations
import MeetingPlatform.Booking.Ownership
import MeetingPlatform.Booking.Decisions
import MeetingPlatform.Booking.NoOverlap
import MeetingPlatform.Booking.Restoration
import MeetingPlatform.Booking.ConcurrentBooking
import MeetingPlatform.Booking.ConcurrentLifecycle
import MeetingPlatform.Booking.ConcurrentExtension
import MeetingPlatform.NoShow.Cases
import MeetingPlatform.NoShow.Interleaving
import MeetingPlatform.NoShow.FinalStatuses
import MeetingPlatform.NoShow.AutoRelease
import MeetingPlatform.Lib.Tally
import MeetingPlatform.Transcription.Segments
import MeetingPlatform.Transcription.MergedSpeaker
import MeetingPlatform.Transcription.OverlapWindows
import MeetingPlatform.Transcription.OverlapFlags
import MeetingPlatform.Transcription.Pipeline
import MeetingPlatform.Transcription.ReviewFlags
import MeetingPlatform.Transcription.ChannelZone
import MeetingPlatform.Scheduling.FreeBusy
import MeetingPlatform.Scheduling.TimeSuggestion
import MeetingPlatform.Scheduling.ParticipantConflict
import MeetingPlatform.Scheduling.Agreement
import MeetingPlatform.Auth.Tokens
import MeetingPlatform.Auth.Passwords
import MeetingPlatform.Auth.Sessions
import MeetingPlatform.Auth.PasswordChange
import MeetingPlatform.Auth.Logout
import MeetingPlatform.Auth.Rotation
import MeetingPlatform.Auth.ResetCodes
import MeetingPlatform.Guest.Invites
import MeetingPlatform.Guest.Calls
import MeetingPlatform.Guest.Codes
import MeetingPlatform.Guest.Revocation
import MeetingPlatform.Guest.Sessions
import MeetingPlatform.Guest.Cutoff
import MeetingPlatform.Guest.Rejection
import MeetingPlatform.Vehicles.PlateReads
import MeetingPlatform.Alerts.SecurityAlerts
import MeetingPlatform.Alerts.OneOpenAlert
import MeetingPlatform.Alerts.CrowdRescan
import MeetingPlatform.Vehicles.ControlAlerts
import MeetingPlatform.Gates.GateLogs
import MeetingPlatform.Gates.GatePairing
import MeetingPlatform.Gates.PairingOrder
import MeetingPlatform.Recording.Processes
import MeetingPlatform.Recording.Sessions
import MeetingPlatform.Recording.Tracking
import MeetingPlatform.Recording.FailedResume
import MeetingPlatform.Recording.Finished
import MeetingPlatform.Lib.ParentLinks
import MeetingPlatform.Accounts.Departments
import MeetingPlatform.Accounts.Hierarchy
import MeetingPlatform.Accounts.HierarchyDepth
import MeetingPlatform.Transcripts.Store
import MeetingPlatform.Transcripts.Statuses
import MeetingPlatform.Transcripts.Versions
import MeetingPlatform.Lib.OrderedMap
import MeetingPlatform.Lib.LockedInsert
import MeetingPlatform.Lib.Stretches
import MeetingPlatform.Transcripts.SpeakerMappings
import MeetingPlatform.Transcripts.RerunMappings
import MeetingPlatform.Transcripts.Edits
import MeetingPlatform.Transcripts.KeptEdits
import MeetingPlatform.Presence.FaceEvents
import MeetingPlatform.Presence.Deduplication
import MeetingPlatform.Presence.Segments
import MeetingPlatform.Presence.Occupancy
import MeetingPlatform.Presence.PresenceTimes
import MeetingPlatform.Presence.Confirmation
import MeetingPlatform.Lib.NumberedParts
import MeetingPlatform.Recording.Footage
import MeetingPlatform.Accounts.ConcurrentMoves
import MeetingPlatform.Alerts.EventScans
import MeetingPlatform.Booking.TimeWarnings
import MeetingPlatform.Booking.RoomUsages
import MeetingPlatform.Booking.UsageClosing
import MeetingPlatform.Booking.BookingCodes
import MeetingPlatform.Lib.AbortedTransactions
import MeetingPlatform.Recording.AudioTracks
import MeetingPlatform.Vehicles.LostReads
import MeetingPlatform.Lib.CheckedCount
import MeetingPlatform.Participants.RoomCapacity
import MeetingPlatform.Agenda.Items
import MeetingPlatform.Lib.Numbering
import MeetingPlatform.Agenda.Calls
import MeetingPlatform.Agenda.Numbers
import MeetingPlatform.Agenda.Owners
import MeetingPlatform.Accounts.DepartmentScope
import MeetingPlatform.Accounts.Users
import MeetingPlatform.Accounts.InactiveDepartments
import MeetingPlatform.Accounts.LastAdmin
import MeetingPlatform.Accounts.Lockout
import MeetingPlatform.Accounts.RolePermissions
import MeetingPlatform.Minutes.Access
import MeetingPlatform.Minutes.RowLocks
import MeetingPlatform.Minutes.IssuedMinutes
import MeetingPlatform.Minutes.TextVersions
import MeetingPlatform.FaceAccess.Provisioning
import MeetingPlatform.FaceAccess.TrackedFaces
import MeetingPlatform.FaceAccess.RemovedParticipants
import MeetingPlatform.Transcription.WindowSpeakers
import MeetingPlatform.Transcription.MergedConfidence
import MeetingPlatform.Transcription.MergedWords
import MeetingPlatform.Scheduling.SoundSlots
import MeetingPlatform.Attendance.Records
import MeetingPlatform.Attendance.Steps
import MeetingPlatform.Attendance.Times
import MeetingPlatform.Attendance.OneRecord
import MeetingPlatform.Attendance.Shown
import MeetingPlatform.Attendance.CheckInAlerts
import MeetingPlatform.FaceAccess.Schedule
import MeetingPlatform.Lib.Admission
import MeetingPlatform.Participants.ImportRows
import MeetingPlatform.Participants.OneByOne
import MeetingPlatform.Participants.ImportedRows
import MeetingPlatform.Gates.LeftOver
import MeetingPlatform.Attendance.SameFlags
import MeetingPlatform.Recording.PausedTime
import MeetingPlatform.Lib.Spans
import MeetingPlatform.Presence.FaceSessions
import MeetingPlatform.Presence.Stays
import MeetingPlatform.Presence.PresencePartition
import MeetingPlatform.Lib.Patterns
import MeetingPlatform.Notes.Sanitizer
import MeetingPlatform.Lib.Doubles
import MeetingPlatform.Lib.JsonValues
import MeetingPlatform.Devices.MalformedFields
import MeetingPlatform.Lib.IsoTimes
import MeetingPlatform.Scheduling.BestSlots
import MeetingPlatform.Notifications.EmailDelivery
import MeetingPlatform.Notifications.MailCounts
import MeetingPlatform.Notifications.DeliveryOutcomes
import MeetingPlatform.Portraits.FaceProfiles
import MeetingPlatform.Portraits.PortraitSync
import MeetingPlatform.Portraits.OwnPersons
import MeetingPlatform.Portraits.ShownPictures
import MeetingPlatform.Portraits.Convergence
import MeetingPlatform.Lib.Base64Url
import MeetingPlatform.Lib.Paths
import MeetingPlatform.Lib.SignedTexts
import MeetingPlatform.Lib.Utf8
import MeetingPlatform.Media.DownloadLinks
import MeetingPlatform.Equipment.FaultHistory
