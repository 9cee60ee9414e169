import RangeApply.Submission
import RangeApply.Pressed
import RangeApply.GateRace
import RangeApply.Release
import RangeApply.Readmission
import RangeApply.Verification
import RangeApply.Budget
import RangeApply.Cooldown
import RangeApply.Cancellation
import RangeApply.Unverified
import RangeApply.Finished
import RangeApply.Overtaking
import RangeApply.Tries
import RangeApply.Mutex
import RangeApply.Recheck
import RangeApply.Refresh
import RangeApply.Accounting
import RangeApply.RunLock
import RangeApply.Agreement
import RangeApply.Tenants
import RangeApply.Priority
import RangeApply.Merging
import RangeApply.Backing
import RangeApply.Derived
import RangeApply.Lifecycle
import RangeApply.Standing
import RangeApply.Reprocess
import RangeApply.Employers
import RangeApply.Grounding
import RangeApply.Isolation
import RangeApply.Freshness
import RangeApply.Workers
import RangeApply.Derivation
import RangeApply.Ties
import RangeApply.Calls
import RangeApply.PageMatch
import RangeApply.Hindsight
import RangeApply.Artifacts
import RangeApply.Scoring
import RangeApply.Resync
import RangeApply.Listing
import RangeApply.Payload
import RangeApply.Hints
import RangeApply.Lookup
import RangeApply.Outranking
import RangeApply.Truth
import RangeApply.Bank
import RangeApply.Numbers
import RangeApply.Choice
import RangeApply.Settings
import RangeApply.Places
import RangeApply.Shadowing
import RangeApply.Lossless
import RangeApply.TokenBucket
import RangeApply.Target
import RangeApply.JobKeys
import RangeApply.CompanyNames
import RangeApply.Diagnostics
import RangeApply.Timestamps
import RangeApply.Periods
import RangeApply.UrlQuery
import RangeApply.Urls
import RangeApply.NormalForm
import RangeApply.Survivors
import RangeApply.Streak
import RangeApply.Fetching
import RangeApply.Outage
import RangeApply.Health
import RangeApply.Boards
import RangeApply.Program
import RangeApply.Width
import RangeApply.Playwright
import RangeApply.Executor
import RangeApply.Filling
import RangeApply.Clicking
import RangeApply.Conduct
import RangeApply.Arrival
import RangeApply.Typing
import RangeApply.Sending
import RangeApply.Invocations
import RangeApply.Conducted
import RangeApply.Shown
import RangeApply.Overlay
import RangeApply.Snapshots
import RangeApply.Mapping
import RangeApply.Captures
import RangeApply.Applying
import RangeApply.Occurrences
import RangeApply.Seniority
import RangeApply.Whereabouts
