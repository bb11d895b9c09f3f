import Loyalty.Accounts
import Loyalty.Achievements
import Loyalty.Coupons
import Loyalty.Json.Achievement
import Loyalty.Json.Coupon
import Loyalty.Json.Restaurant
import Loyalty.Json.Settings
import Loyalty.Json.User
import Loyalty.Proofs.Conservation
import Loyalty.Proofs.Ledger
import Loyalty.Proofs.Race
import Loyalty.Proofs.Twins
import Loyalty.Settings.Layers
import Loyalty.Store.Fault
import Loyalty.Store.Memory
import Loyalty.Store.Relational
import Loyalty.Proofs.Footprint
import Loyalty.Proofs.Sequence
import Loyalty.Proofs.Integrity
import Loyalty.Proofs.Visits
import Loyalty.Proofs.Overflow
import Loyalty.Proofs.Withdrawal
import Loyalty.Proofs.Recovery
import Loyalty.Proofs.Refusals
import Loyalty.Proofs.Redemptions
import Loyalty.Proofs.Enrolment
import Loyalty.Proofs.Registrations
import Loyalty.Proofs.Requests
import Loyalty.Proofs.Columns
import Loyalty.Proofs.MappedTables
import Loyalty.Proofs.Balances
import Loyalty.Proofs.Entries
import Loyalty.Proofs.Account
import Loyalty.Proofs.Archives
import Loyalty.Proofs.RecordsJson
import Loyalty.Proofs.Documents
import Loyalty.Proofs.UserTable
import Loyalty.Proofs.Digests
import Loyalty.Proofs.Reach
import Loyalty.Proofs.Chronicle
import Loyalty.Proofs.Revisions
import Loyalty.Proofs.AccountRecords
import Loyalty.Proofs.CouponRecords
import Loyalty.Proofs.Availability
import Loyalty.Proofs.Listings
import Loyalty.Proofs.Levels
import Loyalty.Proofs.Gates
import Loyalty.Proofs.Decisions
import Loyalty.Proofs.Shortfalls
import Loyalty.Proofs.Snapshots
import Loyalty.Proofs.Commuting
import Loyalty.Proofs.CutTexts
import Loyalty.Proofs.Numerals
import Loyalty.Proofs.DateForms
import Loyalty.Proofs.CompactForms
import Loyalty.Proofs.CompactRoundTrip
import Loyalty.Proofs.Allotments
import Loyalty.Proofs.CouponForms
import Loyalty.Proofs.AchievementForms
import Loyalty.Proofs.Started
import Loyalty.Proofs.Spans
